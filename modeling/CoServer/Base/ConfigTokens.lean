import CoServer.Base.ConfigLayout

/-! # What the tokenizer accepts

A line is scanned with a word that is open at its end and with the terminator
seen last.  The scan says which words a line has, where it ends and how deep it
nests; the blocks that are returned hold these words and nothing else. -/

namespace CoServer

open ConfigChar LineScan BlockScan

/-! ## Lines -/

def isTerminator (ch : UInt8) : Bool := ch ∈ [chSemicolon, chOpen, chClose]

def isSeparator (ch : UInt8) : Bool := ch ∈ [chSpace, chTab]

/-- A character of a word. -/
def isPlain (ch : UInt8) : Bool := ch ≠ chSharp && !isSeparator ch && !isTerminator ch

def beforeComment (line : Bytes) : Bytes := line.takeWhile (· ≠ chSharp)

/-- The longest runs of plain characters, the first of which goes on with `word`. -/
def wordsFrom (word : Bytes) : Bytes → List Bytes
  | [] => if word = [] then [] else [word]
  | ch :: text =>
    if isPlain ch then wordsFrom (word ++ [ch]) text
    else (if word = [] then [] else [word]) ++ wordsFrom [] text

def lineWords (line : Bytes) : List Bytes := wordsFrom [] (beforeComment line)

/-- The last character but blanks is a terminator. -/
def EndsTerminated (text : Bytes) : Prop :=
  ∃ front terminator trail, text = front ++ terminator :: trail ∧ isTerminator terminator = true ∧
    IsGap trail

/-- Words, a blank behind the last of them, and no terminator. -/
structure Unfinished (text : Bytes) : Prop where
  word : ∃ ch ∈ text, isPlain ch = true
  blank : ∃ front ch, text = front ++ [ch] ∧ isSeparator ch = true
  unterminated : ∀ ch ∈ text, isTerminator ch = false

/-- How many more braces are opened than closed. -/
def depth : Bytes → Int
  | [] => 0
  | ch :: text => level ch 0 + depth text

/-- Every brace is closed, and none that was not opened. -/
structure Balanced (text : Bytes) : Prop where
  closed : depth text = 0
  opened : ∀ front, front <+: text → 0 ≤ depth front

section
variable {word text : Bytes} {ch : UInt8}

theorem isPlain_iff : isPlain ch = true ↔
    ch ≠ chSharp ∧ isSeparator ch = false ∧ isTerminator ch = false := by
  simp [isPlain, and_assoc]

theorem isSeparator_iff : isSeparator ch = true ↔ ch = chSpace ∨ ch = chTab := by
  simp [isSeparator]

theorem isTerminator_iff : isTerminator ch = true ↔
    ch = chSemicolon ∨ ch = chOpen ∨ ch = chClose := by
  simp [isTerminator]

/-- Every character is one of four kinds. -/
theorem char_kind (ch : UInt8) :
    ch = chSharp ∨ isPlain ch = true ∨ isSeparator ch = true ∨ isTerminator ch = true := by
  by_cases sharp : ch = chSharp
  · exact .inl sharp
  · cases blank : isSeparator ch with
    | true => exact .inr (.inr (.inl rfl))
    | false =>
      cases terminator : isTerminator ch with
      | true => exact .inr (.inr (.inr rfl))
      | false => exact .inr (.inl (isPlain_iff.2 ⟨sharp, blank, terminator⟩))

theorem wordsFrom_eq_nil : wordsFrom word text = [] ↔ word = [] ∧ ∀ ch ∈ text, isPlain ch = false := by
  induction text generalizing word with
  | nil => simp [wordsFrom]
  | cons ch text ih =>
    unfold wordsFrom
    cases plain : isPlain ch with
    | true => simp [ih, plain]
    | false => simp [ih, plain]

theorem level_other (other : isTerminator ch = false) : level ch 0 = 0 := by
  simp only [isTerminator, decide_eq_false_iff_not, List.mem_cons, not_or] at other
  rw [level, if_neg other.2.1, if_neg other.2.2.1]

theorem depth_append (front back : Bytes) : depth (front ++ back) = depth front + depth back := by
  induction front with
  | nil => simp [depth]
  | cons ch front ih => simp only [List.cons_append, depth, ih, Int.add_assoc]

end

/-! ## The scan of a line -/

/-- A scan whose open word is `word`, behind `front`; before it, `found` said whether the block
    had words. -/
structure Scanning (found : Bool) (front word : Bytes) (scan : LineScan) : Prop where
  between : word = [] → scan.beginPos = none
  begun : word ≠ [] → scan.beginPos = some front.length ∧ scan.endPos = none ∧ scan.fin = none
  find : scan.find = true ↔ found = true ∨ scan.args ≠ []
  inside : 0 ≤ scan.nest
  bounded : scan.nest < 2 ^ 31

section
variable {found : Bool} {line front word rest : Bytes} {lineno : Int} {scan final : LineScan} {ch : UInt8}

/-- A character that is no comment sign is handled without an error, and the scan goes on. -/
theorem scanLine_step {i : Nat} (ran : scanLine line lineno (ch :: rest) i scan = .ok final)
    (inLine : ch ≠ chSharp) :
    ∃ mid, switchChar lineno i ch scan = .ok mid ∧ 0 ≤ mid.nest ∧
      scanLine line lineno rest (i + 1) (collectArg line mid) = .ok final := by
  unfold scanLine at ran
  split at ran
  · cases ran
  · rename_i mid switched
    split at ran
    · cases ran
    · rename_i above
      dsimp only at ran
      exact ⟨mid, switched, Int.not_lt.1 above, ran⟩

/-- A plain character starts a word or goes on with it, unless a terminator was seen. -/
theorem Scanning.plain (scanning : Scanning found front word scan) (plain : isPlain ch = true)
    (ran : scanLine line lineno (ch :: rest) (front.length + word.length) scan = .ok final) :
    scan.fin = none ∧ ∃ next, Scanning found front (word ++ [ch]) next ∧ next.fin = none ∧
      next.args = scan.args ∧ next.nest = scan.nest ∧
      scanLine line lineno rest (front.length + (word ++ [ch]).length) next = .ok final := by
  obtain ⟨notSharp, notBlank, notTerminator⟩ := isPlain_iff.1 plain
  have notBlank : ¬(ch = chSpace ∨ ch = chTab) := by simp [← isSeparator_iff, notBlank]
  have notTerminator : ¬(ch = chSemicolon ∨ ch = chOpen ∨ ch = chClose) := by
    simp [← isTerminator_iff, notTerminator]
  simp only [not_or] at notTerminator
  obtain ⟨mid, switched, above, ran⟩ := scanLine_step ran notSharp
  rw [switchChar, if_neg notSharp, if_neg notBlank, if_neg notTerminator.1, if_neg notTerminator.2.1,
    if_neg notTerminator.2.2] at switched
  -- behind a terminator a plain character is an error
  cases fin : scan.fin with
  | some fin => simp [fin] at switched
  | none =>
    refine ⟨rfl, { scan with beginPos := some front.length, endPos := none }, ?_, fin, rfl, rfl, ?_⟩
    · exact ⟨by simp, fun _ => ⟨rfl, rfl, fin⟩, scanning.find, scanning.inside, scanning.bounded⟩
    · simp only [fin] at switched
      have same : collectArg line mid = { scan with beginPos := some front.length, endPos := none } := by
        -- a fresh word begins here; one that is open keeps its beginning
        by_cases fresh : word = []
        · rw [scanning.between fresh, fresh] at switched
          cases switched
          simp [collectArg, fin]
        · obtain ⟨begun, unended, _⟩ := scanning.begun fresh
          rw [begun] at switched
          cases switched
          have same : scan = { scan with beginPos := some front.length, endPos := none } := by
            rw [← begun, ← unended]
          rw [collectArg, begun, unended]
          exact same
      rw [← same, List.length_append]
      exact ran

/-- What the `switch` does at the end of a word. -/
theorem Scanning.switched (scanning : Scanning found front word scan) {i : Nat} {mid : LineScan}
    (ends : isSeparator ch = true ∨ isTerminator ch = true)
    (switched : switchChar lineno i ch scan = .ok mid) (above : 0 ≤ mid.nest) :
    mid = { scan with
      nest := scan.nest + level ch 0
      endPos := some (i - 1)
      fin := if isTerminator ch then some ch else scan.fin } ∧ scan.nest + level ch 0 < 2 ^ 31 := by
  have inside := scanning.inside
  have bounded := scanning.bounded
  -- an `int32_t` that is not negative after a step by one has not wrapped
  have count : ∀ nest : Int, 0 ≤ int32 nest → -1 ≤ nest → nest ≤ 2 ^ 31 → int32 nest = nest := by
    intro nest above low high
    have bounds := int32_bounds nest
    obtain ⟨turns, turned⟩ := int32_turns nest
    omega
  obtain blank | terminator := ends
  · have same : level ch 0 = 0 ∧ isTerminator ch = false := by
      obtain rfl | rfl := isSeparator_iff.1 blank <;> decide
    rw [same.1, same.2, Int.add_zero]
    obtain rfl | rfl := isSeparator_iff.1 blank
    -- a blank is no brace, and leaves the terminator alone
    all_goals
      cases switched
      exact ⟨rfl, bounded⟩
  · rw [terminator]
    obtain rfl | rfl | rfl := isTerminator_iff.1 terminator
    · cases switched
      rw [show level chSemicolon 0 = 0 from rfl, Int.add_zero]
      exact ⟨rfl, bounded⟩
    · cases switched
      -- a count that overflows would be negative
      have deeper : int32 (scan.nest + 1) = scan.nest + level chOpen 0 := count (scan.nest + 1) above
        (by omega) (by omega)
      exact ⟨by rw [deeper]; rfl, by rw [← deeper]; exact (int32_bounds _).2⟩
    · cases switched
      have higher : int32 (scan.nest - 1) = scan.nest + level chClose 0 := count (scan.nest - 1) above
        (by omega) (by omega)
      exact ⟨by rw [higher]; rfl, by rw [← higher]; exact (int32_bounds _).2⟩

/-- A blank or a terminator ends the open word. -/
theorem Scanning.ends (scanning : Scanning found front word scan)
    (ends : isSeparator ch = true ∨ isTerminator ch = true) (whole : line = front ++ (word ++ ch :: rest))
    (ran : scanLine line lineno (ch :: rest) (front.length + word.length) scan = .ok final) :
    ∃ next, Scanning found (front ++ word ++ [ch]) [] next ∧
      next.fin = (if isTerminator ch then some ch else scan.fin) ∧
      next.args = scan.args ++ (if word = [] then [] else [word]) ∧
      next.nest = scan.nest + level ch 0 ∧
      scanLine line lineno rest ((front ++ word ++ [ch]).length + 0) next = .ok final := by
  have notSharp : ch ≠ chSharp := by
    rintro rfl
    revert ends
    decide
  obtain ⟨mid, switched, above, ran⟩ := scanLine_step ran notSharp
  obtain ⟨same, bounded⟩ := scanning.switched ends switched above
  have nest : mid.nest = scan.nest + level ch 0 := by rw [same]
  have behind : (front ++ word ++ [ch]).length + 0 = front.length + word.length + 1 := by
    simp [Nat.add_assoc]
  rw [behind]
  refine ⟨collectArg line mid, ?_⟩
  -- two blanks in a row, or a word that ends here
  by_cases fresh : word = []
  · have between : mid.beginPos = none := by rw [same, ← scanning.between fresh]
    have collected : collectArg line mid = mid := by simp [collectArg, between]
    rw [collected] at ran ⊢
    refine ⟨⟨fun _ => between, fun some => absurd rfl some, ?_, above, by omega⟩, ?_, ?_, nest, ran⟩
    · rw [same]
      exact scanning.find
    · rw [same]
    · rw [same, if_pos fresh, List.append_nil]
  · have begun : mid.beginPos = some front.length := by rw [same, ← (scanning.begun fresh).1]
    have ended : mid.endPos = some (((front.length + word.length : Nat) : Int) - 1) := by rw [same]
    rw [collectArg_word whole begun ended] at ran ⊢
    refine ⟨⟨fun _ => rfl, fun some => absurd rfl some, by simp, above, by dsimp only; omega⟩, ?_, ?_, nest, ran⟩
    · rw [same]
    · rw [same, if_neg fresh]

/-- A comment takes the rest of the line, and leaves a word open. -/
theorem Scanning.comment (scanning : Scanning found front word scan) {i : Nat}
    (ran : scanLine line lineno (chSharp :: rest) i scan = .ok final) : final = scan := by
  have collected : collectArg line scan = scan := by
    by_cases fresh : word = []
    · simp [collectArg, scanning.between fresh]
    · simp [collectArg, (scanning.begun fresh).2.1]
  have switched : switchChar lineno i chSharp scan = .ok scan := by simp [switchChar]
  rw [scanLine, switched] at ran
  dsimp only at ran
  rw [if_neg (Int.not_lt.2 scanning.inside), if_pos rfl, collected] at ran
  cases ran
  rfl

/-- What a scan of `text` makes of the word that was open. -/
structure Scanned (word text : Bytes) (scan final : LineScan) : Prop where
  nest : final.nest = scan.nest + depth text
  opened : ∀ front, front <+: text → 0 ≤ scan.nest + depth front
  words : final.beginPos = none → final.args = scan.args ++ wordsFrom word text
  ended : final.beginPos = none →
    word = [] ∧ text = [] ∨ ∃ front ch, text = front ++ [ch] ∧ isPlain ch = false
  finished : final.fin ≠ none → scan.fin ≠ none ∧ IsGap text ∨ EndsTerminated text
  unfinished : final.fin = none → scan.fin = none ∧ ∀ ch ∈ text, isTerminator ch = false

theorem Scanning.stop (scanning : Scanning found front word scan) : Scanned word [] scan scan where
  nest := by simp [depth]
  opened := by
    rintro front below
    rw [List.prefix_nil.1 below, depth, Int.add_zero]
    exact scanning.inside
  words between := by
    have fresh : word = [] := by
      by_contra open_
      simp [(scanning.begun open_).1] at between
    simp [wordsFrom, fresh]
  ended between := by
    refine .inl ⟨?_, rfl⟩
    by_contra open_
    simp [(scanning.begun open_).1] at between
  finished fin := .inl ⟨fin, nofun⟩
  unfinished open_ := ⟨open_, nofun⟩

theorem EndsTerminated.cons {text : Bytes} (ends : EndsTerminated text) (ch : UInt8) :
    EndsTerminated (ch :: text) := by
  obtain ⟨front, terminator, trail, rfl, isTerminator, isTrail⟩ := ends
  exact ⟨ch :: front, terminator, trail, rfl, isTerminator, isTrail⟩

/-- A character before the text, which left `open_` as the open word. -/
theorem Scanned.cons {open_ text : Bytes} {next : LineScan} (scanned : Scanned open_ text next final)
    (inside : 0 ≤ scan.nest) (inLine : ch ≠ chSharp) (nest : next.nest = scan.nest + level ch 0)
    (words : next.args ++ wordsFrom open_ text = scan.args ++ wordsFrom word (ch :: text))
    (last : open_ = [] → isPlain ch = false)
    (fin : next.fin = if isTerminator ch then some ch else scan.fin)
    (after : scan.fin ≠ none → isPlain ch = false) : Scanned word (ch :: text) scan final where
  nest := by rw [scanned.nest, nest, depth, Int.add_assoc]
  opened := by
    intro front below
    obtain rfl | ⟨more, rfl, shorter⟩ := List.prefix_cons_iff.1 below
    · rw [depth, Int.add_zero]
      exact inside
    · have above := scanned.opened more shorter
      rwa [nest, Int.add_assoc] at above
  words between := by rw [scanned.words between, words]
  ended between := by
    right
    obtain ⟨fresh, rfl⟩ | ⟨front, other, rfl, ended⟩ := scanned.ended between
    · exact ⟨[], ch, rfl, last fresh⟩
    · exact ⟨ch :: front, other, rfl, ended⟩
  finished finished := by
    obtain ⟨seen, gap⟩ | ends := scanned.finished finished
    · cases terminator : isTerminator ch with
      | true => exact .inr ⟨[], ch, text, rfl, terminator, gap⟩
      | false =>
        rw [fin, terminator] at seen
        have unseen := after seen
        refine .inl ⟨seen, ?_⟩
        -- what follows a terminator and is none itself is a blank
        obtain sharp | plain | blank | terminates := char_kind ch
        · exact absurd sharp inLine
        · simp [plain] at unseen
        · intro other mem
          obtain rfl | mem := List.mem_cons.1 mem
          · exact isSeparator_iff.1 blank
          · exact gap other mem
        · simp [terminates] at terminator
    · exact .inr (ends.cons ch)
  unfinished unfinished := by
    obtain ⟨unseen, free⟩ := scanned.unfinished unfinished
    cases terminator : isTerminator ch with
    | true => simp [fin, terminator] at unseen
    | false =>
      rw [fin, terminator] at unseen
      refine ⟨unseen, fun other mem => ?_⟩
      obtain rfl | mem := List.mem_cons.1 mem
      · exact terminator
      · exact free other mem

theorem beforeComment_cons (inLine : ch ≠ chSharp) (text : Bytes) :
    beforeComment (ch :: text) = ch :: beforeComment text := by
  simp [beforeComment, inLine]

/-- The scan of a line, from a word that is open. -/
theorem Scanning.scanned (scanning : Scanning found front word scan)
    (whole : line = front ++ (word ++ rest))
    (ran : scanLine line lineno rest (front.length + word.length) scan = .ok final) :
    Scanned word (beforeComment rest) scan final ∧
      ∃ front word, Scanning found front word final := by
  induction rest generalizing front word scan with
  | nil =>
    cases ran
    exact ⟨scanning.stop, front, word, scanning⟩
  | cons ch rest ih =>
    obtain rfl | plain | ends := char_kind ch
    · -- the comment sign: `takeWhile` stops where the scan does
      obtain rfl := scanning.comment ran
      exact ⟨scanning.stop, front, word, scanning⟩
    · obtain ⟨unseen, next, going, fin, args, nest, ran⟩ := scanning.plain plain ran
      obtain ⟨scanned, last⟩ := ih going (by simpa using whole) ran
      obtain ⟨inLine, _, notTerminator⟩ := isPlain_iff.1 plain
      rw [beforeComment_cons inLine]
      refine ⟨scanned.cons scanning.inside inLine ?_ ?_ ?_ ?_ ?_, last⟩
      · rw [nest, level_other notTerminator, Int.add_zero]
      · simp [args, wordsFrom, plain]
      · simp
      · rw [fin, unseen, notTerminator]
        rfl
      · exact fun seen => absurd unseen seen
    · obtain ⟨next, going, fin, args, nest, ran⟩ := scanning.ends ends whole ran
      obtain ⟨scanned, last⟩ := ih going (by simpa using whole) ran
      have inLine : ch ≠ chSharp := by
        rintro rfl
        revert ends
        decide
      have notPlain : isPlain ch = false := by
        obtain blank | terminator := ends
        · simp [isPlain, blank]
        · simp [isPlain, terminator]
      rw [beforeComment_cons inLine]
      refine ⟨scanned.cons scanning.inside inLine nest ?_ (fun _ => notPlain) fin (fun _ => notPlain), last⟩
      simp [args, wordsFrom, notPlain]

end

/-! ## The lines of a block -/

/-- Named after the first word of its first line, and no line without a word. -/
structure CoBlockArgs.Named (block : CoBlockArgs) : Prop where
  name : ∃ args lineno lines, block.multiLineArgs = ⟨block.blockName :: args, lineno⟩ :: lines ∧
    block.lineno = lineno
  words : ∀ line ∈ block.multiLineArgs, line.args ≠ []

/-- The words of every line that is stored. -/
def storedWords (blocks : List CoBlockArgs) : List (List Bytes) :=
  blocks.flatMap fun block => block.multiLineArgs.map CoLineArgs.args

/-- Between two lines `find` says whether the block at hand has a line. -/
structure BlockScan.Reading (state : BlockScan) : Prop where
  find : state.find = true ↔ state.multiLineArgs ≠ []
  words : ∀ line ∈ state.multiLineArgs, line.args ≠ []
  named : ∀ block ∈ state.multiBlocks, block.Named
  inside : 0 ≤ state.nest
  bounded : state.nest < 2 ^ 31

/-- What one line adds. -/
structure LineRead (line : Bytes) (state next : BlockScan) : Prop where
  multiBlocks : next.multiBlocks = state.multiBlocks
  words : next.multiLineArgs.map CoLineArgs.args =
    state.multiLineArgs.map CoLineArgs.args ++ [lineWords line].filter (· ≠ [])
  nest : next.nest = state.nest + depth (beforeComment line)
  opened : ∀ front, front <+: beforeComment line → 0 ≤ state.nest + depth front
  ended : lineWords line ≠ [] → EndsTerminated (beforeComment line) ∨ Unfinished (beforeComment line)

section
variable {self next : BlockScan} {line : Bytes}

theorem beforeComment_inLine {ch : UInt8} (mem : ch ∈ beforeComment line) : ch ≠ chSharp := by
  simpa using List.all_eq_true.1 List.all_takeWhile ch mem

/-- A line without a terminator that leaves no word open ends with a blank. -/
theorem unfinished_of_scanned {scan final : LineScan} (scanned : Scanned [] (beforeComment line) scan final)
    (between : final.beginPos = none) (unseen : final.fin = none) (words : lineWords line ≠ []) :
    Unfinished (beforeComment line) := by
  have free := (scanned.unfinished unseen).2
  have word : ∃ ch ∈ beforeComment line, isPlain ch = true := by
    by_contra blank
    simp only [not_exists, not_and, Bool.not_eq_true] at blank
    exact words (wordsFrom_eq_nil.2 ⟨rfl, blank⟩)
  refine ⟨word, ?_, free⟩
  obtain ⟨_, empty⟩ | ⟨front, ch, text, notPlain⟩ := scanned.ended between
  · obtain ⟨ch, mem, _⟩ := word
    rw [empty] at mem
    cases mem
  · have mem : ch ∈ beforeComment line := by simp [text]
    refine ⟨front, ch, text, ?_⟩
    obtain sharp | plain | blank | terminator := char_kind ch
    · exact absurd sharp (beforeComment_inLine mem)
    · simp [plain] at notPlain
    · exact blank
    · simp [free ch mem] at terminator

/-- Behind the loop over a line, the checks leave no word open. -/
theorem Scanning.closed {found : Bool} {front word : Bytes} {scan : LineScan} {lineno : Int} {i : Nat}
    (scanning : Scanning found front word scan) (checked : scan.checkLine lineno i = none) :
    scan.beginPos = none := by
  unfold checkLine at checked
  split at checked
  · split at checked
    · cases checked
    · rename_i notSome
      simpa using notSome
  · rename_i fin seen
    -- a word that is open has seen no terminator
    refine scanning.between ?_
    by_contra open_
    simp [(scanning.begun open_).2.2] at seen

theorem BlockScan.Reading.readLine (reading : self.Reading) (read : self.readLine line = .ok next) :
    next.Reading ∧ LineRead line self next := by
  -- the scan begins with no word, and with the count of the lines before
  have start : Scanning self.find [] [] { nest := self.nest, find := self.find } :=
    ⟨fun _ => rfl, nofun, by simp, reading.inside, reading.bounded⟩
  unfold BlockScan.readLine at read
  dsimp only at read
  split at read
  · cases read
  rename_i scan ran
  obtain ⟨scanned, front, word, scanning⟩ := start.scanned rfl ran
  split at read
  · cases read
  rename_i checked
  have between := scanning.closed checked
  have words : scan.args = lineWords line := (scanned.words between).trans (List.nil_append _)
  cases read
  rw [words]
  -- a line without words is not stored, and need not end with anything
  by_cases none : lineWords line = []
  · rw [if_pos none]
    refine ⟨⟨?_, reading.words, reading.named, scanning.inside, scanning.bounded⟩, rfl, ?_, scanned.nest,
      scanned.opened, fun some => absurd none some⟩
    · rw [scanning.find, words, none, reading.find]
      simp
    · simp [none]
  · rw [if_neg none]
    refine ⟨⟨?_, ?_, reading.named, scanning.inside, scanning.bounded⟩, rfl, ?_, scanned.nest,
      scanned.opened, fun _ => ?_⟩
    · rw [scanning.find, words]
      simp [none]
    · intro other mem
      obtain old | new := List.mem_append.1 mem
      · exact reading.words other old
      · cases List.mem_singleton.1 new
        exact none
    · simp [none]
    · -- no terminator was seen, or the last one is behind all words
      by_cases unseen : scan.fin = .none
      · exact .inr (unfinished_of_scanned scanned between unseen none)
      · obtain ⟨seen, _⟩ | ends := scanned.finished unseen
        · exact absurd rfl seen
        · exact .inl ends

/-- The block at hand can be stored: it has a first line, which has a first word. -/
theorem BlockScan.Reading.storeBlock (reading : self.Reading) :
    ∃ blocks, self.storeBlock = some blocks ∧ (∀ block ∈ blocks, block.Named) ∧
      storedWords blocks = storedWords self.multiBlocks ++ self.multiLineArgs.map CoLineArgs.args := by
  unfold BlockScan.storeBlock
  split
  · rename_i found
    have lines := reading.find.1 found
    have words := reading.words
    split
    · rename_i name args lineno lines held
      refine ⟨_, rfl, ?_, by simp [storedWords, held]⟩
      intro block mem
      obtain old | new := List.mem_append.1 mem
      · exact reading.named block old
      · cases List.mem_singleton.1 new
        exact ⟨⟨args, lineno, lines, rfl, rfl⟩, by rw [← held]; exact words⟩
    · -- neither the first line nor its first word is missing
      rename_i unnamed
      exfalso
      obtain ⟨⟨args, lineno⟩, more, held⟩ := List.exists_cons_of_ne_nil lines
      obtain ⟨name, args, rfl⟩ := List.exists_cons_of_ne_nil (words ⟨args, lineno⟩ (by simp [held]))
      exact unnamed name args lineno more held
  · rename_i notFound
    have empty : self.multiLineArgs = [] := by
      by_contra lines
      exact notFound (reading.find.2 lines)
    exact ⟨self.multiBlocks, rfl, reading.named, by simp [empty]⟩

/-! ## The text -/

/-- What the rest of a text adds to the blocks. -/
structure TextRead (lines : List Bytes) (state : BlockScan) (blocks : List CoBlockArgs) : Prop where
  named : ∀ block ∈ blocks, block.Named
  words : storedWords blocks = storedWords state.multiBlocks ++
    state.multiLineArgs.map CoLineArgs.args ++ (lines.map lineWords).filter (· ≠ [])
  closed : state.nest + depth (lines.flatMap beforeComment) = 0
  opened : ∀ front, front <+: lines.flatMap beforeComment → 0 ≤ state.nest + depth front
  ended : ∀ line ∈ lines, lineWords line ≠ [] →
    EndsTerminated (beforeComment line) ∨ Unfinished (beforeComment line)

/-- A line before the rest of the text. -/
theorem TextRead.cons {lines : List Bytes} {blocks : List CoBlockArgs} (read : LineRead line self next)
    (rest : TextRead lines next blocks) : TextRead (line :: lines) self blocks where
  named := rest.named
  words := by
    have first : ((line :: lines).map lineWords).filter (· ≠ []) =
        [lineWords line].filter (· ≠ []) ++ (lines.map lineWords).filter (· ≠ []) := by
      rw [← List.filter_append]
      rfl
    rw [rest.words, read.multiBlocks, read.words, first]
    simp only [List.append_assoc]
  closed := by
    have closed := rest.closed
    rw [read.nest] at closed
    rw [List.flatMap_cons, depth_append]
    omega
  opened := by
    intro front below
    rw [List.flatMap_cons] at below
    obtain ⟨back, split⟩ := below
    -- the beginning ends inside the line or behind it
    obtain ⟨more, inLine, _⟩ | ⟨more, same, below⟩ := List.append_eq_append_iff.1 split
    · exact read.opened front ⟨more, inLine.symm⟩
    · have above := rest.opened more ⟨back, below.symm⟩
      rw [read.nest] at above
      rw [same, depth_append]
      omega
  ended := by
    intro other mem words
    obtain rfl | mem := List.mem_cons.1 mem
    · exact read.ended words
    · exact rest.ended other mem words

/-- The next block starts with nothing held, and adds to the blocks that are stored. -/
theorem TextRead.store {lines : List Bytes} {blocks stored : List CoBlockArgs}
    (words : storedWords stored = storedWords self.multiBlocks ++ self.multiLineArgs.map CoLineArgs.args)
    (rest : TextRead lines { self with find := false, multiLineArgs := [], multiBlocks := stored } blocks) :
    TextRead lines self blocks where
  named := rest.named
  words := by rw [rest.words, words]; simp
  closed := rest.closed
  opened := rest.opened
  ended := rest.ended

/-- The text is read without an access outside of a vector. -/
theorem BlockScan.Reading.readBlocks (reading : self.Reading) (lines : List Bytes) :
    ∃ result, BlockScan.readBlocks lines self = some result ∧
      ∀ blocks, result = .ok blocks → TextRead lines self blocks := by
  -- on the lines, from whatever was read before them
  induction lines generalizing self with
  | nil =>
    rw [BlockScan.readBlocks]
    split
    · exact ⟨_, rfl, fun _ ok => by cases ok⟩
    · rename_i closed
      have inside := reading.inside
      obtain ⟨stored, store, named, words⟩ := reading.storeBlock
      rw [store]
      refine ⟨_, rfl, ?_⟩
      rintro blocks ok
      cases ok
      -- the count is back at zero, or the text was refused
      refine ⟨named, by rw [words]; simp, ?_, ?_, fun _ none => absurd none List.not_mem_nil⟩
      · rw [List.flatMap_nil, depth]
        omega
      · rintro front below
        rw [List.flatMap_nil, List.prefix_nil] at below
        rw [below, depth]
        omega
  | cons line lines ih =>
    rw [BlockScan.readBlocks]
    split
    · exact ⟨_, rfl, fun _ ok => by cases ok⟩
    · rename_i next read
      obtain ⟨going, lineRead⟩ := reading.readLine read
      split
      · -- the last brace is closed, so the block is complete
        obtain ⟨stored, store, named, words⟩ := going.storeBlock
        rw [store]
        have fresh : BlockScan.Reading
            { next with find := false, multiLineArgs := [], multiBlocks := stored } :=
          ⟨by simp, fun _ none => absurd none List.not_mem_nil, named, going.inside, going.bounded⟩
        obtain ⟨result, read, spec⟩ := ih fresh
        exact ⟨result, read, fun blocks ok => .cons lineRead (.store words (spec blocks ok))⟩
      · obtain ⟨result, read, spec⟩ := ih going
        exact ⟨result, read, fun blocks ok => .cons lineRead (spec blocks ok)⟩

end

/-- The tokenizer never reads outside of a vector. -/
theorem readAllblock_reads (content : Bytes) :
    ∃ result, readAllblock content = some result ∧
      ∀ blocks, result = .ok blocks → TextRead (getlines content) {} blocks := by
  have start : BlockScan.Reading {} := ⟨by simp, nofun, nofun, by decide, by decide⟩
  exact start.readBlocks (getlines content)

theorem readAllblock_read {content : Bytes} {blocks : List CoBlockArgs}
    (accepted : readAllblock content = some (.ok blocks)) : TextRead (getlines content) {} blocks := by
  obtain ⟨result, read, spec⟩ := readAllblock_reads content
  exact spec blocks (Option.some.inj (read.symm.trans accepted))

/-! ## Terminated lines -/

/-- Every line with words ends with a terminator, and the braces outside comments match. -/
structure Terminated (content : Bytes) : Prop where
  lines : ∀ line ∈ getlines content, lineWords line ≠ [] → EndsTerminated (beforeComment line)
  braces : Balanced ((getlines content).flatMap beforeComment)

theorem EndsTerminated.not_unfinished {text : Bytes} (ends : EndsTerminated text) : ¬Unfinished text := by
  intro unfinished
  obtain ⟨front, terminator, trail, rfl, isTerminator, _⟩ := ends
  have none := unfinished.unterminated terminator (by simp)
  rw [isTerminator] at none
  cases none

theorem Unfinished.lineWords {line : Bytes} (unfinished : Unfinished (beforeComment line)) :
    lineWords line ≠ [] := by
  intro none
  obtain ⟨ch, mem, plain⟩ := unfinished.word
  have notPlain := (wordsFrom_eq_nil.1 none).2 ch mem
  rw [plain] at notPlain
  cases notPlain

/-- The blocks hold the words of the lines. They come from terminated lines exactly when no line
    has words, a blank behind the last one, and nothing else before its end or its comment. -/
theorem tokens_terminated_iff (content : Bytes) (blocks : List CoBlockArgs)
    (accepted : readAllblock content = some (.ok blocks)) :
    storedWords blocks = ((getlines content).map lineWords).filter (· ≠ []) ∧
      (Terminated content ↔ ∀ line ∈ getlines content, ¬Unfinished (beforeComment line)) := by
  have read := readAllblock_read accepted
  refine ⟨read.words, ?_, ?_⟩
  · intro terminated line mem unfinished
    exact (terminated.lines line mem unfinished.lineWords).not_unfinished unfinished
  · intro finished
    have closed := read.closed
    refine ⟨fun line mem words => ?_, ?_, fun front below => ?_⟩
    · obtain ends | unfinished := read.ended line mem words
      · exact ends
      · exact absurd unfinished (finished line mem)
    · rwa [Int.zero_add] at closed
    · have above := read.opened front below
      rwa [Int.zero_add] at above

theorem shortConfig_terminated : Terminated shortConfig := by
  refine (tokens_terminated_iff shortConfig _ shortConfig_read).2.2 ?_
  have lines : getlines shortConfig =
      [[97, 32, 123], [9, 98, 32, 99, 32, 59, 32, 35, 123], [], [125]] := by
    decide
  rw [lines]
  have ended : ∀ line ∈ [[97, 32, 123], [9, 98, 32, 99, 32, 59, 32, 35, 123], [], [125]],
      (∃ ch ∈ beforeComment line, isTerminator ch = true) ∨ beforeComment line = [] := by
    decide
  intro line mem unfinished
  obtain ⟨ch, inLine, terminator⟩ | empty := ended line mem
  · rw [unfinished.unterminated ch inLine] at terminator
    cases terminator
  · obtain ⟨ch, inLine, _⟩ := unfinished.word
    rw [empty] at inLine
    cases inLine

/-- A line `a `, which was meant to end with a semicolon, is a block of its own. -/
theorem unfinished_line_accepted : ¬ ∀ content blocks,
    readAllblock content = some (.ok blocks) → Terminated content := by
  intro terminated
  have accepted : readAllblock [97, 32] = some (.ok [⟨[97], 1, [⟨[[97]], 1⟩]⟩]) := by
    decide +kernel
  have ends := (terminated _ _ accepted).lines [97, 32] (by decide) (by decide)
  refine ends.not_unfinished ⟨⟨97, by decide, by decide⟩, ⟨[97], 32, by decide, by decide⟩, ?_⟩
  exact List.forall_mem_cons.2 ⟨by decide, List.forall_mem_cons.2 ⟨by decide, nofun⟩⟩

end CoServer
