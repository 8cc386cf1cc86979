import CoServer.Base.ConfigParser

/-! # Printed configurations

A block is printed with a line for its header, a line for each directive and a
line with the closing brace.  Blanks, empty lines and comments may stand
anywhere between.  The tokenizer reads back what was printed. -/

namespace CoServer

open ConfigChar LineScan BlockScan

/-! ## Layout -/

/-- Non-empty, and no character of it has a meaning to the tokenizer. -/
structure IsWord (word : Bytes) : Prop where
  nonempty : word ≠ []
  plain : ∀ ch ∈ word, ch ∉ [chSpace, chTab, chNewline, chSharp, chSemicolon, chOpen, chClose]

def IsGap (gap : Bytes) : Prop := ∀ ch ∈ gap, ch = chSpace ∨ ch = chTab

inductive IsComment : Bytes → Prop
  | none : IsComment []
  | text (text : Bytes) : IsComment (chSharp :: text)

/-- Words with gaps between and behind them. -/
inductive PrintsWords : List Bytes → Bytes → Prop
  | last {word gap : Bytes} (isWord : IsWord word) (isGap : IsGap gap) :
      PrintsWords [word] (word ++ gap)
  | cons {word gap text : Bytes} {words : List Bytes} (isWord : IsWord word) (isGap : IsGap gap)
      (apart : gap ≠ []) (rest : PrintsWords words text) :
      PrintsWords (word :: words) (word ++ gap ++ text)

/-- A line of words that ends with a terminator. -/
inductive PrintsRow (terminator : UInt8) : List Bytes → Bytes → Prop
  | row {words : List Bytes} {lead text trail comment : Bytes} (isLead : IsGap lead)
      (printed : PrintsWords words text) (isTrail : IsGap trail) (isComment : IsComment comment) :
      PrintsRow terminator words (lead ++ text ++ terminator :: (trail ++ comment))

/-- The line that closes a block. -/
inductive PrintsClose : Bytes → Prop
  | row {lead trail comment : Bytes} (isLead : IsGap lead) (isTrail : IsGap trail)
      (isComment : IsComment comment) : PrintsClose (lead ++ chClose :: (trail ++ comment))

/-- A line of blanks and comments. -/
inductive PrintsFiller : Bytes → Prop
  | row {gap comment : Bytes} (isGap : IsGap gap) (isComment : IsComment comment) :
      PrintsFiller (gap ++ comment)

/-- A line of a block, with its number in the text. -/
structure ConfigLine where
  words : List Bytes
  lineno : Nat

structure ConfigBlock where
  header : ConfigLine
  directives : List ConfigLine

/-- The lines behind a header, down to the closing brace; `lineno` lines are above. -/
inductive PrintsBody : Nat → List Bytes → List ConfigLine → Prop
  | close {lineno : Nat} {line : Bytes} (printed : PrintsClose line) : PrintsBody lineno [line] []
  | filler {lineno : Nat} {line : Bytes} {lines : List Bytes} {directives : List ConfigLine}
      (printed : PrintsFiller line) (rest : PrintsBody (lineno + 1) lines directives) :
      PrintsBody lineno (line :: lines) directives
  | directive {lineno : Nat} {line : Bytes} {words lines : List Bytes} {directives : List ConfigLine}
      (printed : PrintsRow chSemicolon words line) (rest : PrintsBody (lineno + 1) lines directives) :
      PrintsBody lineno (line :: lines) (⟨words, lineno + 1⟩ :: directives)

/-- The lines of a list of blocks; `lineno` lines are above. -/
inductive PrintsBlocks : Nat → List Bytes → List ConfigBlock → Prop
  | done {lineno : Nat} : PrintsBlocks lineno [] []
  | filler {lineno : Nat} {line : Bytes} {lines : List Bytes} {blocks : List ConfigBlock}
      (printed : PrintsFiller line) (rest : PrintsBlocks (lineno + 1) lines blocks) :
      PrintsBlocks lineno (line :: lines) blocks
  | block {lineno : Nat} {line : Bytes} {words body lines : List Bytes} {directives : List ConfigLine}
      {blocks : List ConfigBlock} (printed : PrintsRow chOpen words line)
      (inside : PrintsBody (lineno + 1) body directives)
      (rest : PrintsBlocks (lineno + 1 + body.length) lines blocks) :
      PrintsBlocks lineno (line :: (body ++ lines)) (⟨⟨words, lineno + 1⟩, directives⟩ :: blocks)

/-! ## One line -/

section
variable {line rest gap word text : Bytes} {lineno : Int} {i : Nat} {scan : LineScan}

/-- A blank ends a word. -/
theorem scanLine_blank {ch : UInt8} (blank : ch = chSpace ∨ ch = chTab) (level : 0 ≤ scan.nest) :
    scanLine line lineno (ch :: rest) i scan =
      scanLine line lineno rest (i + 1) (collectArg line { scan with endPos := some (i - 1) }) := by
  have plain : ch ≠ chSharp := by
    obtain rfl | rfl := blank <;> decide
  have switched : switchChar lineno i ch scan = .ok { scan with endPos := some (i - 1) } := by
    simp [switchChar, plain, blank]
  rw [scanLine, switched]
  dsimp only
  rw [if_neg (Int.not_lt.2 level), if_neg plain]

/-- Between words a gap changes nothing that matters. -/
theorem scanLine_gap (isGap : IsGap gap) (level : 0 ≤ scan.nest) (between : scan.beginPos = none) :
    ∃ endPos, scanLine line lineno (gap ++ rest) i scan =
      scanLine line lineno rest (i + gap.length) { scan with endPos } := by
  induction gap generalizing i scan with
  | nil => exact ⟨scan.endPos, rfl⟩
  | cons ch gap ih =>
    have collected : collectArg line { scan with endPos := some ((i : Int) - 1) } =
        { scan with endPos := some ((i : Int) - 1) } := by
      simp [collectArg, between]
    obtain ⟨endPos, scanned⟩ := @ih (i + 1) { scan with endPos := some ((i : Int) - 1) }
      (fun other mem => isGap other (List.mem_cons_of_mem ch mem)) level between
    refine ⟨endPos, ?_⟩
    rw [List.cons_append, scanLine_blank (isGap ch List.mem_cons_self) level, collected, scanned,
      List.length_cons, Nat.add_assoc, Nat.add_comm 1]

/-- A comment ends the line. -/
theorem scanLine_comment {comment : Bytes} (isComment : IsComment comment) (level : 0 ≤ scan.nest)
    (between : scan.beginPos = none) : scanLine line lineno comment i scan = .ok scan := by
  cases isComment with
  | none => rfl
  | text text =>
    have collected : collectArg line scan = scan := by
      simp [collectArg, between]
    have switched : switchChar lineno i chSharp scan = .ok scan := by
      simp [switchChar]
    rw [scanLine, switched]
    dsimp only
    rw [if_neg (Int.not_lt.2 level), if_pos rfl, collected]

/-- A plain character starts a word or goes on with it. -/
theorem scanLine_plain {ch : UInt8}
    (plain : ch ∉ [chSpace, chTab, chNewline, chSharp, chSemicolon, chOpen, chClose]) (level : 0 ≤ scan.nest)
    (open_ : scan.fin = none) (unended : scan.beginPos ≠ none → scan.endPos = none) :
    scanLine line lineno (ch :: rest) i scan =
      scanLine line lineno rest (i + 1)
        { scan with beginPos := some (scan.beginPos.getD i), endPos := none } := by
  simp only [List.mem_cons, not_or] at plain
  obtain ⟨notSpace, notTab, -, notSharp, notSemicolon, notOpen, notClose, -⟩ := plain
  have switched : switchChar lineno i ch scan =
      .ok { scan with beginPos := some (scan.beginPos.getD i), endPos := none } := by
    cases started : scan.beginPos with
    | none => simp [switchChar, notSpace, notTab, notSharp, notSemicolon, notOpen, notClose, open_, started]
    | some beginPos =>
      have ended := unended (by simp [started])
      have same : scan = { scan with beginPos := some beginPos, endPos := none } := by
        rw [← started, ← ended]
      simpa [switchChar, notSpace, notTab, notSharp, notSemicolon, notOpen, notClose, open_, started] using same
  rw [scanLine, switched]
  dsimp only
  rw [if_neg (Int.not_lt.2 level), if_neg notSharp]
  rfl

/-- A word goes on. -/
theorem scanLine_goOn {beginPos : Nat}
    (plain : ∀ ch ∈ text, ch ∉ [chSpace, chTab, chNewline, chSharp, chSemicolon, chOpen, chClose])
    (level : 0 ≤ scan.nest) (open_ : scan.fin = none) (begun : scan.beginPos = some beginPos)
    (unended : scan.endPos = none) :
    scanLine line lineno (text ++ rest) i scan = scanLine line lineno rest (i + text.length) scan := by
  induction text generalizing i with
  | nil => rfl
  | cons ch text ih =>
    have same : { scan with beginPos := some (scan.beginPos.getD i), endPos := none } = scan := by
      rw [begun, ← unended, Option.getD_some, ← begun]
    rw [List.cons_append, scanLine_plain (plain ch List.mem_cons_self) level open_ (fun _ => unended),
      same, ih fun other mem => plain other (List.mem_cons_of_mem ch mem), List.length_cons,
      Nat.add_assoc, Nat.add_comm 1]

theorem scanLine_word (isWord : IsWord word) (level : 0 ≤ scan.nest) (open_ : scan.fin = none)
    (between : scan.beginPos = none) :
    scanLine line lineno (word ++ rest) i scan =
      scanLine line lineno rest (i + word.length) { scan with beginPos := some i, endPos := none } := by
  obtain ⟨first, more, rfl⟩ := List.exists_cons_of_ne_nil isWord.nonempty
  have goesOn : scanLine line lineno (more ++ rest) (i + 1)
      { scan with beginPos := some i, endPos := none } =
        scanLine line lineno rest (i + 1 + more.length)
          { scan with beginPos := some i, endPos := none } :=
    scanLine_goOn (fun other mem => isWord.plain other (List.mem_cons_of_mem first mem)) level open_
      rfl rfl
  rw [List.cons_append, scanLine_plain (isWord.plain first List.mem_cons_self) level open_
    (fun started => absurd between started), between, Option.getD_none, goesOn, List.length_cons,
    Nat.add_assoc, Nat.add_comm 1]

/-- The word between the pointers is stored. -/
theorem collectArg_word {front after : Bytes} (whole : line = front ++ (word ++ after))
    (begun : scan.beginPos = some front.length)
    (ended : scan.endPos = some (((front.length + word.length : Nat) : Int) - 1)) :
    collectArg line scan =
      { scan with find := true, args := scan.args ++ [word], beginPos := none } := by
  have length : (((front.length + word.length : Nat) : Int) - 1 - (front.length : Nat) + 1).toNat =
      word.length := by
    omega
  have slice : (line.drop front.length).take word.length = word := by
    rw [whole, List.drop_left, List.take_left]
  simp only [collectArg, begun, ended, length, slice]

/-- How a terminator changes the level. -/
def level (terminator : UInt8) (nest : Int) : Int :=
  if terminator = chOpen then nest + 1
  else if terminator = chClose then nest - 1
  else nest

/-- A terminator ends a word and the line. -/
theorem scanLine_terminator {terminator : UInt8}
    (terminates : terminator = chSemicolon ∨ terminator = chOpen ∨ terminator = chClose)
    (bounded : level terminator scan.nest < 2 ^ 31) (above : 0 ≤ level terminator scan.nest) :
    scanLine line lineno (terminator :: rest) i scan =
      scanLine line lineno rest (i + 1) (collectArg line { scan with
        nest := level terminator scan.nest, endPos := some (i - 1), fin := some terminator }) := by
  have wraps : int32 (level terminator scan.nest) = level terminator scan.nest :=
    int32_of_bounds (by omega) bounded
  have switched : switchChar lineno i terminator scan = .ok { scan with
      nest := level terminator scan.nest, endPos := some (i - 1), fin := some terminator } := by
    rw [← wraps]
    obtain rfl | rfl | rfl := terminates
    · rw [wraps]
      rfl
    · rfl
    · rfl
  have notSharp : terminator ≠ chSharp := by
    obtain rfl | rfl | rfl := terminates <;> decide
  rw [scanLine, switched]
  dsimp only
  rw [if_neg (Int.not_lt.2 above), if_neg notSharp]

/-- A word and the gap behind it. -/
theorem scanLine_wordGap {front : Bytes} (isWord : IsWord word) (isGap : IsGap gap) (apart : gap ≠ [])
    (whole : line = front ++ (word ++ (gap ++ rest))) (level : 0 ≤ scan.nest)
    (open_ : scan.fin = none) (between : scan.beginPos = none) :
    ∃ endPos, scanLine line lineno (word ++ (gap ++ rest)) front.length scan =
      scanLine line lineno rest (front.length + word.length + gap.length)
        { scan with endPos, find := true, args := scan.args ++ [word] } := by
  obtain ⟨first, more, rfl⟩ := List.exists_cons_of_ne_nil apart
  obtain ⟨endPos, scanned⟩ := @scanLine_gap line rest more lineno (front.length + word.length + 1)
    { scan with
      beginPos := none
      endPos := some (((front.length + word.length : Nat) : Int) - 1)
      find := true
      args := scan.args ++ [word] }
    (fun other mem => isGap other (List.mem_cons_of_mem first mem)) level rfl
  refine ⟨endPos, (scanLine_word isWord level open_ between).trans ?_⟩
  refine (scanLine_blank (isGap first List.mem_cons_self) (by exact level)).trans ?_
  rw [collectArg_word whole rfl rfl]
  refine scanned.trans ?_
  rw [← between, List.length_cons, Nat.add_assoc, Nat.add_comm 1]

section
variable {terminator : UInt8}
  (terminates : terminator = chSemicolon ∨ terminator = chOpen ∨ terminator = chClose)
  (bounded : level terminator scan.nest < 2 ^ 31) (above : 0 ≤ level terminator scan.nest)
include terminates bounded above

/-- A terminator behind a word. -/
theorem scanLine_wordEnd {front : Bytes} (isWord : IsWord word)
    (whole : line = front ++ (word ++ terminator :: rest)) (inside : 0 ≤ scan.nest)
    (open_ : scan.fin = none) (between : scan.beginPos = none) :
    ∃ endPos, scanLine line lineno (word ++ terminator :: rest) front.length scan =
      scanLine line lineno rest (front.length + word.length + 1)
        { scan with
          nest := level terminator scan.nest
          endPos
          fin := some terminator
          find := true
          args := scan.args ++ [word] } := by
  refine ⟨some (((front.length + word.length : Nat) : Int) - 1),
    (scanLine_word isWord inside open_ between).trans ?_⟩
  refine (scanLine_terminator terminates (by exact bounded) (by exact above)).trans ?_
  rw [collectArg_word whole rfl rfl, ← between]

/-- A terminator behind a gap. -/
theorem scanLine_gapEnd (between : scan.beginPos = none) :
    ∃ endPos, scanLine line lineno (terminator :: rest) i scan =
      scanLine line lineno rest (i + 1)
        { scan with nest := level terminator scan.nest, endPos, fin := some terminator } := by
  refine ⟨some ((i : Int) - 1), ?_⟩
  rw [scanLine_terminator terminates bounded above]
  simp only [collectArg, between]

/-- Words are read one after the other; the last one ends at the terminator, or before it. -/
theorem scanLine_words {words : List Bytes} (printed : PrintsWords words text) {front : Bytes}
    (whole : line = front ++ (text ++ terminator :: rest)) (inside : 0 ≤ scan.nest)
    (open_ : scan.fin = none) (between : scan.beginPos = none) :
    ∃ endPos, scanLine line lineno (text ++ terminator :: rest) front.length scan =
      scanLine line lineno rest (front.length + text.length + 1)
        { scan with
          nest := level terminator scan.nest
          endPos
          fin := some terminator
          find := true
          args := scan.args ++ words } := by
  induction printed generalizing front scan with
  | @last word gap isWord isGap =>
    by_cases apart : gap = []
    · subst apart
      rw [List.append_nil] at whole ⊢
      exact scanLine_wordEnd terminates bounded above isWord whole inside open_ between
    · rw [List.append_assoc] at whole ⊢
      obtain ⟨gapEnd, read⟩ := @scanLine_wordGap line _ gap word lineno scan front isWord isGap apart
        whole inside open_ between
      obtain ⟨endPos, ended⟩ := @scanLine_gapEnd line rest lineno _
        { scan with endPos := gapEnd, find := true, args := scan.args ++ [word] } terminator
        terminates bounded above between
      refine ⟨endPos, read.trans (ended.trans ?_)⟩
      rw [List.length_append, Nat.add_assoc front.length]
  | @cons word gap text words isWord isGap apart printed ih =>
    have split : word ++ gap ++ text ++ terminator :: rest =
        word ++ (gap ++ (text ++ terminator :: rest)) := by
      simp
    rw [split] at whole ⊢
    obtain ⟨gapEnd, read⟩ := @scanLine_wordGap line _ gap word lineno scan front isWord isGap apart
      whole inside open_ between
    obtain ⟨endPos, ended⟩ := @ih
      { scan with endPos := gapEnd, find := true, args := scan.args ++ [word] } bounded above
      (front ++ word ++ gap) (by simpa using whole) inside open_ between
    refine ⟨endPos, read.trans ?_⟩
    rw [List.length_append, List.length_append] at ended
    refine ended.trans ?_
    simp [Nat.add_assoc]

/-- A line that starts with a gap and goes on with a terminator; blanks and a comment follow. -/
theorem scanLine_close (isGap : IsGap gap) {trail comment : Bytes} (isTrail : IsGap trail)
    (isComment : IsComment comment) (inside : 0 ≤ scan.nest) (between : scan.beginPos = none) :
    ∃ endPos, scanLine line lineno (gap ++ terminator :: (trail ++ comment)) i scan =
      .ok { scan with nest := level terminator scan.nest, endPos, fin := some terminator } := by
  obtain ⟨leadEnd, lead⟩ := @scanLine_gap line (terminator :: (trail ++ comment)) gap lineno i scan
    isGap inside between
  obtain ⟨finEnd, ended⟩ := @scanLine_gapEnd line (trail ++ comment) lineno (i + gap.length)
    { scan with endPos := leadEnd } terminator terminates bounded above between
  obtain ⟨endPos, trailed⟩ := @scanLine_gap line comment trail lineno (i + gap.length + 1)
    { scan with nest := level terminator scan.nest, endPos := finEnd, fin := some terminator }
    isTrail above between
  refine ⟨endPos, lead.trans (ended.trans (trailed.trans ?_))⟩
  exact scanLine_comment isComment (by exact above) (by exact between)

/-- A line of words. -/
theorem scanLine_row {words : List Bytes} (printed : PrintsRow terminator words line)
    (inside : 0 ≤ scan.nest) (open_ : scan.fin = none) (between : scan.beginPos = none) :
    ∃ endPos, scanLine line lineno line 0 scan =
      .ok { scan with
        nest := level terminator scan.nest
        endPos
        fin := some terminator
        find := true
        args := scan.args ++ words } := by
  obtain @⟨lead, text, trail, comment, isLead, isText, isTrail, isComment⟩ := printed
  have split : lead ++ text ++ terminator :: (trail ++ comment) =
      lead ++ (text ++ terminator :: (trail ++ comment)) := by
    simp
  rw [split]
  obtain ⟨leadEnd, led⟩ := @scanLine_gap (lead ++ (text ++ terminator :: (trail ++ comment)))
    (text ++ terminator :: (trail ++ comment)) lead lineno 0 scan isLead inside between
  obtain ⟨wordsEnd, read⟩ := @scanLine_words (lead ++ (text ++ terminator :: (trail ++ comment)))
    (trail ++ comment) text lineno { scan with endPos := leadEnd } terminator terminates bounded
    above words isText lead rfl inside open_ between
  obtain ⟨endPos, trailed⟩ := @scanLine_gap (lead ++ (text ++ terminator :: (trail ++ comment)))
    comment trail lineno (lead.length + text.length + 1)
    { scan with
      nest := level terminator scan.nest
      endPos := wordsEnd
      fin := some terminator
      find := true
      args := scan.args ++ words }
    isTrail above between
  rw [Nat.zero_add] at led
  refine ⟨endPos, led.trans (read.trans (trailed.trans ?_))⟩
  exact scanLine_comment isComment (by exact above) (by exact between)

end

end

/-! ## Lines of the text -/

/-- What `read_allblock` stores for a line; `number` is how it counts lines. -/
def ConfigLine.asRead (number : Nat → Int) (self : ConfigLine) : CoLineArgs :=
  ⟨self.words, number self.lineno⟩

/-- The header's words come first, and the first of them is the name. -/
def ConfigBlock.asRead (number : Nat → Int) (self : ConfigBlock) : CoBlockArgs where
  blockName := self.header.words.headD []
  lineno := number self.header.lineno
  multiLineArgs := (self.header :: self.directives).map (ConfigLine.asRead number)

/-- The counter of lines is an `int32_t`. -/
def lineNumber (lineno : Nat) : Int := int32 lineno

theorem lineNumber_succ (lineno : Nat) : int32 (lineNumber lineno + 1) = lineNumber (lineno + 1) := by
  unfold lineNumber
  rw [int32_add]
  rfl

theorem PrintsWords.nonempty {words : List Bytes} {text : Bytes} (printed : PrintsWords words text) :
    words ≠ [] := by
  cases printed <;> exact List.cons_ne_nil _ _

theorem PrintsRow.nonempty {terminator : UInt8} {words : List Bytes} {line : Bytes}
    (printed : PrintsRow terminator words line) : words ≠ [] := by
  obtain @⟨lead, text, trail, comment, isLead, isText, isTrail, isComment⟩ := printed
  exact isText.nonempty

section
variable {self : BlockScan} {line : Bytes} {lineno : Nat}
  (above : self.currLineno = lineNumber lineno)
include above

theorem readLine_filler (printed : PrintsFiller line) (inside : 0 ≤ self.nest) :
    self.readLine line = .ok { self with currLineno := lineNumber (lineno + 1) } := by
  obtain @⟨gap, comment, isGap, isComment⟩ := printed
  obtain ⟨endPos, scanned⟩ := @scanLine_gap (gap ++ comment) comment gap (lineNumber (lineno + 1)) 0
    { nest := self.nest, find := self.find } isGap inside rfl
  have read := scanned.trans (scanLine_comment isComment (by exact inside) rfl)
  unfold readLine
  rw [above, lineNumber_succ]
  dsimp only
  rw [read]
  rfl

theorem readLine_row {terminator : UInt8} {words : List Bytes}
    (terminates : terminator = chSemicolon ∨ terminator = chOpen)
    (printed : PrintsRow terminator words line) (inside : 0 ≤ self.nest) (shallow : self.nest ≤ 1) :
    self.readLine line = .ok { self with
      nest := level terminator self.nest
      currLineno := lineNumber (lineno + 1)
      find := true
      multiLineArgs := self.multiLineArgs ++ [ConfigLine.asRead lineNumber ⟨words, lineno + 1⟩] } := by
  have raised : 0 ≤ level terminator self.nest ∧ level terminator self.nest < 2 ^ 31 := by
    obtain rfl | rfl := terminates
    · exact ⟨inside, by show self.nest < 2 ^ 31; omega⟩
    · exact ⟨by show 0 ≤ self.nest + 1; omega, by show self.nest + 1 < 2 ^ 31; omega⟩
  have terminates : terminator = chSemicolon ∨ terminator = chOpen ∨ terminator = chClose := by
    obtain same | same := terminates
    · exact .inl same
    · exact .inr (.inl same)
  obtain ⟨endPos, read⟩ := @scanLine_row line (lineNumber (lineno + 1))
    { nest := self.nest, find := self.find } terminator terminates raised.2 raised.1 words printed
    inside rfl rfl
  unfold readLine
  rw [above, lineNumber_succ]
  dsimp only
  rw [read]
  simp [checkLine, printed.nonempty, ConfigLine.asRead]

/-- The closing brace of the only open block. -/
theorem readLine_close (printed : PrintsClose line) (inside : self.nest = 1) :
    self.readLine line = .ok { self with nest := 0, currLineno := lineNumber (lineno + 1) } := by
  obtain @⟨lead, trail, comment, isLead, isTrail, isComment⟩ := printed
  have lowered : level chClose self.nest = 0 := by
    rw [inside]
    rfl
  obtain ⟨endPos, read⟩ := @scanLine_close (lead ++ chClose :: (trail ++ comment)) lead
    (lineNumber (lineno + 1)) 0 { nest := self.nest, find := self.find } chClose (.inr (.inr rfl))
    (by dsimp only; omega) (by dsimp only; omega) isLead trail comment isTrail isComment
    (by show 0 ≤ self.nest; omega) rfl
  rw [lowered] at read
  unfold readLine
  rw [above, lineNumber_succ]
  dsimp only
  rw [read]
  simp [checkLine]

end

/-! ## Blocks -/

/-- The lines of a body are added to the open block, which is then stored. -/
theorem readBlocks_body {lineno : Nat} {body rest : List Bytes} {directives : List ConfigLine}
    (printed : PrintsBody lineno body directives) {self : BlockScan} (block : ConfigBlock)
    (nonempty : block.header.words ≠ []) (above : self.currLineno = lineNumber lineno)
    (inside : self.nest = 1) (found : self.find = true)
    (held : self.multiLineArgs = (block.asRead lineNumber).multiLineArgs) :
    readBlocks (body ++ rest) self = readBlocks rest { self with
      nest := 0
      currLineno := lineNumber (lineno + body.length)
      find := false
      multiLineArgs := []
      multiBlocks := self.multiBlocks ++ [ConfigBlock.asRead lineNumber
        { block with directives := block.directives ++ directives }] } := by
  induction printed generalizing self block with
  | @close lineno line printed =>
    obtain ⟨name, args, words⟩ := List.exists_cons_of_ne_nil nonempty
    rw [List.singleton_append, readBlocks, readLine_close above printed inside]
    simp [found, storeBlock, held, ConfigBlock.asRead, ConfigLine.asRead, words]
  | @filler lineno line lines directives printed _ ih =>
    have read := readLine_filler above printed (by omega)
    rw [List.cons_append, readBlocks, read]
    dsimp only
    rw [if_neg (by simp [inside])]
    refine (ih block nonempty rfl (by exact inside) (by exact found) (by exact held)).trans ?_
    rw [List.length_cons, Nat.add_assoc, Nat.add_comm 1]
  | @directive lineno line words lines directives printed _ ih =>
    have read := readLine_row above (.inl rfl) printed (by omega) (by omega)
    have same : level chSemicolon self.nest = 1 := inside
    rw [List.cons_append, readBlocks, read]
    dsimp only
    rw [same, if_neg (by simp)]
    refine (ih { block with directives := block.directives ++ [⟨words, lineno + 1⟩] } nonempty rfl rfl
      rfl ?_).trans ?_
    · simp [held, ConfigBlock.asRead]
    · rw [List.length_cons, Nat.add_assoc, Nat.add_comm 1]
      simp

/-- Blocks are read one after the other. -/
theorem readBlocks_blocks {lineno : Nat} {lines : List Bytes} {blocks : List ConfigBlock}
    (printed : PrintsBlocks lineno lines blocks) {self : BlockScan}
    (above : self.currLineno = lineNumber lineno) (outside : self.nest = 0) (fresh : self.find = false)
    (empty : self.multiLineArgs = []) :
    readBlocks lines self =
      some (.ok (self.multiBlocks ++ blocks.map (ConfigBlock.asRead lineNumber))) := by
  induction printed generalizing self with
  | done => simp [readBlocks, outside, storeBlock, fresh]
  | @filler lineno line lines blocks printed _ ih =>
    have read := readLine_filler above printed (by omega)
    rw [readBlocks, read]
    dsimp only
    rw [if_neg (by simp [fresh])]
    exact ih rfl (by exact outside) (by exact fresh) (by exact empty)
  | @block lineno line words body lines directives blocks printed inside _ ih =>
    have read := readLine_row above (.inr rfl) printed (by omega) (by omega)
    have raised : level chOpen self.nest = 1 := by
      rw [outside]
      rfl
    rw [readBlocks, read]
    dsimp only
    rw [raised, if_neg (by simp)]
    refine (readBlocks_body inside ⟨⟨words, lineno + 1⟩, []⟩ printed.nonempty rfl rfl rfl ?_).trans ?_
    · simp [empty, ConfigBlock.asRead]
    · refine (ih rfl rfl rfl rfl).trans ?_
      simp

/-- What was printed is read back, with the lines numbered by an `int32_t`. -/
theorem readAllblock_printed {content : Bytes} {blocks : List ConfigBlock}
    (printed : PrintsBlocks 0 (getlines content) blocks) :
    readAllblock content = some (.ok (blocks.map (ConfigBlock.asRead lineNumber))) :=
  readBlocks_blocks printed (int32_of_bounds (by decide) (by decide)).symm rfl rfl rfl

/-! ## Texts -/

theorem PrintsBody.lineno_le {lineno : Nat} {body : List Bytes} {directives : List ConfigLine}
    (printed : PrintsBody lineno body directives) :
    ∀ directive ∈ directives, directive.lineno ≤ lineno + body.length := by
  induction printed with
  | close => nofun
  | filler _ _ ih =>
    intro directive mem
    have below := ih directive mem
    rw [List.length_cons]
    omega
  | directive _ _ ih =>
    intro directive mem
    rw [List.length_cons]
    obtain rfl | mem := List.mem_cons.1 mem
    · dsimp only
      omega
    · have below := ih directive mem
      omega

theorem PrintsBlocks.lineno_le {lineno : Nat} {lines : List Bytes} {blocks : List ConfigBlock}
    (printed : PrintsBlocks lineno lines blocks) :
    ∀ block ∈ blocks, ∀ line ∈ block.header :: block.directives, line.lineno ≤ lineno + lines.length := by
  induction printed with
  | done => nofun
  | filler _ _ ih =>
    intro block mem line inBlock
    have below := ih block mem line inBlock
    rw [List.length_cons]
    omega
  | block _ inside _ ih =>
    intro block mem line inBlock
    rw [List.length_cons, List.length_append]
    obtain rfl | mem := List.mem_cons.1 mem
    · obtain rfl | inBody := List.mem_cons.1 inBlock
      · dsimp only
        omega
      · have below := inside.lineno_le line inBody
        omega
    · have below := ih block mem line inBlock
      omega

/-- The counter of lines is right as long as it does not overflow. -/
theorem ConfigBlock.asRead_small {block : ConfigBlock}
    (small : ∀ line ∈ block.header :: block.directives, line.lineno < 2 ^ 31) :
    block.asRead lineNumber = block.asRead Nat.cast := by
  have number : ∀ line ∈ block.header :: block.directives, lineNumber line.lineno = line.lineno := by
    intro line mem
    have below := small line mem
    exact int32_of_bounds (by omega) (by omega)
  have lines : (block.header :: block.directives).map (ConfigLine.asRead lineNumber) =
      (block.header :: block.directives).map (ConfigLine.asRead Nat.cast) := by
    refine List.map_congr_left fun line mem => ?_
    unfold ConfigLine.asRead
    rw [number line mem]
  unfold ConfigBlock.asRead
  rw [lines, number block.header List.mem_cons_self]

/-- The text of a list of lines. -/
theorem getlines_text {lines : List Bytes} (single : ∀ line ∈ lines, chNewline ∉ line) :
    getlines (lines.flatMap (· ++ [chNewline])) = lines := by
  have line : ∀ (line : Bytes) (rest : Bytes), chNewline ∉ line →
      getlines (line ++ chNewline :: rest) = line :: getlines rest := by
    intro line rest free
    induction line with
    | nil => simp [getlines]
    | cons ch line ih =>
      simp only [List.mem_cons, not_or] at free
      simp [getlines, Ne.symm free.1, ih free.2]
  induction lines with
  | nil => rfl
  | cons first lines ih =>
    rw [List.flatMap_cons, List.append_assoc, List.singleton_append,
      line first _ (single first List.mem_cons_self),
      ih fun other mem => single other (List.mem_cons_of_mem first mem)]

/-- A text of fewer than 2³¹ lines is read back with the numbers that its lines have. -/
theorem config_round_trip {content : Bytes} {blocks : List ConfigBlock}
    (printed : PrintsBlocks 0 (getlines content) blocks) (few : (getlines content).length < 2 ^ 31) :
    readAllblock content = some (.ok (blocks.map (ConfigBlock.asRead Nat.cast))) := by
  rw [readAllblock_printed printed]
  have same : blocks.map (ConfigBlock.asRead lineNumber) = blocks.map (ConfigBlock.asRead Nat.cast) := by
    refine List.map_congr_left fun block mem => ConfigBlock.asRead_small fun line inBlock => ?_
    have below := printed.lineno_le block mem line inBlock
    omega
  rw [same]

theorem isWord_letter {ch : UInt8} (letter : 97 ≤ ch ∧ ch ≤ 122) : IsWord [ch] where
  nonempty := List.cons_ne_nil _ _
  plain other mem special := by
    cases List.mem_singleton.1 mem
    simp only [List.mem_cons, List.not_mem_nil, or_false] at special
    obtain rfl | rfl | rfl | rfl | rfl | rfl | rfl := special <;> revert letter <;> decide

/-- A header, an indented directive with a comment behind it, an empty line and a brace. -/
def shortConfig : Bytes := [97, 32, 123, 10, 9, 98, 32, 99, 32, 59, 32, 35, 123, 10, 10, 125, 10]

theorem shortConfig_read :
    readAllblock shortConfig = some (.ok [⟨[97], 1, [⟨[[97]], 1⟩, ⟨[[98], [99]], 2⟩]⟩]) := by
  have lines : getlines shortConfig =
      [[97, 32, 123], [9, 98, 32, 99, 32, 59, 32, 35, 123], [], [125]] := by
    decide
  have header : PrintsRow chOpen [[97]] [97, 32, 123] :=
    @PrintsRow.row chOpen [[97]] [] [97, 32] [] [] nofun
      (@PrintsWords.last [97] [32] (isWord_letter (by decide)) (by simp [IsGap, chSpace, chTab])) nofun .none
  have directive : PrintsRow chSemicolon [[98], [99]] [9, 98, 32, 99, 32, 59, 32, 35, 123] :=
    @PrintsRow.row chSemicolon [[98], [99]] [9] [98, 32, 99, 32] [32] [35, 123]
      (by simp [IsGap, chSpace, chTab])
      (@PrintsWords.cons [98] [32] [99, 32] [[99]] (isWord_letter (by decide))
        (by simp [IsGap, chSpace, chTab]) (List.cons_ne_nil _ _)
        (@PrintsWords.last [99] [32] (isWord_letter (by decide)) (by simp [IsGap, chSpace, chTab])))
      (by simp [IsGap, chSpace, chTab]) (.text [123])
  have body : PrintsBody 1 [[9, 98, 32, 99, 32, 59, 32, 35, 123], [], [125]] [⟨[[98], [99]], 2⟩] :=
    .directive directive (.filler (@PrintsFiller.row [] [] nofun .none)
      (.close (@PrintsClose.row [] [] [] nofun nofun .none)))
  have printed : PrintsBlocks 0 (getlines shortConfig) [⟨⟨[[97]], 1⟩, [⟨[[98], [99]], 2⟩]⟩] := by
    rw [lines]
    exact @PrintsBlocks.block 0 _ _ _ [] _ _ header body .done
  have few : (getlines shortConfig).length < 2 ^ 31 := by
    rw [lines]
    decide
  exact config_round_trip printed few

/-- An empty block behind `front` empty lines. -/
def lateLines (front : Nat) : List Bytes := List.replicate front [] ++ [[97, 123], [125]]

theorem lateLines_printed (front lineno : Nat) :
    PrintsBlocks lineno (lateLines front) [⟨⟨[[97]], lineno + front + 1⟩, []⟩] := by
  induction front generalizing lineno with
  | zero =>
    have header : PrintsRow chOpen [[97]] [97, 123] :=
      @PrintsRow.row chOpen [[97]] [] [97] [] [] nofun
        (@PrintsWords.last [97] [] (isWord_letter (by decide)) nofun) nofun .none
    exact @PrintsBlocks.block lineno _ _ _ [] _ _ header
      (.close (@PrintsClose.row [] [] [] nofun nofun .none)) .done
  | succ front ih =>
    have next := ih (lineno + 1)
    rw [Nat.add_assoc lineno, Nat.add_comm 1] at next
    exact .filler (@PrintsFiller.row [] [] nofun .none) next

/-- Behind 2³¹ - 1 lines the counter has overflowed. -/
theorem late_block_misnumbered : ¬ ∀ content blocks, PrintsBlocks 0 (getlines content) blocks →
    readAllblock content = some (.ok (blocks.map (ConfigBlock.asRead Nat.cast))) := by
  intro roundTrip
  have misread : ∀ front : Nat, lineNumber (front + 1) = (front + 1 : Nat) := by
    intro front
    have single : ∀ line ∈ lateLines front, chNewline ∉ line := by
      intro line mem
      obtain old | new := List.mem_append.1 mem
      · cases List.eq_of_mem_replicate old
        nofun
      · clear mem
        revert line
        decide
    have printed := lateLines_printed front 0
    rw [← getlines_text single, Nat.zero_add] at printed
    have read := (readAllblock_printed printed).symm.trans (roundTrip _ _ printed)
    have same := congrArg (fun result => result.bind fun read => read.toOption.bind List.head?) read
    exact congrArg CoBlockArgs.lineno (Option.some.inj same)
  have overflow := misread (2 ^ 31 - 1)
  have bounds := int32_bounds ((2 ^ 31 - 1 : Nat) + 1 : Nat)
  unfold lineNumber at overflow
  rw [overflow] at bounds
  omega

end CoServer
