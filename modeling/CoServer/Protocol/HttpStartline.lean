import CoServer.Protocol.HttpMessage

/-! # Start lines of any bytes

The start line is cut at its first two spaces, and what `strtok` finds behind
the second one is assigned.  Where there is nothing but line ends it finds
nothing, and a null pointer is assigned. -/

namespace CoServer

open Lib (ascii memchr cstr strstr strtok strncaseEq)

/-! ## The line -/

/-- The first line of a buffer that has a newline. -/
def firstLine (buffer : Bytes) : Bytes := buffer.takeWhile (· != lf) ++ [lf]

/-- The line as a C string. -/
def lineText (buffer : Bytes) : Bytes := cstr (firstLine buffer)

/-- The text has a second space, and nothing but line ends behind it. -/
def EndsAtSecondSpace (text : Bytes) : Prop :=
  ∃ first second rest, text = first ++ space :: (second ++ space :: rest) ∧
    space ∉ first ∧ space ∉ second ∧ ∀ ch ∈ rest, ch ∈ crlf

/-- The text is a response's: its first field starts with `HTTP`, in either case. -/
def StartsHttp (text : Bytes) : Prop :=
  strncaseEq (text.takeWhile (· != space)) (ascii "HTTP") 4 = true

/-- No null pointer is assigned, zero is returned without a newline only, and otherwise an
    error or the length of the line. -/
def StartlineSafe {Message : Type} (parsed : Option (Int × Message)) (buffer : Bytes) : Prop :=
  ∃ lineLen message, parsed = some (lineLen, message) ∧ (lineLen = 0 ↔ lf ∉ buffer) ∧
    (lf ∈ buffer → lineLen = -1 ∨ lineLen = (firstLine buffer).length)

/-! ## Fields -/

section
variable {text buffer : Bytes}

theorem takeWhile_found {front back : Bytes} {byte : UInt8} (absent : byte ∉ front) :
    (front ++ byte :: back).takeWhile (· != byte) = front := by
  have passed : ∀ ch ∈ front, (ch != byte) = true := fun ch mem =>
    bne_iff_ne.2 fun same => absent (same ▸ mem)
  rw [List.takeWhile_append_of_pos passed]
  simp

theorem split_at {byte : UInt8} (mem : byte ∈ text) :
    ∃ front back, text = front ++ byte :: back ∧ byte ∉ front := by
  induction text with
  | nil => cases mem
  | cons ch text ih =>
    by_cases same : ch = byte
    · subst same
      exact ⟨[], text, rfl, nofun⟩
    · obtain ⟨front, back, rfl, absent⟩ := ih ((List.mem_cons.1 mem).resolve_left (Ne.symm same))
      exact ⟨ch :: front, back, rfl, by simp [Ne.symm same, absent]⟩

theorem hasStrsep_missing {byte : UInt8} (absent : byte ∉ text) :
    hasStrsep (some text) [byte] = (some text, none) := by
  simp [hasStrsep, Lib.strstr_none absent]

theorem hasStrsep_cases (text : Bytes) :
    (space ∉ text ∧ hasStrsep (some text) (ascii " ") = (some text, none)) ∨
    ∃ front back, text = front ++ space :: back ∧ space ∉ front ∧
      hasStrsep (some text) (ascii " ") = (some front, some back) := by
  by_cases mem : space ∈ text
  · obtain ⟨front, back, rfl, absent⟩ := split_at mem
    exact .inr ⟨front, back, rfl, absent, hasStrsep_found absent⟩
  · exact .inl ⟨mem, hasStrsep_missing mem⟩

theorem hasStrsep_first (text : Bytes) :
    (hasStrsep (some text) (ascii " ")).1 = some (text.takeWhile (· != space)) := by
  obtain ⟨absent, fields⟩ | ⟨front, back, rfl, absent, fields⟩ := hasStrsep_cases text
  · rw [fields, List.takeWhile_eq_self_iff.2]
    intro ch mem
    exact bne_iff_ne.2 fun same => absent (same ▸ mem)
  · rw [fields, takeWhile_found absent]

/-- What is behind the second space. -/
def thirdField (text : Bytes) : Option Bytes :=
  (hasStrsep (hasStrsep (some text) (ascii " ")).2 (ascii " ")).2

theorem strtok_eq_none {delimiters : Bytes} :
    strtok text delimiters = none ↔ ∀ ch ∈ text, ch ∈ delimiters := by
  refine ⟨fun missing => ?_, Lib.strtok_delimiters⟩
  unfold strtok at missing
  split at missing
  · rename_i dropped
    simpa using List.dropWhile_eq_nil_iff.1 dropped
  · cases missing

/-- A null pointer is what `strtok` finds behind the second space. -/
theorem thirdField_null (text : Bytes) :
    (thirdField text).map (strtok · crlf) = some none ↔ EndsAtSecondSpace text := by
  unfold thirdField
  constructor
  · intro null
    obtain ⟨-, fields⟩ | ⟨first, rest, rfl, firstFree, fields⟩ := hasStrsep_cases text
    · rw [fields] at null
      cases null
    · rw [fields] at null
      obtain ⟨-, fields⟩ | ⟨second, third, rfl, secondFree, fields⟩ := hasStrsep_cases rest
      · rw [fields] at null
        cases null
      · rw [fields] at null
        exact ⟨first, second, third, rfl, firstFree, secondFree,
          strtok_eq_none.1 (Option.some.inj null)⟩
  · intro ⟨first, second, third, same, firstFree, secondFree, lineEnds⟩
    have outer : hasStrsep (some text) (ascii " ") = (some first, some (second ++ space :: third)) := by
      rw [same]
      exact hasStrsep_found firstFree
    have inner : hasStrsep (some (second ++ space :: third)) (ascii " ") =
        (some second, some third) := hasStrsep_found secondFree
    rw [outer, inner]
    exact congrArg some (strtok_eq_none.2 lineEnds)

theorem memchr_cases (buffer : Bytes) : (lf ∉ buffer ∧ memchr buffer lf = none) ∨
    (lf ∈ buffer ∧ ∃ pos, memchr buffer lf = some pos ∧ pos + 1 = (firstLine buffer).length ∧
      cstr (buffer.take (pos + 1)) = lineText buffer) := by
  by_cases mem : lf ∈ buffer
  · obtain ⟨front, back, rfl, absent⟩ := split_at mem
    have line : firstLine (front ++ lf :: back) = front ++ [lf] := by
      unfold firstLine
      rw [takeWhile_found absent]
    refine .inr ⟨mem, front.length, Lib.memchr_found absent, ?_, ?_⟩
    · rw [line, List.length_append, List.length_singleton]
    · unfold lineText
      rw [line, take_line]
  · exact .inl ⟨mem, Lib.memchr_none mem⟩

end

/-! ## Requests and responses -/

section
variable {Message : Type} {buffer : Bytes}

theorem startlineSafe_null : ¬ StartlineSafe (none : Option (Int × Message)) buffer := by
  intro ⟨_, _, parsed, _⟩
  cases parsed

theorem startlineSafe_more (message : Message) (absent : lf ∉ buffer) :
    StartlineSafe (some (0, message)) buffer :=
  ⟨0, message, rfl, by simp [absent], fun mem => absurd mem absent⟩

theorem startlineSafe_error (message : Message) (mem : lf ∈ buffer) :
    StartlineSafe (some (-1, message)) buffer :=
  ⟨-1, message, rfl, by simp [mem], fun _ => .inl rfl⟩

theorem startlineSafe_line (message : Message) (mem : lf ∈ buffer) {pos : Nat}
    (length : pos + 1 = (firstLine buffer).length) :
    StartlineSafe (some ((pos : Int) + 1, message)) buffer := by
  refine ⟨_, message, rfl, ?_, fun _ => .inr ?_⟩
  · simp only [mem, not_true_eq_false, iff_false]
    omega
  · rw [← length]
    rfl

end

theorem parseStartlineRequest_safe (message : CoHTTPRequest) (buffer : Bytes) :
    StartlineSafe (parseStartlineRequest message buffer) buffer ↔
      (lf ∈ buffer → ¬ EndsAtSecondSpace (lineText buffer)) := by
  obtain ⟨absent, missing⟩ | ⟨mem, pos, found, length, copied⟩ := memchr_cases buffer
  · have parsed : parseStartlineRequest message buffer = some (0, message) := by
      simp [parseStartlineRequest, missing]
    rw [parsed]
    exact ⟨fun _ mem => absurd mem absent, fun _ => startlineSafe_more message absent⟩
  · rw [← thirdField_null]
    unfold parseStartlineRequest thirdField
    simp only [found, copied]
    cases (hasStrsep (hasStrsep (some (lineText buffer)) (ascii " ")).2 (ascii " ")).2 with
    | none => simp [startlineSafe_line _ mem length]
    | some rest =>
      cases token : strtok rest crlf with
      | none => simp [token, mem, startlineSafe_null]
      | some version => simp [token, startlineSafe_line _ mem length]

theorem parseStartlineResponse_safe (message : CoHTTPResponse) (buffer : Bytes) :
    StartlineSafe (parseStartlineResponse message buffer) buffer ↔
      (lf ∈ buffer → StartsHttp (lineText buffer) → ¬ EndsAtSecondSpace (lineText buffer)) := by
  obtain ⟨absent, missing⟩ | ⟨mem, pos, found, length, copied⟩ := memchr_cases buffer
  · have parsed : parseStartlineResponse message buffer = some (0, message) := by
      simp [parseStartlineResponse, missing]
    rw [parsed]
    exact ⟨fun _ mem => absurd mem absent, fun _ => startlineSafe_more message absent⟩
  · rw [← thirdField_null]
    unfold parseStartlineResponse thirdField
    simp only [found, copied, hasStrsep_first, Option.getD_some]
    by_cases http : StartsHttp (lineText buffer)
    · have goesOn : (!strncaseEq ((lineText buffer).takeWhile (· != space)) (ascii "HTTP") 4) = false := by
        rw [show strncaseEq _ _ _ = true from http]
        rfl
      rw [goesOn]
      cases (hasStrsep (hasStrsep (some (lineText buffer)) (ascii " ")).2 (ascii " ")).2 with
      | none => simp [startlineSafe_line _ mem length]
      | some rest =>
        cases token : strtok rest crlf with
        | none => simp [token, mem, http, startlineSafe_null]
        | some reasonPhrase => simp [token, startlineSafe_line _ mem length]
    · have stops : (!strncaseEq ((lineText buffer).takeWhile (· != space)) (ascii "HTTP") 4) = true := by
        rw [Bool.eq_false_iff.2 http]
        rfl
      rw [stops, if_pos rfl]
      exact ⟨fun _ _ http' => absurd http' http, fun _ => startlineSafe_error message mem⟩

/-- A start line is read safely if and only if something other than a line end is behind its
    second space, where it has one; a response that does not start with `HTTP` is refused
    before that. -/
theorem startline_safe_iff (request : CoHTTPRequest) (response : CoHTTPResponse) (buffer : Bytes) :
    (StartlineSafe (parseStartlineRequest request buffer) buffer ↔
      (lf ∈ buffer → ¬ EndsAtSecondSpace (lineText buffer))) ∧
    (StartlineSafe (parseStartlineResponse response buffer) buffer ↔
      (lf ∈ buffer → StartsHttp (lineText buffer) → ¬ EndsAtSecondSpace (lineText buffer))) :=
  ⟨parseStartlineRequest_safe request buffer, parseStartlineResponse_safe response buffer⟩

/-- A request line without a version. -/
theorem version_missing : ¬ ∀ (request : CoHTTPRequest) (buffer : Bytes),
    StartlineSafe (parseStartlineRequest request buffer) buffer := by
  intro safe
  have null : parseStartlineRequest {} (ascii "GET / \r\n") = none := by
    decide +kernel
  exact startlineSafe_null (null ▸ safe {} (ascii "GET / \r\n"))

/-! ## Request lines with parameters -/

/-- A parameter as it stands in a url. -/
def pairText (pair : Bytes × Bytes) : Bytes := pair.1 ++ 61 :: pair.2

/-- The parameters of a url, joined by ampersands. -/
def queryText (pairs : List (Bytes × Bytes)) : Bytes := [38].intercalate (pairs.map pairText)

/-- The parts of a request line, with nothing in a part that would end it early. -/
structure RequestLine where
  method : Bytes
  path : Bytes
  pairs : List (Bytes × Bytes)
  version : Bytes
  methodPlain : Inline method ∧ space ∉ method
  pathPlain : Inline path ∧ space ∉ path
  pathEnds : 63 ∉ path
  pairsPlain : ∀ pair ∈ pairs, (Inline pair.1 ∧ space ∉ pair.1) ∧ Inline pair.2 ∧ space ∉ pair.2
  keysEnd : ∀ pair ∈ pairs, 38 ∉ pair.1 ∧ 61 ∉ pair.1
  valuesEnd : ∀ pair ∈ pairs, 38 ∉ pair.2
  versionInline : Inline version
  versionNonempty : version ≠ []

namespace RequestLine

def query (self : RequestLine) : Bytes := queryText self.pairs

def url (self : RequestLine) : Bytes := self.path ++ 63 :: self.query

def text (self : RequestLine) : Bytes :=
  self.method ++ space :: (self.url ++ space :: (self.version ++ crlf))

end RequestLine

section
variable {pairs : List (Bytes × Bytes)}

theorem queryText_cons (first second : Bytes × Bytes) (pairs : List (Bytes × Bytes)) :
    queryText (first :: second :: pairs) = pairText first ++ 38 :: queryText (second :: pairs) := by
  simp [queryText, List.intercalate]

theorem queryText_one (pair : Bytes × Bytes) : queryText [pair] = pairText pair := by
  simp [queryText, List.intercalate]

theorem mem_queryText {byte : UInt8} (mem : byte ∈ queryText pairs) :
    byte = 38 ∨ byte = 61 ∨ ∃ pair ∈ pairs, byte ∈ pair.1 ∨ byte ∈ pair.2 := by
  induction pairs with
  | nil => cases mem
  | cons first pairs ih =>
    have ofFirst : byte ∈ pairText first → byte = 38 ∨ byte = 61 ∨ ∃ pair ∈ first :: pairs,
        byte ∈ pair.1 ∨ byte ∈ pair.2 := by
      intro mem
      rcases List.mem_append.1 mem with key | rest
      · exact .inr (.inr ⟨first, List.mem_cons_self, .inl key⟩)
      · rcases List.mem_cons.1 rest with equals | value
        · exact .inr (.inl equals)
        · exact .inr (.inr ⟨first, List.mem_cons_self, .inr value⟩)
    cases pairs with
    | nil =>
      rw [queryText_one] at mem
      exact ofFirst mem
    | cons second pairs =>
      rw [queryText_cons] at mem
      rcases List.mem_append.1 mem with first' | rest
      · exact ofFirst first'
      · rcases List.mem_cons.1 rest with ampersand | later
        · exact .inl ampersand
        · rcases ih later with ampersand | equals | ⟨pair, member, found⟩
          · exact .inl ampersand
          · exact .inr (.inl equals)
          · exact .inr (.inr ⟨pair, List.mem_cons_of_mem _ member, found⟩)

theorem length_le_queryText (pairs : List (Bytes × Bytes)) : pairs.length ≤ (queryText pairs).length := by
  induction pairs with
  | nil => exact Nat.zero_le _
  | cons first pairs ih =>
    cases pairs with
    | nil =>
      rw [queryText_one, pairText, List.length_append, List.length_singleton, List.length_cons]
      omega
    | cons second pairs =>
      simp only [queryText_cons, List.length_append, List.length_cons] at ih ⊢
      omega

/-- The two cuts that take a parameter apart. -/
theorem hasStrsep_pair {pair : Bytes × Bytes} (key : 61 ∉ pair.1) :
    hasStrsep (some (pairText pair)) (ascii "=") = (some pair.1, some pair.2) :=
  hasStrsep_found key

/-- The loop inserts the parameters one after the other. -/
theorem parseParams_pairs (keys : ∀ pair ∈ pairs, 38 ∉ pair.1 ∧ 61 ∉ pair.1)
    (values : ∀ pair ∈ pairs, 38 ∉ pair.2) {turns : Nat} (enough : pairs.length ≤ turns) (params : StringMap) :
    parseParams turns params (some (queryText pairs)) =
      pairs.foldl (fun map pair => map.insert pair.1 pair.2) params := by
  induction pairs generalizing turns params with
  | nil =>
    cases turns with
    | zero => rfl
    | succ turns => rfl
  | cons first pairs ih =>
    obtain ⟨turns, rfl⟩ : ∃ more, turns = more + 1 := ⟨turns - 1, by rw [List.length_cons] at enough; omega⟩
    have keyEnds := keys first List.mem_cons_self
    have valueEnds := values first List.mem_cons_self
    have inside : (38 : UInt8) ∉ pairText first := by
      simp only [pairText, List.mem_append, List.mem_cons, not_or]
      exact ⟨keyEnds.1, by decide, valueEnds⟩
    have nonempty : ∃ byte more, pairText first = byte :: more := by
      unfold pairText
      cases first.1 with
      | nil => exact ⟨_, _, rfl⟩
      | cons byte more => exact ⟨_, _, rfl⟩
    cases pairs with
    | nil =>
      obtain ⟨byte, more, text⟩ := nonempty
      have cut : hasStrsep (some (pairText first)) (ascii "&") = (some (pairText first), none) :=
        hasStrsep_missing inside
      rw [queryText_one]
      rw [text] at cut ⊢
      simp only [parseParams, cut]
      rw [← text, hasStrsep_pair keyEnds.2]
      cases turns <;> rfl
    | cons second pairs =>
      have cut : hasStrsep (some (pairText first ++ 38 :: queryText (second :: pairs))) (ascii "&") =
          (some (pairText first), some (queryText (second :: pairs))) := hasStrsep_found inside
      obtain ⟨byte, more, text⟩ := nonempty
      rw [queryText_cons]
      have shape : pairText first ++ 38 :: queryText (second :: pairs) =
          byte :: (more ++ 38 :: queryText (second :: pairs)) := by
        rw [text]
        rfl
      rw [shape] at cut ⊢
      simp only [parseParams, cut, hasStrsep_pair keyEnds.2]
      exact ih (fun pair member => keys pair (List.mem_cons_of_mem _ member))
        (fun pair member => values pair (List.mem_cons_of_mem _ member))
        (by rw [List.length_cons] at enough; omega) _

/-- A map that was filled from a list knows the last value of each key. -/
theorem lookup_foldl_insert (pairs : List (Bytes × Bytes)) (map : StringMap) (key : Bytes) :
    (pairs.foldl (fun map pair => map.insert pair.1 pair.2) map).lookup key =
      ((pairs.filter fun pair => pair.1 = key).getLast?.map Prod.snd).or (map.lookup key) := by
  induction pairs using List.reverseRecOn with
  | nil => rfl
  | append_singleton pairs last ih =>
    rw [List.foldl_append, List.foldl_cons, List.foldl_nil, List.filter_append]
    by_cases same : last.1 = key
    · have kept : [last].filter (fun pair => pair.1 = key) = [last] := by simp [same]
      rw [kept, List.getLast?_concat, same, Finmap.lookup_insert]
      rfl
    · have dropped : [last].filter (fun pair => pair.1 = key) = [] := by simp [same]
      rw [dropped, List.append_nil, Finmap.lookup_insert_of_ne _ (Ne.symm same)]
      exact ih

end

namespace RequestLine

variable (self : RequestLine)

theorem notMem_url {byte : UInt8} (other : byte ≠ 38 ∧ byte ≠ 61 ∧ byte ≠ 63) (inPath : byte ∉ self.path)
    (inPairs : ∀ pair ∈ self.pairs, byte ∉ pair.1 ∧ byte ∉ pair.2) : byte ∉ self.url := by
  intro mem
  rcases List.mem_append.1 mem with path | rest
  · exact inPath path
  · rcases List.mem_cons.1 rest with mark | inQuery
    · exact other.2.2 mark
    · rcases mem_queryText inQuery with ampersand | equals | ⟨pair, member, key | value⟩
      · exact other.1 ampersand
      · exact other.2.1 equals
      · exact (inPairs pair member).1 key
      · exact (inPairs pair member).2 value

theorem urlPlain : Inline self.url ∧ space ∉ self.url := by
  obtain ⟨⟨zero, crFree, lfFree⟩, spaceFree⟩ := self.pathPlain
  refine ⟨⟨self.notMem_url (by decide) zero ?_, self.notMem_url (by decide) crFree ?_,
    self.notMem_url (by decide) lfFree ?_⟩, self.notMem_url (by decide) spaceFree ?_⟩
  · exact fun pair member => ⟨(self.pairsPlain pair member).1.1.1, (self.pairsPlain pair member).2.1.1⟩
  · exact fun pair member => ⟨(self.pairsPlain pair member).1.1.2.1, (self.pairsPlain pair member).2.1.2.1⟩
  · exact fun pair member => ⟨(self.pairsPlain pair member).1.1.2.2, (self.pairsPlain pair member).2.1.2.2⟩
  · exact fun pair member => ⟨(self.pairsPlain pair member).1.2, (self.pairsPlain pair member).2.2⟩

/-- The line as the start of a message. -/
def raw : RawMessage where
  first := self.method
  second := self.url
  third := self.version
  headers := []
  body := []
  firstInline := self.methodPlain.1
  firstWord := self.methodPlain.2
  secondInline := self.urlPlain.1
  secondWord := self.urlPlain.2
  thirdInline := self.versionInline
  thirdNonempty := self.versionNonempty
  namesInline := nofun
  valuesInline := nofun

/-- A request line gives its parts back, and its parameters with the last value of each
    key. -/
theorem parseStartline_parts (message : CoHTTPRequest) (fresh : message.params = ∅) (rest : Bytes) :
    ∃ after, parseStartlineRequest message (self.text ++ rest) = some ((self.text.length : Int), after) ∧
      after.method = self.method ∧ after.uri = self.path ∧ after.url = self.path ++ 63 :: self.query ∧
      after.version = self.version ∧ ∀ key, after.params.lookup key =
        (self.pairs.filter fun pair => pair.1 = key).getLast?.map Prod.snd := by
  have parsed := self.raw.parseStartlineRequest_startLine message rest
  have cut : hasStrsep (some self.raw.second) (ascii "?") = (some self.path, some self.query) :=
    hasStrsep_found self.pathEnds
  have enough : self.pairs.length ≤ self.raw.startLine.length + 1 := by
    have shorter := length_le_queryText self.pairs
    have inside : self.raw.startLine = self.method ++ space :: (self.path ++ 63 :: queryText self.pairs ++
      space :: (self.version ++ crlf)) := rfl
    rw [inside]
    simp only [List.length_append, List.length_cons]
    omega
  refine ⟨_, parsed, rfl, ?_, rfl, rfl, ?_⟩
  · simp only [RawMessage.requestLine, cut, Option.getD_some]
  · intro key
    simp only [RawMessage.requestLine, cut]
    rw [query, parseParams_pairs self.keysEnd self.valuesEnd enough, lookup_foldl_insert, fresh,
      Finmap.lookup_empty, Option.or_none]

end RequestLine

theorem http11_inline : Inline (ascii "HTTP/1.1") := by decide

theorem http11_ne_nil : ascii "HTTP/1.1" ≠ [] := by decide

/-- A key twice, an empty key, and a value with an equals sign. -/
def twiceLine : RequestLine where
  method := ascii "GET"
  path := ascii "/a"
  pairs := [(ascii "k", ascii "1"), ([], ascii "v=w"), (ascii "k", [])]
  version := ascii "HTTP/1.1"
  methodPlain := by decide
  pathPlain := by decide
  pathEnds := by decide
  pairsPlain := by decide
  keysEnd := by decide
  valuesEnd := by decide
  versionInline := http11_inline
  versionNonempty := http11_ne_nil

theorem parseStartline_parts_twice :
    ∃ after, parseStartlineRequest {} (ascii "GET /a?k=1&=v=w&k= HTTP/1.1\r\n" ++ ascii "Host: b") =
        some (29, after) ∧ after.params.lookup (ascii "k") = some [] := by
  obtain ⟨after, parsed, _, _, _, _, params⟩ := twiceLine.parseStartline_parts {} rfl (ascii "Host: b")
  exact ⟨after, parsed, params (ascii "k")⟩

end CoServer
