import CoServer.Protocol.HttpDecode

/-! # Messages as text

`RawMessage` is a message as it stands on the wire: a start line of three fields,
header lines, a blank line and a body, with nothing in a line that the parser
would take for the end of a field.  The lemmas say what the parser makes of each
line, and `reads_head` what the reader makes of all of them. -/

namespace CoServer

open Lib (ascii memchr cstr strstr strtok strspn Reader)

def space : UInt8 := 32
def colon : UInt8 := 58

/-- A C string that stays within its line. -/
def Inline (text : Bytes) : Prop := 0 ∉ text ∧ cr ∉ text ∧ lf ∉ text

instance (text : Bytes) : Decidable (Inline text) := inferInstanceAs (Decidable (_ ∧ _))

structure RawMessage where
  first : Bytes
  second : Bytes
  third : Bytes
  headers : List (Bytes × Bytes)
  body : Bytes
  firstInline : Inline first
  firstWord : space ∉ first
  secondInline : Inline second
  secondWord : space ∉ second
  thirdInline : Inline third
  thirdNonempty : third ≠ []
  namesInline : ∀ header ∈ headers, Inline header.1 ∧ colon ∉ header.1
  valuesInline : ∀ header ∈ headers, Inline header.2

def headerRow (header : Bytes × Bytes) : Bytes := header.1 ++ colon :: header.2 ++ crlf

def headerRows (headers : List (Bytes × Bytes)) : Bytes := (headers.map headerRow).flatten

namespace RawMessage

def startLine (self : RawMessage) : Bytes :=
  self.first ++ space :: (self.second ++ space :: (self.third ++ crlf))

/-- The start line and the header lines. -/
def head (self : RawMessage) : Bytes := self.startLine ++ headerRows self.headers

def bytes (self : RawMessage) : Bytes := self.head ++ crlf ++ self.body

end RawMessage

@[simp] theorem headerRows_nil : headerRows [] = [] := rfl

@[simp] theorem headerRows_cons (header : Bytes × Bytes) (headers : List (Bytes × Bytes)) :
    headerRows (header :: headers) = headerRow header ++ headerRows headers := rfl

@[simp] theorem headerRows_append (front back : List (Bytes × Bytes)) :
    headerRows (front ++ back) = headerRows front ++ headerRows back := by
  simp [headerRows]

/-! ## Fields -/

section
variable {front back : Bytes} {byte : UInt8}

theorem hasStrsep_found (habsent : byte ∉ front) :
    hasStrsep (some (front ++ byte :: back)) [byte] = (some front, some back) := by
  have htake : (front ++ byte :: back).take front.length = front := List.take_left
  have hdrop : (front ++ byte :: back).drop (front.length + 1) = back := by
    rw [List.append_cons, List.drop_left' (by simp)]
  simp only [hasStrsep, Lib.strstr_found habsent, htake, List.length_cons, List.length_nil, Nat.zero_add, hdrop]

/-- The end of a line, with the line break that `strtok` cuts off. -/
theorem strtok_line (hinline : Inline front) (hnonempty : front ≠ []) : strtok (front ++ crlf) crlf = some front := by
  apply Lib.strtok_token hnonempty
  · intro byte hmem hbreak
    simp only [crlf, List.mem_cons, List.not_mem_nil, or_false] at hbreak
    cases hbreak with
    | inl hcr => exact hinline.2.1 (hcr ▸ hmem)
    | inr hlf => exact hinline.2.2 (hlf ▸ hmem)
  · exact fun _ hmem => hmem

/-- What the parser copies out of the buffer. -/
theorem line_copy (hzero : 0 ∉ front) (rest : Bytes) :
    cstr ((front ++ lf :: rest).take (front.length + 1)) = front ++ [lf] := by
  rw [take_line]
  apply Lib.cstr_self
  intro hmem
  cases List.mem_append.mp hmem with
  | inl hmem => exact hzero hmem
  | inr hmem => exact absurd (List.mem_singleton.mp hmem) (by decide)

end

/-! ## Header lines -/

/-- What a header line adds to the header map; a value that is not there is not set. -/
def insertRow (map : StringMap) (header : Bytes × Bytes) : StringMap :=
  if header.2 = [] then map else map.insert header.1 (header.2.dropWhile (· ∈ [space]))

def CoProtocolHttp.addRows (message : CoProtocolHttp) (headers : List (Bytes × Bytes)) : CoProtocolHttp :=
  { message with headers := headers.foldl insertRow message.headers }

theorem CoProtocolHttp.addRows_cons (message : CoProtocolHttp) (header : Bytes × Bytes) (headers : List (Bytes × Bytes)) :
    message.addRows (header :: headers) = (message.addRows [header]).addRows headers := rfl

/-- The value a list of header lines leaves under a name. -/
def lastValue (headers : List (Bytes × Bytes)) (name : Bytes) : Option Bytes :=
  (headers.filter fun header => header.1 = name ∧ header.2 ≠ []).getLast?.map fun header =>
    header.2.dropWhile (· ∈ [space])

theorem lookup_insertRows (map : StringMap) (headers : List (Bytes × Bytes)) (name : Bytes) :
    (headers.foldl insertRow map).lookup name = (lastValue headers name).or (map.lookup name) := by
  induction headers using List.reverseRecOn with
  | nil => rfl
  | append_singleton headers header ih =>
    rw [List.foldl_append, List.foldl_cons, List.foldl_nil, insertRow, lastValue, List.filter_append]
    by_cases hempty : header.2 = []
    · have hskip : [header].filter (fun header => header.1 = name ∧ header.2 ≠ []) = [] := by simp [hempty]
      rw [hskip, List.append_nil, if_pos hempty]
      exact ih
    · rw [if_neg hempty]
      by_cases hname : header.1 = name
      · have hkeep : [header].filter (fun header => header.1 = name ∧ header.2 ≠ []) = [header] := by
          simp [hempty, hname]
        rw [hkeep, List.getLast?_concat, hname, Finmap.lookup_insert]
        rfl
      · have hskip : [header].filter (fun header => header.1 = name ∧ header.2 ≠ []) = [] := by simp [hname]
        rw [hskip, List.append_nil, Finmap.lookup_insert_of_ne _ (Ne.symm hname)]
        exact ih

section
variable {header : Bytes × Bytes}

theorem headerRow_eq (header : Bytes × Bytes) : headerRow header = (header.1 ++ colon :: header.2 ++ [cr]) ++ [lf] := by
  simp [headerRow, crlf]

theorem headerRow_inside (hname : Inline header.1) (hvalue : Inline header.2) :
    0 ∉ header.1 ++ colon :: header.2 ++ [cr] ∧ lf ∉ header.1 ++ colon :: header.2 ++ [cr] := by
  have hcolonZero : (0 : UInt8) ≠ colon := by decide
  have hcolonLf : lf ≠ colon := by decide
  have hcrZero : (0 : UInt8) ≠ cr := by decide
  have hcrLf : lf ≠ cr := by decide
  simp only [List.mem_append, List.mem_cons, List.not_mem_nil, not_or]
  exact ⟨⟨⟨hname.1, hcolonZero, hvalue.1⟩, hcrZero, not_false⟩, ⟨hname.2.2, hcolonLf, hvalue.2.2⟩, hcrLf, not_false⟩

theorem parseHeader_row (message : CoProtocolHttp) (hname : Inline header.1 ∧ colon ∉ header.1)
    (hvalue : Inline header.2) (rest : Bytes) :
    parseHeader message (headerRow header ++ rest) = ((headerRow header).length, message.addRows [header]) := by
  obtain ⟨hzero, hline⟩ := headerRow_inside hname.1 hvalue
  have hlength : (headerRow header).length = (header.1 ++ colon :: header.2 ++ [cr]).length + 1 := by
    rw [headerRow_eq, List.length_append, List.length_singleton]
  have hsep : hasStrsep (some (headerRow header)) (ascii ":") = (some header.1, some (header.2 ++ crlf)) := by
    have hfound := @hasStrsep_found header.1 (header.2 ++ crlf) colon hname.2
    rw [headerRow, List.append_assoc, List.cons_append]
    exact hfound
  have hcopy := line_copy hzero rest
  rw [← headerRow_eq] at hcopy
  have hbuffer : headerRow header ++ rest = (header.1 ++ colon :: header.2 ++ [cr]) ++ lf :: rest := by
    rw [headerRow_eq, List.append_assoc, List.singleton_append]
  rw [hbuffer, hlength]
  simp only [parseHeader, memchr_line hline, hcopy, hsep]
  by_cases hempty : header.2 = []
  · have hnone : strtok (header.2 ++ crlf) crlf = none := by
      rw [hempty]
      exact Lib.strtok_delimiters fun _ hmem => hmem
    simp only [Option.bind_some, hnone]
    rw [CoProtocolHttp.addRows, List.foldl_cons, List.foldl_nil, insertRow, if_pos hempty]
  · simp only [Option.bind_some, strtok_line hvalue hempty, Lib.drop_strspn]
    rw [CoProtocolHttp.addRows, List.foldl_cons, List.foldl_nil, insertRow, if_neg hempty]
    rfl

end

/-! ## Start lines -/

namespace RawMessage

theorem startLine_eq (self : RawMessage) :
    self.startLine = (self.first ++ space :: (self.second ++ space :: (self.third ++ [cr]))) ++ [lf] := by
  simp [startLine, crlf]

theorem startLine_inside (self : RawMessage) :
    0 ∉ self.first ++ space :: (self.second ++ space :: (self.third ++ [cr])) ∧
      lf ∉ self.first ++ space :: (self.second ++ space :: (self.third ++ [cr])) := by
  have hspaceZero : (0 : UInt8) ≠ space := by decide
  have hspaceLf : lf ≠ space := by decide
  have hcrZero : (0 : UInt8) ≠ cr := by decide
  have hcrLf : lf ≠ cr := by decide
  simp only [List.mem_append, List.mem_cons, List.not_mem_nil, not_or]
  exact ⟨⟨self.firstInline.1, hspaceZero, self.secondInline.1, hspaceZero, self.thirdInline.1, hcrZero, not_false⟩,
    self.firstInline.2.2, hspaceLf, self.secondInline.2.2, hspaceLf, self.thirdInline.2.2, hcrLf, not_false⟩

/-- The line as the start line parsers take it apart. -/
theorem startLine_fields (self : RawMessage) :
    hasStrsep (some self.startLine) (ascii " ") = (some self.first, some (self.second ++ space :: (self.third ++ crlf))) ∧
      hasStrsep (some (self.second ++ space :: (self.third ++ crlf))) (ascii " ") =
        (some self.second, some (self.third ++ crlf)) :=
  ⟨hasStrsep_found self.firstWord, hasStrsep_found self.secondWord⟩

/-- A request after its start line. -/
def requestLine (self : RawMessage) (message : CoHTTPRequest) : CoHTTPRequest :=
  let (uri, params) := hasStrsep (some self.second) (ascii "?")
  { message with
    method := self.first
    url := self.second
    uri := uri.getD message.uri
    version := self.third
    params := parseParams (self.startLine.length + 1) message.params params }

/-- A response after its start line. -/
def responseLine (self : RawMessage) (message : CoHTTPResponse) : CoHTTPResponse :=
  { message with
    version := self.first
    statuscode := atoi self.second
    reasonPhrase := self.third }

/-- The first field starts with "HTTP", in either case. -/
def IsResponse (self : RawMessage) : Prop := Lib.strncaseEq self.first (ascii "HTTP") 4 = true

instance (self : RawMessage) : Decidable self.IsResponse := inferInstanceAs (Decidable (_ = _))

theorem parseStartlineRequest_startLine (self : RawMessage) (message : CoHTTPRequest) (rest : Bytes) :
    parseStartlineRequest message (self.startLine ++ rest) =
      some ((self.startLine.length : Int), self.requestLine message) := by
  obtain ⟨hzero, hline⟩ := self.startLine_inside
  obtain ⟨hfirst, hsecond⟩ := self.startLine_fields
  have hcopy := line_copy hzero rest
  rw [← startLine_eq] at hcopy
  have hlength : self.startLine.length =
      (self.first ++ space :: (self.second ++ space :: (self.third ++ [cr]))).length + 1 := by
    rw [startLine_eq, List.length_append, List.length_singleton]
  have hbuffer : self.startLine ++ rest =
      (self.first ++ space :: (self.second ++ space :: (self.third ++ [cr]))) ++ lf :: rest := by
    rw [startLine_eq, List.append_assoc, List.singleton_append]
  have huri : ∃ uri params, hasStrsep (some self.second) (ascii "?") = (some uri, params) := by
    simp only [hasStrsep]
    split
    · exact ⟨_, _, rfl⟩
    · exact ⟨_, _, rfl⟩
  obtain ⟨uri, params, huri⟩ := huri
  rw [hbuffer]
  simp only [parseStartlineRequest, memchr_line hline, hcopy, hfirst, hsecond, huri, Option.map_some,
    strtok_line self.thirdInline self.thirdNonempty, requestLine, Option.elim_some, Option.getD_some, hlength]

theorem parseStartlineResponse_startLine (self : RawMessage) (message : CoHTTPResponse) (rest : Bytes) :
    parseStartlineResponse message (self.startLine ++ rest) =
      if self.IsResponse then some ((self.startLine.length : Int), self.responseLine message)
      else some (-1, message) := by
  obtain ⟨hzero, hline⟩ := self.startLine_inside
  obtain ⟨hfirst, hsecond⟩ := self.startLine_fields
  have hcopy := line_copy hzero rest
  rw [← startLine_eq] at hcopy
  have hlength : self.startLine.length =
      (self.first ++ space :: (self.second ++ space :: (self.third ++ [cr]))).length + 1 := by
    rw [startLine_eq, List.length_append, List.length_singleton]
  have hbuffer : self.startLine ++ rest =
      (self.first ++ space :: (self.second ++ space :: (self.third ++ [cr]))) ++ lf :: rest := by
    rw [startLine_eq, List.append_assoc, List.singleton_append]
  rw [hbuffer]
  simp only [parseStartlineResponse, memchr_line hline, hcopy, hfirst, hsecond, Option.map_some, Option.getD_some,
    strtok_line self.thirdInline self.thirdNonempty, responseLine, Option.elim_some, hlength]
  by_cases hresponse : self.IsResponse
  · rw [if_pos hresponse, if_neg (by simpa [IsResponse] using hresponse)]
  · rw [if_neg hresponse, if_pos (by simpa [IsResponse] using hresponse)]

end RawMessage

/-! ## The head, item by item -/

theorem parseHeader_blank (message : CoProtocolHttp) (rest : Bytes) : parseHeader message (crlf ++ rest) = (2, message) := by
  have hline : lf ∉ [cr] := by decide
  have hcopy := @line_copy [cr] (by decide) rest
  have hsep : hasStrsep (some ([cr] ++ [lf])) (ascii ":") = (some ([cr] ++ [lf]), none) := by
    have hnone : strstr ([cr] ++ [lf]) (ascii ":") = none := Lib.strstr_none (by decide)
    simp only [hasStrsep, hnone]
  rw [show crlf ++ rest = [cr] ++ lf :: rest from rfl]
  simp only [parseHeader, memchr_line hline, hcopy, hsep, Option.bind_none]
  rfl

section
variable {Message : Type} {side : HttpSide Message} {chunks : Bool} {base : CoProtocolHttp} {header : Bytes × Bytes}

/-- The first byte of a header line does not end the headers. -/
theorem headerRow_head (hname : Inline header.1) (rest : Bytes) :
    ¬((headerRow header ++ rest).head? = some cr ∨ (headerRow header ++ rest).head? = some lf) := by
  have hcr : colon ≠ cr := by decide
  have hlf : colon ≠ lf := by decide
  rw [headerRow]
  cases hfirst : header.1 with
  | nil => simp [hcr, hlf]
  | cons byte name =>
    rw [hfirst] at hname
    rintro (heq | heq)
    · exact hname.2.1 (Option.some.inj heq ▸ List.mem_cons_self)
    · exact hname.2.2 (Option.some.inj heq ▸ List.mem_cons_self)

theorem HttpSide.Lawful.next_row (law : side.Lawful chunks) (message : Message) (hstatus : base.parseStatus = .eHeader)
    (hname : Inline header.1 ∧ colon ∉ header.1) (hvalue : Inline header.2) (rest : Bytes) :
    law.reader.next (some (side.withBase message base)) (headerRow header ++ rest) =
      some (some (side.withBase message (base.addRows [header])), (headerRow header).length) := by
  have hagain : side.withBase (side.withBase message base) = side.withBase message :=
    funext fun other => law.withBase_withBase message base other
  have hmem : lf ∈ headerRow header ++ rest := by simp [headerRow, crlf]
  simp only [HttpSide.Lawful.reader, HttpSide.itemNext, law.base_withBase, hstatus, parseHeader_row base hname hvalue,
    hagain]
  rw [if_neg (not_not.mpr hmem), if_neg (headerRow_head hname.1 rest)]
  rfl

theorem HttpSide.Lawful.next_blank (law : side.Lawful chunks) (message : Message)
    (hstatus : base.parseStatus = .eHeader) (rest : Bytes) :
    law.reader.next (some (side.withBase message base)) (crlf ++ rest) =
      some ((side.endHeader { base with parseStatus := .eContent }).map (side.withBase message), 2) := by
  have hagain : side.withBase (side.withBase message base) = side.withBase message :=
    funext fun other => law.withBase_withBase message base other
  have hmem : lf ∈ crlf ++ rest := by simp [crlf]
  simp only [HttpSide.Lawful.reader, HttpSide.itemNext, law.base_withBase, hstatus, parseHeader_blank, hagain]
  rw [if_neg (not_not.mpr hmem), if_pos (.inl rfl)]

theorem HttpSide.Lawful.reads_rows (law : side.Lawful chunks) (message : Message) (hstatus : base.parseStatus = .eHeader)
    {headers : List (Bytes × Bytes)} (hnames : ∀ header ∈ headers, Inline header.1 ∧ colon ∉ header.1)
    (hvalues : ∀ header ∈ headers, Inline header.2) (rest : Bytes) :
    law.reader.Reads (some (side.withBase message base)) (headerRows headers ++ rest)
      (some (side.withBase message (base.addRows headers))) rest := by
  induction headers generalizing base with
  | nil => exact .done
  | cons header headers ih =>
    rw [headerRows_cons, List.append_assoc]
    have hnext := law.next_row message hstatus (hnames header List.mem_cons_self)
      (hvalues header List.mem_cons_self) (headerRows headers ++ rest)
    apply Reader.Reads.take hnext
    rw [List.drop_left]
    rw [base.addRows_cons]
    exact ih hstatus (fun other hmem => hnames other (List.mem_cons_of_mem _ hmem))
      (fun other hmem => hvalues other (List.mem_cons_of_mem _ hmem))

end

end CoServer
