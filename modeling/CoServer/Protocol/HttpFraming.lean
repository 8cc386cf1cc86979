import CoServer.Protocol.HttpMessage

/-! # Complete messages

`Framed` says that the body of a message is as long as its Content-Length header
says.  `HeadRead` collects what a side makes of the head of such a message, and
from it follows what the reader makes of the whole: a completed message and what
lies behind it, unless the start line is refused, the body is taken for a chunked
one, or its length does not fit in an `int32_t`. -/

namespace CoServer

open Lib (ascii cstr isDigit isSpace decimalValue strtol Reader)

/-! ## The length of the body -/

/-- Blanks that may stand around a number. -/
def isBlank (byte : UInt8) : Prop := byte = space ∨ byte = 9

/-- A header value that is a number in decimal digits. -/
structure SpellsLength (value : Bytes) (n : Nat) : Prop where
  spelled : ∃ before digits after, value = before ++ digits ++ after ∧ (∀ byte ∈ before, isBlank byte) ∧
    (∀ byte ∈ after, isBlank byte) ∧ digits ≠ [] ∧ (∀ byte ∈ digits, isDigit byte = true) ∧ decimalValue digits = n

structure RawMessage.Framed (raw : RawMessage) : Prop where
  length : ∀ header ∈ raw.headers, header.1 = headerContentLength → SpellsLength header.2 raw.body.length
  bodiless : (∀ header ∈ raw.headers, header.1 ≠ headerContentLength) → raw.body = []

/-- What `atoi` makes of a body's length. -/
def RawMessage.remain (raw : RawMessage) : Int := int32 (min (2 ^ 63 - 1) (raw.body.length : Int))

theorem RawMessage.remain_le {raw : RawMessage} (hremain : 0 ≤ raw.remain) : raw.remain ≤ raw.body.length := by
  have hbound := (int32_bounds (min (2 ^ 63 - 1) (raw.body.length : Int))).2
  obtain ⟨turns, hturns⟩ := int32_turns (min (2 ^ 63 - 1) (raw.body.length : Int))
  simp only [remain] at hremain ⊢
  omega

theorem RawMessage.remain_eq_iff {raw : RawMessage} : raw.remain = raw.body.length ↔ raw.body.length < 2 ^ 31 := by
  constructor
  · intro heq
    have hbound := (int32_bounds (min (2 ^ 63 - 1) (raw.body.length : Int))).2
    simp only [remain] at heq
    omega
  · intro hsmall
    rw [remain, int32_of_bounds] <;> omega

theorem isBlank_isSpace {byte : UInt8} (hblank : isBlank byte) : isSpace byte = true := by
  cases hblank with
  | inl hspace => rw [hspace]; rfl
  | inr htab => rw [htab]; rfl

theorem isBlank_not_isDigit {byte : UInt8} (hblank : isBlank byte) : isDigit byte = false := by
  cases hblank with
  | inl hspace => rw [hspace]; rfl
  | inr htab => rw [htab]; rfl

theorem isDigit_ne_zero {byte : UInt8} (hdigit : isDigit byte = true) : byte ≠ 0 := by
  rintro rfl
  cases hdigit

theorem isBlank_ne_zero {byte : UInt8} (hblank : isBlank byte) : byte ≠ 0 := by
  rintro rfl
  cases hblank with
  | inl hspace => cases hspace
  | inr htab => cases htab

/-- The number is read behind the spaces that the parser skips. -/
theorem SpellsLength.atoi {value : Bytes} {n : Nat} (hspells : SpellsLength value n) :
    value.dropWhile (· ∈ [space]) ≠ [] ∧
      CoServer.atoi (cstr (value.dropWhile (· ∈ [space]))) = int32 (min (2 ^ 63 - 1) (n : Int)) := by
  obtain ⟨before, digits, after, rfl, hbefore, hafter, hnonempty, hdigits, rfl⟩ := hspells.spelled
  obtain ⟨head, rest, rfl⟩ := List.exists_cons_of_ne_nil hnonempty
  have hhead : ¬(head ∈ [space]) := by
    intro hmem
    rw [List.mem_singleton.mp hmem] at hdigits
    exact absurd (hdigits space List.mem_cons_self) (by decide)
  have hdrop : (before ++ (head :: rest) ++ after).dropWhile (· ∈ [space]) =
      before.dropWhile (· ∈ [space]) ++ (head :: rest) ++ after := by
    rw [List.append_assoc, List.dropWhile_append]
    split
    · rename_i hall
      rw [List.isEmpty_iff.mp hall, List.cons_append, List.dropWhile_cons, if_neg (by simpa using hhead)]
      rfl
    · rw [List.append_assoc]
  have hblank : ∀ byte ∈ before.dropWhile (· ∈ [space]), isBlank byte :=
    fun byte hmem => hbefore byte ((List.dropWhile_sublist _).subset hmem)
  have hzero : 0 ∉ before.dropWhile (· ∈ [space]) ++ (head :: rest) ++ after := by
    intro hmem
    cases List.mem_append.mp hmem with
    | inl hmem =>
      cases List.mem_append.mp hmem with
      | inl hmem => exact isBlank_ne_zero (hblank 0 hmem) rfl
      | inr hmem => exact isDigit_ne_zero (hdigits 0 hmem) rfl
    | inr hmem => exact isBlank_ne_zero (hafter 0 hmem) rfl
  have hnumeral := Lib.strtol_numeral (fun byte hmem => isBlank_isSpace (hblank byte hmem)) hdigits hnonempty
    (fun byte hfirst => isBlank_not_isDigit (hafter byte (List.mem_of_mem_head? hfirst)))
  rw [hdrop, CoServer.atoi, Lib.cstr_self hzero, hnumeral]
  exact ⟨by simp, rfl⟩

/-! ## The whole message -/

namespace RawMessage

variable {Message : Type} {side : HttpSide Message} {chunks : Bool} {raw : RawMessage} {start : Message}
  {line : Option Message} {chunked : Prop}

/-- The fields of a message in front of its body. -/
def entered (raw : RawMessage) (base : CoProtocolHttp) : CoProtocolHttp :=
  { base.addRows raw.headers with parseStatus := .eContent }

/-- The fields of a message whose body has the length that `atoi` made of its header. -/
def expecting (raw : RawMessage) (base : CoProtocolHttp) : CoProtocolHttp :=
  { raw.entered base with contentRemain := raw.remain }

/-- The fields of a message that waits for chunks. -/
def expectingChunks (raw : RawMessage) (base : CoProtocolHttp) : CoProtocolHttp :=
  { raw.entered base with contentChunked := true }

/-- The fields of the whole message. -/
def finish (raw : RawMessage) (base : CoProtocolHttp) : CoProtocolHttp :=
  { base.addRows raw.headers with
    content := raw.body
    contentLength := raw.body.length
    parseStatus := .eCompleted }

/-- What a side makes of the head of a message: `line` is the message behind the
    start line, unless that is refused. -/
structure HeadRead (raw : RawMessage) (side : HttpSide Message) (chunks : Bool) (start : Message)
    (line : Option Message) (chunked : Prop) : Prop where
  fresh : (side.base start).parseStatus = .eStartLine
  startLine (rest : Bytes) : side.parseStartline start (raw.startLine ++ rest) =
    some (line.elim (-1, start) fun message => ((raw.startLine.length : Int), message))
  base {message : Message} : line = some message → ∃ version, side.base message = { version := version }
  content {message : Message} : line = some message → ¬chunked → side.endHeader (raw.entered (side.base message)) =
    if raw.remain < 0 then none else some (raw.expecting (side.base message))
  chunks {message : Message} : line = some message → chunked → chunks = true ∧ raw.body = [] ∧
    side.endHeader (raw.entered (side.base message)) = some (raw.expectingChunks (side.base message))

theorem startLine_mem (raw : RawMessage) (rest : Bytes) : lf ∈ raw.startLine ++ rest := by
  simp [startLine, crlf]

theorem HeadRead.refused (hread : raw.HeadRead side chunks start none chunked) (law : side.Lawful chunks) (rest : Bytes) :
    law.reader.next (some start) (raw.startLine ++ rest) = some (none, 0) := by
  simp only [HttpSide.Lawful.reader, HttpSide.itemNext, hread.fresh, hread.startLine rest, Option.elim_none]
  rw [if_neg (not_not.mpr (raw.startLine_mem rest))]
  rfl

/-- The message in front of its header lines. -/
def atHeaders (side : HttpSide Message) (message : Message) : Message :=
  side.withBase message { side.base message with parseStatus := .eHeader }

variable {message : Message}

theorem HeadRead.next_startLine (hread : raw.HeadRead side chunks start (some message) chunked) (law : side.Lawful chunks)
    (rest : Bytes) : law.reader.next (some start) (raw.startLine ++ rest) =
      some (some (atHeaders side message), raw.startLine.length) := by
  have hpositive : ¬((raw.startLine.length : Int) ≤ 0) := by
    simp only [RawMessage.startLine, List.length_append, List.length_cons]
    omega
  simp only [HttpSide.Lawful.reader, HttpSide.itemNext, hread.fresh, hread.startLine rest, Option.elim_some]
  rw [if_neg (not_not.mpr (raw.startLine_mem rest)), if_neg hpositive]
  rfl

/-- Up to the blank line. -/
theorem HeadRead.reads_head (hread : raw.HeadRead side chunks start (some message) chunked) (law : side.Lawful chunks)
    (rest : Bytes) : law.reader.Reads (some start) (raw.head ++ rest)
      (some (side.withBase message ({ side.base message with parseStatus := .eHeader }.addRows raw.headers))) rest := by
  rw [head, List.append_assoc]
  apply Reader.Reads.take (hread.next_startLine law _)
  rw [List.drop_left]
  exact law.reads_rows message rfl raw.namesInline raw.valuesInline rest

/-- Up to the body, where `endHeader` says how the body is framed. -/
theorem HeadRead.reads_blank (hread : raw.HeadRead side chunks start (some message) chunked) (law : side.Lawful chunks)
    (rest : Bytes) : law.reader.Reads (some start) (raw.head ++ (crlf ++ rest))
      ((side.endHeader (raw.entered (side.base message))).map (side.withBase message)) rest := by
  apply (hread.reads_head law _).trans
  have hnext := @HttpSide.Lawful.next_blank _ _ _
    (CoProtocolHttp.addRows { side.base message with parseStatus := .eHeader } raw.headers) law message rfl rest
  exact .take hnext .done

/-- Nothing has been read of the body. -/
theorem HeadRead.unread (hread : raw.HeadRead side chunks start (some message) chunked) :
    (raw.expecting (side.base message)).Sized ∧ (raw.expectingChunks (side.base message)).Sized ∧
      (chunks && (raw.expecting (side.base message)).contentChunked) = false := by
  obtain ⟨version, hbase⟩ := hread.base rfl
  have hremain : int32 raw.remain = raw.remain := int32_int32 _
  have hzero : int32 0 = 0 := int32_of_bounds (by decide) (by decide)
  rw [hbase]
  exact ⟨⟨hremain, hzero⟩, ⟨hzero, hzero⟩, Bool.and_false chunks⟩

/-- As many bytes are taken as `atoi` made of the length, whatever they are. -/
theorem HeadRead.reads_content (hread : raw.HeadRead side chunks start (some message) chunked) (hremain : 0 ≤ raw.remain)
    {pending : Bytes} (hfits : raw.remain ≤ pending.length) :
    ∃ final, (bodyReader chunks).Reads (some (raw.expecting (side.base message))) pending (some final)
      (pending.drop raw.remain.toNat) ∧ final.parseStatus = .eCompleted ∧
      (raw.remain = raw.body.length → pending.take raw.body.length = raw.body →
        final = raw.finish (side.base message)) := by
  obtain ⟨version, hbase⟩ := hread.base rfl
  obtain ⟨hsized, _, hplain⟩ := hread.unread
  have hstatus : (raw.expecting (side.base message)).parseStatus = .eContent := rfl
  have hcontentRemain : (raw.expecting (side.base message)).contentRemain = raw.remain := rfl
  by_cases hzero : raw.remain = 0
  · -- nothing is taken, and the message is complete
    have hnext : (bodyReader chunks).next (some (raw.expecting (side.base message))) pending =
        some (some (raw.expecting (side.base message)).completed, 0) := by
      rw [bodyReader_content hstatus hsized hplain]
      simp only [contentNext, hcontentRemain, hzero]
      rfl
    refine ⟨(raw.expecting (side.base message)).completed, ?_, rfl, ?_⟩
    · rw [hzero]
      exact .one hnext
    · intro hall _
      have hnil : raw.body = [] := List.eq_nil_of_length_eq_zero (by omega)
      simp only [CoProtocolHttp.completed, expecting, entered, finish, hnil, hzero, hbase]
      rfl
  · have htake : ((pending.take raw.remain.toNat).length : Int) = raw.remain := by
      rw [List.length_take]
      omega
    have hnonempty : pending.take raw.remain.toNat ≠ [] := by
      intro hnil
      rw [hnil, List.length_nil] at htake
      omega
    have hbody := CoServer.reads_content hstatus hsized hplain hnonempty (Int.le_of_eq (htake.trans hcontentRemain.symm))
      (pending.drop raw.remain.toNat)
    rw [List.take_append_drop] at hbody
    refine ⟨(raw.expecting (side.base message)).takeContent (pending.take raw.remain.toNat), hbody, ?_, ?_⟩
    · simp only [CoProtocolHttp.takeContent, htake, hcontentRemain]
      rw [if_pos (by omega)]
      rfl
    · intro hall hwhole
      have hcount : raw.remain.toNat = raw.body.length := by omega
      rw [hcount, hwhole] at htake ⊢
      have hsmall := remain_eq_iff.mp hall
      have hlength : int32 (0 + raw.remain) = raw.body.length := by
        rw [Int.zero_add, hall, int32_of_bounds] <;> omega
      simp only [CoProtocolHttp.takeContent, CoProtocolHttp.appendContent, htake, hcontentRemain, Int.sub_self]
      rw [if_pos (Int.le_refl 0)]
      simp only [CoProtocolHttp.completed, expecting, entered, finish, CoProtocolHttp.addRows, hbase, hlength,
        List.nil_append]

/-- No chunk is read, not even at a blank line that has been left over. -/
theorem HeadRead.waits_chunks (hread : raw.HeadRead side chunks start (some message) chunked) (law : side.Lawful chunks)
    (hchunks : chunks = true) {rest : Bytes} (hrest : rest = [] ∨ rest = [cr] ∨ rest = crlf) :
    law.reader.Waits (some (side.withBase message (raw.expectingChunks (side.base message)))) rest := by
  have hwaits : (bodyReader chunks).Waits (some (raw.expectingChunks (side.base message))) rest := by
    rw [Reader.Waits, bodyReader_chunk rfl hread.unread.2.1 (by rw [hchunks]; rfl)]
    rcases hrest with rfl | rfl | rfl <;> rfl
  apply law.waits_body
  · rw [law.base_withBase]
    exact hwaits
  · rw [law.base_withBase]
    exact .inl rfl

theorem bytes_eq (raw : RawMessage) (tail : Bytes) : raw.bytes ++ tail = raw.head ++ (crlf ++ (raw.body ++ tail)) := by
  rw [bytes, List.append_assoc, List.append_assoc]

/-- The whole message, as far as `atoi` understands its length. -/
theorem HeadRead.reads (hread : raw.HeadRead side chunks start (some message) chunked) (law : side.Lawful chunks)
    (hcontent : ¬chunked) (hremain : 0 ≤ raw.remain) (tail : Bytes) :
    ∃ final, law.reader.Reads (some start) (raw.bytes ++ tail) (some final) (raw.body.drop raw.remain.toNat ++ tail) ∧
      (side.base final).parseStatus = .eCompleted ∧
      (raw.remain = raw.body.length → final = side.withBase message (raw.finish (side.base message))) := by
  have hblank := hread.reads_blank law (raw.body ++ tail)
  rw [hread.content rfl hcontent, if_neg (by omega), Option.map_some] at hblank
  have hle := remain_le hremain
  have hfits : raw.remain ≤ (raw.body ++ tail).length := by
    rw [List.length_append]
    omega
  obtain ⟨final, hbody, hstatus, hfinal⟩ := hread.reads_content hremain hfits
  rw [List.drop_append_of_le_length (by omega)] at hbody
  refine ⟨side.withBase message final, ?_, ?_, fun hall => by rw [hfinal hall List.take_left]⟩
  · rw [bytes_eq]
    exact hblank.trans (law.reads_body message hbody)
  · rw [law.base_withBase, hstatus]

/-- The message is complete when its last byte has been read. -/
theorem HeadRead.reads_complete (hread : raw.HeadRead side chunks start (some message) chunked) (law : side.Lawful chunks)
    (hcontent : ¬chunked) (hsmall : raw.body.length < 2 ^ 31) (tail : Bytes) :
    law.reader.Reads (some start) (raw.bytes ++ tail)
      (some (side.withBase message (raw.finish (side.base message)))) tail := by
  have hall := remain_eq_iff.mpr hsmall
  obtain ⟨final, hreads, _, hfinal⟩ := hread.reads law hcontent (by omega) tail
  rw [hfinal hall, hall, Int.toNat_natCast, List.drop_length, List.nil_append] at hreads
  exact hreads

/-- A message that is complete after its last byte is one of these. -/
theorem HeadRead.complete (hread : raw.HeadRead side chunks start line chunked) (law : side.Lawful chunks)
    {final : Message} (hreads : law.reader.Reads (some start) raw.bytes (some final) [])
    (hstatus : (side.base final).parseStatus = .eCompleted) : line ≠ none ∧ ¬chunked ∧ raw.body.length < 2 ^ 31 := by
  have hfinal := law.final_completed hstatus
  have hall := bytes_eq raw []
  rw [List.append_nil, List.append_nil] at hall
  cases line with
  | none =>
    have hrefused := hread.refused law (headerRows raw.headers ++ (crlf ++ raw.body))
    rw [hall, head, List.append_assoc] at hreads
    cases (hreads.unique (.one hrefused) (hfinal _) (law.final_failed _)).1
  | some message =>
    have hblank := hread.reads_blank law raw.body
    rw [← hall] at hblank
    by_cases hchunked : chunked
    · obtain ⟨hchunks, hnil, hended⟩ := hread.chunks rfl hchunked
      rw [hended, Option.map_some, hnil] at hblank
      have hwaits := hread.waits_chunks law hchunks (Or.inl rfl)
      cases (hreads.unique hblank (hfinal _) hwaits).1
      rw [law.base_withBase] at hstatus
      cases hstatus
    · rw [hread.content rfl hchunked] at hblank
      refine ⟨nofun, hchunked, remain_eq_iff.mp ?_⟩
      by_cases hnegative : raw.remain < 0
      · rw [if_pos hnegative] at hblank
        cases (hreads.unique hblank (hfinal _) (law.final_failed _)).1
      · obtain ⟨other, hother, hotherStatus, _⟩ := hread.reads law hchunked (by omega) []
        rw [List.append_nil, List.append_nil] at hother
        have hrest := (hreads.unique hother (hfinal _) (law.final_completed hotherStatus _)).2
        have hlength := congrArg List.length hrest
        rw [List.length_drop, List.length_nil] at hlength
        have hle := @remain_le raw (by omega)
        omega

/-! ## The two sides -/

/-- The request that the server makes of a message. -/
def request (raw : RawMessage) : CoHTTPRequest :=
  { raw.requestLine {} with toCoProtocolHttp := raw.finish (raw.requestLine {}).toCoProtocolHttp }

/-- The response that the client makes of a message. -/
def response (raw : RawMessage) : CoHTTPResponse :=
  { raw.responseLine {} with toCoProtocolHttp := raw.finish (raw.responseLine {}).toCoProtocolHttp }

/-- There is no Content-Length header, and Transfer-Encoding is "chunked". -/
def IsChunked (raw : RawMessage) : Prop :=
  (∀ header ∈ raw.headers, header.1 ≠ headerContentLength) ∧
    lastValue raw.headers headerTransferEncoding = some (ascii "chunked")

/-- The response behind its start line. -/
def responseStart (raw : RawMessage) : Option CoHTTPResponse :=
  if raw.IsResponse then some (raw.responseLine {}) else none

theorem entered_getHeadervalue (raw : RawMessage) (version name : Bytes) :
    (raw.entered { version := version }).getHeadervalue name = (lastValue raw.headers name).getD [] := by
  simp only [entered, CoProtocolHttp.addRows, CoProtocolHttp.getHeadervalue, lookup_insertRows]
  rw [Finmap.lookup_empty, Option.or_none]

/-- What the parser finds under Content-Length. -/
theorem Framed.contentLength (hframed : raw.Framed) (version : Bytes) :
    (raw.entered { version := version }).getHeadervalue headerContentLength = [] ∧ raw.remain = 0 ∧ raw.body = [] ∧
        (∀ header ∈ raw.headers, header.1 ≠ headerContentLength) ∨
      (raw.entered { version := version }).getHeadervalue headerContentLength ≠ [] ∧
        atoi (cstr ((raw.entered { version := version }).getHeadervalue headerContentLength)) = raw.remain ∧
        ¬∀ header ∈ raw.headers, header.1 ≠ headerContentLength := by
  rw [entered_getHeadervalue]
  by_cases hnone : ∀ header ∈ raw.headers, header.1 ≠ headerContentLength
  · have hbody := hframed.bodiless hnone
    have hlast : lastValue raw.headers headerContentLength = none := by
      rw [lastValue, List.filter_eq_nil_iff.mpr]
      · rfl
      · intro header hmem
        simp [hnone header hmem]
    refine .inl ⟨by rw [hlast]; rfl, ?_, hbody, hnone⟩
    rw [remain, hbody]
    exact int32_of_bounds (by decide) (by decide)
  · refine .inr ?_
    push Not at hnone
    obtain ⟨header, hmem, hname⟩ := hnone
    have hspelled := (hframed.length header hmem hname).atoi
    have hnonempty : header.2 ≠ [] := by
      intro hnil
      rw [hnil] at hspelled
      exact hspelled.1 rfl
    have hfilter : header ∈ raw.headers.filter fun header => header.1 = headerContentLength ∧ header.2 ≠ [] := by
      simp [hmem, hname, hnonempty]
    obtain ⟨last, hlast⟩ := Option.isSome_iff_exists.mp (List.getLast?_isSome.mpr (List.ne_nil_of_mem hfilter))
    have hlastMem := List.mem_filter.mp (List.mem_of_getLast? hlast)
    have hlastName : last.1 = headerContentLength := by simpa using (of_decide_eq_true hlastMem.2).1
    have hatoi := (hframed.length last hlastMem.1 hlastName).atoi
    rw [lastValue, hlast]
    exact ⟨hatoi.1, hatoi.2, fun hnone => hnone header hmem hname⟩

theorem Framed.serverRead (hframed : raw.Framed) :
    raw.HeadRead CoProtocolHttpServer.side false {} (some (raw.requestLine {})) False where
  fresh := rfl
  startLine rest := raw.parseStartlineRequest_startLine {} rest
  base := by
    intro message hmessage
    cases hmessage
    exact ⟨raw.third, rfl⟩
  content := by
    intro message hmessage _
    cases hmessage
    have hbase : CoProtocolHttpServer.side.base (raw.requestLine {}) = { version := raw.third } := rfl
    rw [hbase]
    simp only [CoProtocolHttpServer.side, CoProtocolHttpServer.endHeader]
    rcases hframed.contentLength raw.third with ⟨hnil, hremain, _⟩ | ⟨hvalue, hremain, _⟩
    · rw [hnil, List.isEmpty_nil, if_pos rfl, hremain, if_neg (by decide), expecting, hremain]
      rfl
    · rw [if_neg (by simpa using hvalue), hremain]
      rfl
  chunks _ hfalse := hfalse.elim

theorem Framed.clientRead (hframed : raw.Framed) :
    raw.HeadRead CoProtocolHttpClient.side true {} raw.responseStart raw.IsChunked where
  fresh := rfl
  startLine rest := by
    have hparse := raw.parseStartlineResponse_startLine {} rest
    simp only [CoProtocolHttpClient.side, hparse, responseStart]
    by_cases hresponse : raw.IsResponse
    · rw [if_pos hresponse, if_pos hresponse]
      rfl
    · rw [if_neg hresponse, if_neg hresponse]
      rfl
  base := by
    intro message hmessage
    rw [responseStart] at hmessage
    split at hmessage
    · cases hmessage
      exact ⟨raw.first, rfl⟩
    · cases hmessage
  content := by
    intro message hmessage hchunked
    rw [responseStart] at hmessage
    split at hmessage
    · cases hmessage
      have hbase : CoProtocolHttpClient.side.base (raw.responseLine {}) = { version := raw.first } := rfl
      rw [hbase]
      simp only [CoProtocolHttpClient.side, CoProtocolHttpClient.endHeader]
      rcases hframed.contentLength raw.first with ⟨hnil, hremain, _, hnone⟩ | ⟨hvalue, hremain, _⟩
      · have hplain : (raw.entered { version := raw.first }).getHeadervalue headerTransferEncoding ≠ ascii "chunked" := by
          rw [entered_getHeadervalue]
          intro heq
          cases hlast : lastValue raw.headers headerTransferEncoding with
          | none =>
            rw [hlast] at heq
            cases heq
          | some value =>
            rw [hlast, Option.getD_some] at heq
            exact hchunked ⟨hnone, by rw [hlast, heq]⟩
        rw [hnil, List.isEmpty_nil, if_pos rfl, if_neg hplain, hremain, if_neg (by decide), expecting, hremain]
        rfl
      · rw [if_neg (by simpa using hvalue), hremain]
        rfl
    · cases hmessage
  chunks := by
    intro message hmessage hchunked
    rw [responseStart] at hmessage
    split at hmessage
    · cases hmessage
      have hbase : CoProtocolHttpClient.side.base (raw.responseLine {}) = { version := raw.first } := rfl
      rw [hbase]
      simp only [CoProtocolHttpClient.side, CoProtocolHttpClient.endHeader]
      rcases hframed.contentLength raw.first with ⟨hnil, _, hbody, _⟩ | ⟨_, _, hnone⟩
      · refine ⟨trivial, hbody, ?_⟩
        rw [hnil, List.isEmpty_nil, if_pos rfl, entered_getHeadervalue, hchunked.2, Option.getD_some, if_pos rfl]
        rfl
      · exact absurd hchunked.1 hnone
    · cases hmessage

end RawMessage

end CoServer
