import CoServer.Protocol.HttpLength
import CoServer.Protocol.HttpRun
import CoServer.Protocol.HttpStartline
import Mathlib.Data.List.Chain
import Mathlib.Data.List.DropRight

/-! # The limit of a head

A call of `decode` compares what is in its buffer with HTTP_MAX_HEADER_LEN, but
complete lines leave the buffer in the call in which they arrive.  A head is held
to the limit only where one unfinished line and the read behind it are over it. -/

namespace CoServer

open Lib (ascii)
open HttpReceiver (bytes receive)

/-! ## The bytes of a head -/

/-- A newline is followed by a line that does not start with CR or LF. -/
def GoesOn (ch next : UInt8) : Prop := ch = lf → next ≠ cr ∧ next ≠ lf

instance (ch next : UInt8) : Decidable (GoesOn ch next) := inferInstanceAs (Decidable (_ → _))

/-- The length of the start line and the headers, which end in front of a line that
    starts with CR or LF. -/
def headSize : Bytes → Nat
  | ch :: next :: rest => if GoesOn ch next then headSize (next :: rest) + 1 else 1
  | stream => stream.length

/-- What stands behind the last newline. -/
def lastLine (received : Bytes) : Bytes := received.rtakeWhile (· != lf)

section
variable {front back : Bytes}

theorem headSize_eq_length (stream : Bytes) :
    headSize stream = stream.length ↔ stream.IsChain GoesOn := by
  induction stream with
  | nil => simp [headSize]
  | cons ch rest ih =>
    cases rest with
    | nil => simp [headSize]
    | cons next rest =>
      rw [headSize, List.isChain_cons_cons]
      split
      · rename_i on
        simp only [on, true_and, List.length_cons, Nat.add_right_cancel_iff] at ih ⊢
        exact ih
      · rename_i stops
        simp [stops]

theorem isChain_of_absent (absent : lf ∉ front) (last : UInt8) : (front ++ [last]).IsChain GoesOn := by
  rw [List.isChain_iff_forall_rel_of_append_cons_cons]
  intro ch next before after same newline
  subst newline
  -- a newline with a byte behind it would be in `front`
  have inFront : before ++ [lf] <+: front := by
    refine @List.prefix_of_prefix_length_le _ _ _ (front ++ [last]) ⟨next :: after, ?_⟩ ⟨[last], rfl⟩ ?_
    · rw [same, List.append_assoc]
      rfl
    · have lengths := congrArg List.length same
      simp only [List.length_append, List.length_cons, List.length_nil] at lengths ⊢
      omega
  exact absurd (inFront.subset (by simp)) absent

theorem lastLine_line (front back : Bytes) : lastLine (front ++ lf :: back) = lastLine back := by
  -- read from the back, the newline ends the last line
  have stops : (lf :: front.reverse).takeWhile (· != lf) = [] := by simp
  simp only [lastLine, List.rtakeWhile, List.reverse_append, List.reverse_cons, List.append_assoc,
    List.singleton_append, List.takeWhile_append, stops, List.append_nil]
  split
  · rename_i whole
    rw [(List.takeWhile_prefix _).eq_of_length whole]
  · rfl

theorem lastLine_absent (absent : lf ∉ front) : lastLine front = front := by
  rw [lastLine, List.rtakeWhile_eq_self_iff]
  intro ch mem
  exact bne_iff_ne.2 fun same => absent (same ▸ mem)

/-- What has a newline is cut at its last one. -/
theorem split_lastLine {received : Bytes} (mem : lf ∈ received) :
    ∃ front, received = front ++ lf :: lastLine received ∧ lf ∉ lastLine received := by
  obtain ⟨back, front, cut, absent⟩ := split_line (List.mem_reverse.2 mem)
  have same : received = front.reverse ++ lf :: back.reverse := by
    rw [← List.reverse_reverse received, cut]
    simp
  have last : lastLine received = back.reverse := by
    rw [same, lastLine_line, lastLine_absent (by simpa using absent)]
  rw [last]
  exact ⟨front.reverse, same, by simpa using absent⟩

theorem lastLine_append (received arrival : Bytes) :
    lastLine (received ++ arrival) = lastLine (lastLine received ++ arrival) := by
  by_cases mem : lf ∈ received
  · obtain ⟨front, same, -⟩ := split_lastLine mem
    calc lastLine (received ++ arrival)
        = lastLine (front ++ lf :: (lastLine received ++ arrival)) := by
          conv => lhs; rw [same, List.append_assoc, List.cons_append]
      _ = lastLine (lastLine received ++ arrival) := lastLine_line _ _
  · rw [lastLine_absent mem]

theorem lastLine_length_le (received : Bytes) : (lastLine received).length ≤ received.length :=
  (List.rtakeWhile_suffix _ _).length_le

/-- Only what stands behind the last newline decides how the head goes on. -/
theorem isChain_append {received : Bytes} (mem : lf ∈ received) (on : received.IsChain GoesOn)
    (arrival : Bytes) :
    (received ++ arrival).IsChain GoesOn ↔ (lf :: (lastLine received ++ arrival)).IsChain GoesOn := by
  obtain ⟨front, same, -⟩ := split_lastLine mem
  have before : (front ++ [lf]).IsChain GoesOn := (List.isChain_split.1 (same ▸ on)).1
  conv => lhs; rw [same, List.append_assoc, List.cons_append, List.isChain_split]
  exact and_iff_right before

/-- The first line does not decide it. -/
theorem isChain_line (absent : lf ∉ front) (back : Bytes) :
    (front ++ lf :: back).IsChain GoesOn ↔ (lf :: back).IsChain GoesOn := by
  rw [List.isChain_split]
  exact and_iff_right (isChain_of_absent absent lf)

theorem isChain_header {ch : UInt8} (absent : lf ∉ ch :: front) (back : Bytes) :
    (lf :: (ch :: front ++ lf :: back)).IsChain GoesOn ↔ ch ≠ cr ∧ (lf :: back).IsChain GoesOn := by
  rw [List.cons_append, List.isChain_cons_cons, ← List.cons_append, isChain_line absent]
  refine and_congr_left fun _ => ⟨fun on => (on rfl).1, fun other _ => ⟨other, ?_⟩⟩
  exact fun same => absent (same ▸ List.mem_cons_self)

end

namespace HttpSide

variable {Message : Type} {side : HttpSide Message} {chunks : Bool}

/-! ## One call -/

/-- The loop over the header lines leaves the last line, or it comes to the end of the head. -/
theorem Lawful.parseHeaders_scan (law : side.Lawful chunks) {turns parsedLen : Nat} {base : CoProtocolHttp}
    {pending : Bytes} (header : base.parseStatus = .eHeader) (enough : pending.length < turns) :
    ((lf :: pending).IsChain GoesOn ∧ ∃ after taken, after.parseStatus = .eHeader ∧
      parseHeaders side.endHeader turns base pending parsedLen = some (parsedLen + taken, after) ∧
      pending.drop taken = lastLine pending) ∨
    (¬ (lf :: pending).IsChain GoesOn ∧ ∀ taken after,
      parseHeaders side.endHeader turns base pending parsedLen = some (taken, after) →
        after.parseStatus = .eContent) := by
  induction turns generalizing base pending parsedLen with
  | zero => exact absurd enough (Nat.not_lt_zero _)
  | succ turns ih =>
    cases pending with
    | nil => exact .inl ⟨.singleton _, base, 0, header, rfl, rfl⟩
    | cons ch tail =>
      rw [parseHeaders, if_neg (not_not.2 header)]
      by_cases ends : ch = cr ∨ ch = lf
      · -- the end of the head
        refine .inr ⟨fun on => ?_, fun taken after => ?_⟩
        · have := (List.isChain_cons_cons.1 on).1 rfl
          exact ends.elim this.1 this.2
        · simp only [if_pos ends]
          cases ended : side.endHeader _ with
          | none =>
            intro none
            cases none
          | some framed =>
            have content : framed.parseStatus = .eContent := law.endHeader_status ended
            simp only
            split
            · intro same
              cases same
              exact content
            · -- the loop stops at the test of the stage in its next turn
              obtain ⟨more, rfl⟩ : ∃ more, turns = more + 1 := ⟨turns - 1, by simp at enough; omega⟩
              rw [parseHeaders_stop _ (by rw [content]; decide)]
              intro same
              cases same
              exact content
      · have notEnd := not_or.1 ends
        by_cases mem : lf ∈ ch :: tail
        · -- one whole line is parsed, and the rest is shorter
          obtain ⟨front, back, cut, absent⟩ := split_line mem
          cases front with
          | nil =>
            cases cut
            exact absurd rfl notEnd.2
          | cons head front =>
            obtain ⟨rfl, tailEq⟩ : ch = head ∧ tail = front ++ lf :: back := List.cons_eq_cons.1 cut
            subst tailEq
            have rest : (ch :: (front ++ lf :: back)).drop ((ch :: front).length + 1) = back := by
              simp
            have line : (parseHeader base (ch :: (front ++ lf :: back))).1 = (ch :: front).length + 1 :=
              parseHeader_length base absent
            simp only [if_neg ends, line, if_neg (Nat.succ_ne_zero _), rest]
            have short : back.length < turns := by
              simp only [List.length_cons, List.length_append] at enough
              omega
            rw [← List.cons_append, isChain_header absent, and_iff_right notEnd.1, lastLine_line]
            rcases ih (parseHeader_status _ _ ▸ header) short with
              ⟨on, after, taken, still, scanned, left⟩ | ended
            · refine .inl ⟨on, after, (ch :: front).length + 1 + taken, still, ?_, ?_⟩
              · rw [scanned, Nat.add_assoc]
              · rw [← List.drop_drop, List.cons_append, rest, left]
            · exact .inr ended
        · -- a line that has not arrived as a whole stays
          simp only [if_neg ends, parseHeader_wait base mem]
          refine .inl ⟨?_, base, 0, header, rfl, (lastLine_absent mem).symm⟩
          refine List.isChain_cons_cons.2 ⟨fun _ => notEnd, ?_⟩
          exact (isChain_of_absent mem lf).left_of_append

/-- A failure in the body is reported as CO_ERROR. -/
def ReportsBody (side : HttpSide Message) : Prop :=
  ∀ {base after : CoProtocolHttp} {buffer : Bytes} {len ret : Int},
    side.parseBody base buffer len = some (.error ret, after) → ret = -1

section
variable {message after : Message} {coBuffer left : CoBuffer} {rawBuffer : Bytes} {len ret : Int}
  {parsedLen : Nat}

/-- In its body a message stays there, and no call reports the head. -/
theorem decodeBody_inBody (counts : side.Counts) (reports : side.ReportsBody) {base : CoProtocolHttp}
    (inBody : base.InBody)
    (decoded : side.decodeBody message coBuffer rawBuffer len parsedLen base = some (ret, after, left)) :
    (side.base after).InBody ∧ ret ≠ eErrorCode := by
  have stays {result : Except Int Int} {next : CoProtocolHttp} (content : base.parseStatus = .eContent)
      (parsed : side.parseBody base (rawBuffer.drop parsedLen) (len - parsedLen) = some (result, next)) :
      (side.base (side.withBase message next)).InBody := by
    rw [counts.base_withBase]
    exact (counts.parseBody_status parsed).imp_left fun same => same.trans content
  simp only [decodeBody] at decoded
  split at decoded
  · rename_i content
    split at decoded
    · cases decoded
    · rename_i parsed
      cases decoded
      exact ⟨stays content parsed, by rw [reports parsed]; decide⟩
    · rename_i parsed
      cases decoded
      refine ⟨stays content parsed, ?_⟩
      split <;> decide
  · cases decoded
    rw [counts.base_withBase]
    exact ⟨inBody, by decide⟩

theorem decodeRest_inBody (counts : side.Counts) (reports : side.ReportsBody)
    (inBody : (side.base message).InBody)
    (decoded : side.decodeRest message coBuffer rawBuffer len parsedLen = some (ret, after, left)) :
    (side.base after).InBody ∧ ret ≠ eErrorCode := by
  rw [decodeRest, parseHeaders_stop _ (not_header_of_inBody inBody)] at decoded
  exact decodeBody_inBody counts reports inBody decoded

theorem decode_inBody (counts : side.Counts) (reports : side.ReportsBody)
    (inBody : (side.base message).InBody)
    (decoded : side.decode message coBuffer = some (ret, after, left)) :
    (side.base after).InBody ∧ ret ≠ eErrorCode := by
  cases inBody with
  | inl content =>
    simp only [decode, content] at decoded
    exact decodeRest_inBody counts reports (.inl content) decoded
  | inr completed =>
    simp only [decode, completed] at decoded
    cases decoded
    exact ⟨.inr completed, by decide⟩

/-- A head that goes on is read up to its last line. -/
theorem Lawful.decodeRest_open (law : side.Lawful chunks) (valid : coBuffer.Valid)
    (header : (side.base message).parseStatus = .eHeader)
    (on : (lf :: coBuffer.region.drop parsedLen).IsChain GoesOn) :
    ∃ after left, side.decodeRest message coBuffer coBuffer.region len parsedLen =
        some (coAgain, after, left) ∧ (side.base after).parseStatus = .eHeader ∧ left.Valid ∧
      left.region = lastLine (coBuffer.region.drop parsedLen) ∧
      left.totalSize = coBuffer.totalSize := by
  have enough : (coBuffer.region.drop parsedLen).length < coBuffer.region.length + 1 := by
    rw [List.length_drop]
    omega
  rcases law.parseHeaders_scan header enough with
    ⟨-, base, taken, still, scanned, rest⟩ | ⟨ended, -⟩
  · rw [List.drop_drop] at rest
    refine ⟨side.withBase message base, (coBuffer.bufferErase (parsedLen + taken)).2, ?_, ?_,
      bufferErase_read valid rest⟩
    · rw [decodeRest, scanned]
      simp only [decodeBody, still]
      rfl
    · rw [law.base_withBase]
      exact still
  · exact absurd on ended

/-- A head that ends is left behind. -/
theorem Lawful.decodeRest_ended (law : side.Lawful chunks) (counts : side.Counts)
    (reports : side.ReportsBody) (header : (side.base message).parseStatus = .eHeader)
    (ended : ¬ (lf :: rawBuffer.drop parsedLen).IsChain GoesOn)
    (decoded : side.decodeRest message coBuffer rawBuffer len parsedLen = some (ret, after, left)) :
    (side.base after).InBody ∧ ret ≠ eErrorCode := by
  have enough : (rawBuffer.drop parsedLen).length < rawBuffer.length + 1 := by
    rw [List.length_drop]
    omega
  rcases law.parseHeaders_scan header enough with ⟨on, -⟩ | ⟨-, content⟩
  · exact absurd on ended
  · simp only [decodeRest] at decoded
    split at decoded
    · cases decoded
    · rename_i taken base scanned
      exact decodeBody_inBody counts reports (.inl (content taken base scanned)) decoded

end

/-! ### The stages of a call -/

section
variable {message : Message} {coBuffer : CoBuffer}

theorem decode_size (valid : coBuffer.Valid) (small : coBuffer.region.length < 2 ^ 31) :
    int32 coBuffer.bufferSize = coBuffer.region.length ∧
      coBuffer.region.take (int32 coBuffer.bufferSize).toNat = coBuffer.region := by
  have size := valid.region_length
  have len : int32 coBuffer.bufferSize = coBuffer.region.length := by
    rw [← size, int32_of_bounds (by omega) (by omega)]
  exact ⟨len, by rw [len, Int.toNat_natCast, List.take_length]⟩

theorem decode_tooLong (valid : coBuffer.Valid) (small : coBuffer.region.length < 2 ^ 31)
    (overLimit : httpMaxHeaderLen < coBuffer.region.length)
    (stage : (side.base message).parseStatus = .eStartLine ∨ (side.base message).parseStatus = .eHeader) :
    side.decode message coBuffer = some (eErrorCode, message, coBuffer.reset) := by
  have long : int32 coBuffer.bufferSize > httpMaxHeaderLen := by
    rw [(decode_size valid small).1]
    exact overLimit
  cases stage with
  | inl startLine =>
    simp only [decode, startLine]
    rw [if_pos long]
  | inr header =>
    simp only [decode, header]
    rw [if_pos long]

theorem decode_header (valid : coBuffer.Valid) (within : coBuffer.region.length ≤ httpMaxHeaderLen)
    (header : (side.base message).parseStatus = .eHeader) :
    side.decode message coBuffer =
      side.decodeRest message coBuffer coBuffer.region coBuffer.region.length 0 := by
  have small : coBuffer.region.length < 2 ^ 31 := by
    simp only [httpMaxHeaderLen] at within
    omega
  obtain ⟨len, raw⟩ := decode_size valid small
  simp only [decode, header, raw]
  rw [len, if_neg (Int.not_lt.2 within)]

theorem decode_startLine (valid : coBuffer.Valid) (within : coBuffer.region.length ≤ httpMaxHeaderLen)
    (startLine : (side.base message).parseStatus = .eStartLine) :
    side.decode message coBuffer =
      match side.parseStartline message coBuffer.region with
      | none => none
      | some (parsedLen, message) =>
        if parsedLen = -1 then some (eErrorCode, message, coBuffer.reset)
        else if parsedLen ≤ 0 then some (coAgain, message, coBuffer)
        else side.decodeRest (side.withBase message { side.base message with parseStatus := .eHeader })
          coBuffer coBuffer.region coBuffer.region.length parsedLen.toNat := by
  have small : coBuffer.region.length < 2 ^ 31 := by
    simp only [httpMaxHeaderLen] at within
    omega
  obtain ⟨len, raw⟩ := decode_size valid small
  simp only [decode, startLine, raw]
  rw [len]
  exact (if_neg (Int.not_lt.2 within)).trans (if_neg (by omega))

end

/-! ## Reads -/

/-- The first line, once it has arrived, is taken for a start line. -/
def Accepted (side : HttpSide Message) (start : Message) (received : Bytes) : Prop :=
  lf ∈ received → ∃ lineLen after, side.parseStartline start (firstLine received) = some (lineLen, after) ∧
    0 < lineLen

/-- The first line has arrived and is refused. -/
def Rejected (side : HttpSide Message) (start : Message) (received : Bytes) : Prop :=
  lf ∈ received ∧ ∃ after, side.parseStartline start (firstLine received) = some (-1, after)

/-- More of the head is to come. -/
def HeadOpen (side : HttpSide Message) (start : Message) (received : Bytes) : Prop :=
  headSize received = received.length ∧ side.Accepted start received

/-- While the head is open, a line that has not ended and the read behind it are over
    the limit. -/
def Overflows (side : HttpSide Message) (start : Message) (reads : List (Bytes × Block)) : Prop :=
  ∃ front arrival, front ++ [arrival] <+: reads ∧ side.HeadOpen start (bytes front) ∧
    httpMaxHeaderLen < (lastLine (bytes front)).length + arrival.1.length

/-- A call of `decode` on the way to the end of a message. -/
structure Call (side : HttpSide Message) (start : Message) (reads front : List (Bytes × Block))
    (arrival : Bytes × Block) (state next : HttpReceiver Message) : Prop where
  split : front ++ [arrival] <+: reads
  ran : front.foldlM (receive side) { message := start } = some state
  again : ∀ code ∈ state.codes, code = coAgain
  received : state.receive side arrival = some next

/-- The content stage is reached behind a head within the limit only, and a longer head
    makes a call return `eError`. -/
structure LimitEnforced (side : HttpSide Message) (start : Message) (reads : List (Bytes × Block)) :
    Prop where
  reached {front arrival state next} : side.Call start reads front arrival state next →
    (side.base next.message).InBody → headSize (bytes reads) ≤ httpMaxHeaderLen
  rejected : httpMaxHeaderLen < headSize (bytes reads) → ∃ front arrival state next,
    side.Call start reads front arrival state next ∧ next.codes = state.codes ++ [eErrorCode]

/-- A receiver in front of the end of the head keeps the last line. -/
structure InHead (side : HttpSide Message) (start : Message) (received : Bytes)
    (state : HttpReceiver Message) : Prop where
  opened : side.HeadOpen start received
  valid : state.coBuffer.Valid
  totalLt : state.coBuffer.totalSize < 2 ^ 63
  pending : state.coBuffer.region = lastLine received
  short : (lastLine received).length ≤ 8192
  header : lf ∈ received → (side.base state.message).parseStatus = .eHeader
  fresh : lf ∉ received → state.message = start

/-- What a read does to a receiver in front of the end of the head. -/
inductive HeadStep (side : HttpSide Message) (start : Message) (received arrival : Bytes)
    (state : HttpReceiver Message) : Option (HttpReceiver Message) → Prop
  | tooLong {next} (overLimit : httpMaxHeaderLen < (lastLine received).length + arrival.length)
      (codes : next.codes = state.codes ++ [eErrorCode]) (outside : ¬ (side.base next.message).InBody) :
      HeadStep side start received arrival state (some next)
  | refused {next} (rejected : side.Rejected start (received ++ arrival))
      (codes : next.codes = state.codes ++ [eErrorCode]) (outside : ¬ (side.base next.message).InBody) :
      HeadStep side start received arrival state (some next)
  | more {next} (within : (lastLine received).length + arrival.length ≤ httpMaxHeaderLen)
      (inHead : side.InHead start (received ++ arrival) next)
      (codes : next.codes = state.codes ++ [coAgain]) :
      HeadStep side start received arrival state (some next)
  | ended {result} (within : (lastLine received).length + arrival.length ≤ httpMaxHeaderLen)
      (closed : ¬ side.HeadOpen start (received ++ arrival))
      (accepted : ¬ side.Rejected start (received ++ arrival))
      (inBody : ∀ next, result = some next → (side.base next.message).InBody ∧
        ∃ code, code ≠ eErrorCode ∧ next.codes = state.codes ++ [code]) :
      HeadStep side start received arrival state result

theorem firstLine_append {received : Bytes} (mem : lf ∈ received) (arrival : Bytes) :
    firstLine (received ++ arrival) = firstLine received := by
  obtain ⟨front, back, rfl, absent⟩ := split_line mem
  rw [List.append_assoc, List.cons_append]
  simp only [firstLine, takeWhile_found absent]

theorem firstLine_line {front : Bytes} (absent : lf ∉ front) (back : Bytes) :
    firstLine (front ++ lf :: back) = front ++ [lf] := by
  rw [firstLine, takeWhile_found absent]

section
variable {start : Message} {received : Bytes} {state next : HttpReceiver Message} {arrival : Bytes × Block}

theorem not_inBody {message : Message} (stage : (side.base message).parseStatus = .eStartLine ∨
    (side.base message).parseStatus = .eHeader) : ¬ (side.base message).InBody := by
  intro inBody
  cases stage with
  | inl startLine =>
    cases inBody with
    | inl content => cases startLine.symm.trans content
    | inr completed => cases startLine.symm.trans completed
  | inr header => exact not_header_of_inBody inBody header

theorem InHead.stage (inHead : side.InHead start received state)
    (startLine : (side.base start).parseStatus = .eStartLine) :
    (side.base state.message).parseStatus = .eStartLine ∨ (side.base state.message).parseStatus = .eHeader := by
  by_cases mem : lf ∈ received
  · exact .inr (inHead.header mem)
  · exact .inl (by rw [inHead.fresh mem]; exact startLine)

theorem Accepted.append (accepted : side.Accepted start received) (mem : lf ∈ received) (arrival : Bytes) :
    side.Accepted start (received ++ arrival) := by
  intro _
  rw [firstLine_append mem]
  exact accepted mem

theorem Accepted.not_rejected (accepted : side.Accepted start received) :
    ¬ side.Rejected start received := by
  intro ⟨mem, after, refused⟩
  obtain ⟨lineLen, other, parsed, positive⟩ := accepted mem
  cases refused.symm.trans parsed
  exact absurd positive (by decide)

/-- The receiver after a call of `decode`. -/
def decoded (state : HttpReceiver Message) (result : Int × Message × CoBuffer) : HttpReceiver Message :=
  { message := result.2.1, coBuffer := result.2.2, codes := state.codes ++ [result.1] }

section
variable {appended : CoBuffer}

/-- A read behind the start line. -/
theorem InHead.step_header (law : side.Lawful chunks) (counts : side.Counts) (reports : side.ReportsBody)
    (inHead : side.InHead start received state) (mem : lf ∈ received) (valid : appended.Valid)
    (region : appended.region = lastLine received ++ arrival.1) (totalLt : appended.totalSize < 2 ^ 63)
    (within : appended.region.length ≤ httpMaxHeaderLen) :
    side.HeadStep start received arrival.1 state
      ((side.decode state.message appended).map (decoded state)) := by
  have memAll : lf ∈ received ++ arrival.1 := List.mem_append_left _ mem
  have accepted := inHead.opened.2.append mem arrival.1
  have goesOn := (headSize_eq_length received).1 inHead.opened.1
  have fits : (lastLine received).length + arrival.1.length ≤ httpMaxHeaderLen := by
    rw [region, List.length_append] at within
    exact_mod_cast within
  rw [decode_header valid within (inHead.header mem)]
  -- the buffer holds the last line, and what arrived behind it decides whether the head goes on
  by_cases on : (lf :: appended.region).IsChain GoesOn
  · obtain ⟨after, left, ran, header, leftValid, leftRegion, leftTotal⟩ :=
      @Lawful.decodeRest_open _ _ _ _ _ appended.region.length 0 law valid (inHead.header mem) on
    have pending : left.region = lastLine (received ++ arrival.1) := by
      rw [leftRegion, List.drop_zero, region, ← lastLine_append]
    rw [ran]
    refine .more fits ⟨⟨?_, accepted⟩, leftValid, leftTotal ▸ totalLt, pending, ?_, fun _ => header,
      absurd memAll⟩ rfl
    · rw [headSize_eq_length, isChain_append mem goesOn, ← region]
      exact on
    · rw [lastLine_append, ← region]
      have := lastLine_length_le appended.region
      simp only [httpMaxHeaderLen] at within
      omega
  · refine .ended fits ?_ accepted.not_rejected ?_
    · rintro ⟨open_, -⟩
      rw [headSize_eq_length, isChain_append mem goesOn, ← region] at open_
      exact on open_
    · intro next same
      obtain ⟨⟨ret, after, left⟩, ran, rfl⟩ := Option.map_eq_some_iff.1 same
      obtain ⟨inBody, other⟩ := law.decodeRest_ended counts reports (inHead.header mem)
        (by rwa [List.drop_zero]) ran
      exact ⟨inBody, ret, other, rfl⟩

/-- A read in front of the end of the start line. -/
theorem InHead.step_startLine (law : side.Lawful chunks) (counts : side.Counts) (reports : side.ReportsBody)
    (inHead : side.InHead start received state)
    (startLine : (side.base start).parseStatus = .eStartLine) (absent : lf ∉ received)
    (valid : appended.Valid) (region : appended.region = received ++ arrival.1)
    (totalLt : appended.totalSize < 2 ^ 63) (within : appended.region.length ≤ httpMaxHeaderLen) :
    side.HeadStep start received arrival.1 state
      ((side.decode state.message appended).map (decoded state)) := by
  have fits : (lastLine received).length + arrival.1.length ≤ httpMaxHeaderLen := by
    rw [lastLine_absent absent]
    rw [region, List.length_append] at within
    exact_mod_cast within
  rw [inHead.fresh absent, decode_startLine valid within startLine]
  by_cases mem : lf ∈ appended.region
  · -- the first line has arrived
    obtain ⟨front, back, line, frontFree⟩ := split_line mem
    have parsed : side.parseStartline start appended.region =
        side.parseStartline start (firstLine (received ++ arrival.1)) := by
      rw [← region, line, law.startline_line start frontFree, firstLine_line frontFree]
    have memAll : lf ∈ received ++ arrival.1 := region ▸ mem
    rw [parsed]
    cases parse : side.parseStartline start (firstLine (received ++ arrival.1)) with
    | none =>
      refine .ended fits ?_ ?_ nofun
      · rintro ⟨-, accepted⟩
        obtain ⟨_, _, parsed, _⟩ := accepted memAll
        cases parse.symm.trans parsed
      · rintro ⟨-, after, refused⟩
        cases parse.symm.trans refused
    | some result =>
      obtain ⟨lineLen, after⟩ := result
      simp only
      have length : lineLen = -1 ∨ lineLen = front.length + 1 := by
        rw [← region, line, firstLine_line frontFree] at parse
        exact law.startline_length frontFree parse
      cases length with
      | inl refused =>
        subst refused
        have status := (counts.parseStartline_keeps parse).2.trans startLine
        exact .refused ⟨memAll, after, parse⟩ rfl (not_inBody (.inl status))
      | inr length =>
        have accepted : side.Accepted start (received ++ arrival.1) := fun _ =>
          ⟨lineLen, after, parse, by omega⟩
        have rest : appended.region.drop lineLen.toNat = back := by
          rw [line, length]
          simp
        have header : (side.base (side.withBase after
            { side.base after with parseStatus := .eHeader })).parseStatus = .eHeader := by
          rw [law.base_withBase]
        rw [if_neg (by omega), if_neg (by omega)]
        by_cases on : (lf :: back).IsChain GoesOn
        · obtain ⟨next, left, ran, still, leftValid, leftRegion, leftTotal⟩ :=
            @Lawful.decodeRest_open _ _ _ _ _ appended.region.length lineLen.toNat law valid header
              (by rwa [rest])
          have pending : left.region = lastLine (received ++ arrival.1) := by
            rw [leftRegion, rest, ← region, line, lastLine_line]
          rw [ran]
          refine .more fits ⟨⟨?_, accepted⟩, leftValid, leftTotal ▸ totalLt, pending, ?_, fun _ => still,
            absurd memAll⟩ rfl
          · rw [headSize_eq_length, ← region, line, isChain_line frontFree]
            exact on
          · rw [← region]
            have := lastLine_length_le appended.region
            simp only [httpMaxHeaderLen] at within
            omega
        · refine .ended fits ?_ accepted.not_rejected ?_
          · rintro ⟨open_, -⟩
            rw [headSize_eq_length, ← region, line, isChain_line frontFree] at open_
            exact on open_
          · intro next same
            obtain ⟨⟨ret, final, left⟩, ran, rfl⟩ := Option.map_eq_some_iff.1 same
            obtain ⟨inBody, other⟩ := law.decodeRest_ended counts reports header (by rwa [rest]) ran
            exact ⟨inBody, ret, other, rfl⟩
  · -- it has not, and nothing is taken from the buffer
    rw [law.startline_wait start mem]
    have absentAll : lf ∉ received ++ arrival.1 := region ▸ mem
    have whole : lastLine (received ++ arrival.1) = received ++ arrival.1 := lastLine_absent absentAll
    refine .more fits ⟨⟨?_, fun some_ => absurd some_ absentAll⟩, valid, totalLt, ?_, ?_,
      fun some_ => absurd some_ absentAll, fun _ => rfl⟩ rfl
    · rw [headSize_eq_length]
      exact (isChain_of_absent absentAll lf).left_of_append
    · rw [whole]
      exact region
    · rw [whole, ← region]
      simp only [httpMaxHeaderLen] at within
      omega

end

/-- One read in front of the end of the head. -/
theorem InHead.receive (law : side.Lawful chunks) (counts : side.Counts) (reports : side.ReportsBody)
    (inHead : side.InHead start received state)
    (startLine : (side.base start).parseStatus = .eStartLine) (small : arrival.1.length ≤ 4096) :
    side.HeadStep start received arrival.1 state (state.receive side arrival) := by
  have short := inHead.short
  have regionLength : state.coBuffer.region.length ≤ 8192 := by rw [inHead.pending]; exact short
  have room : state.coBuffer.bufferSize + arrival.1.length < 2 ^ 62 := by
    rw [← inHead.valid.region_length]
    omega
  obtain ⟨appended, append, valid, region, totalLt⟩ :=
    inHead.valid.bufferAppend_some arrival.2 inHead.totalLt room
  rw [inHead.pending] at region
  have size : appended.region.length = (lastLine received).length + arrival.1.length := by
    rw [region, List.length_append]
  have step : state.receive side arrival = (side.decode state.message appended).map (decoded state) := by
    simp only [HttpReceiver.receive, append]
    rw [if_neg (not_not.2 rfl)]
    rfl
  rw [step]
  by_cases overLimit : httpMaxHeaderLen < (lastLine received).length + arrival.1.length
  · rw [decode_tooLong valid (by omega) (by rw [size]; exact_mod_cast overLimit) (inHead.stage startLine)]
    exact .tooLong overLimit rfl (not_inBody (inHead.stage startLine))
  · have within : appended.region.length ≤ httpMaxHeaderLen := by
      rw [size]
      exact_mod_cast Int.not_lt.1 overLimit
    by_cases mem : lf ∈ received
    · exact inHead.step_header law counts reports mem valid region totalLt within
    · rw [lastLine_absent mem] at region
      exact inHead.step_startLine law counts reports startLine mem valid region totalLt within

/-! ## Runs -/

theorem HeadOpen.of_append {front back : Bytes} (opened : side.HeadOpen start (front ++ back)) :
    side.HeadOpen start front := by
  obtain ⟨goesOn, accepted⟩ := opened
  rw [headSize_eq_length] at goesOn
  refine ⟨(headSize_eq_length front).2 goesOn.left_of_append, fun mem => ?_⟩
  rw [← firstLine_append mem back]
  exact accepted (List.mem_append_left _ mem)

theorem headOpen_absent (absent : lf ∉ received) : side.HeadOpen start received :=
  ⟨(headSize_eq_length received).2 (isChain_of_absent absent lf).left_of_append,
    fun mem => absurd mem absent⟩

theorem inHead_start (start : Message) : side.InHead start [] { message := start } where
  opened := headOpen_absent List.not_mem_nil
  valid := CoBuffer.valid_fresh
  totalLt := show 0 < 2 ^ 63 by decide
  pending := rfl
  short := by decide
  header mem := absurd mem List.not_mem_nil
  fresh _ := rfl

theorem Rejected.append (rejected : side.Rejected start received) (arrival : Bytes) :
    side.Rejected start (received ++ arrival) := by
  obtain ⟨mem, after, refused⟩ := rejected
  exact ⟨List.mem_append_left _ mem, after, by rw [firstLine_append mem]; exact refused⟩

theorem receive_inBody (counts : side.Counts) (reports : side.ReportsBody)
    (inBody : (side.base state.message).InBody) (received : state.receive side arrival = some next) :
    (side.base next.message).InBody ∧ ∃ code, code ≠ eErrorCode ∧ next.codes = state.codes ++ [code] := by
  simp only [HttpReceiver.receive] at received
  split at received
  · cases received
  · split at received
    · cases received
    · obtain ⟨⟨ret, message, left⟩, ran, rfl⟩ := Option.map_eq_some_iff.1 received
      obtain ⟨stays, other⟩ := decode_inBody counts reports inBody ran
      exact ⟨stays, ret, other, rfl⟩

section
variable {reads front : List (Bytes × Block)}

/-- While every call asks for more, the receiver is in front of the end of the head or in
    the body. -/
theorem inHead_or_inBody (law : side.Lawful chunks) (counts : side.Counts) (reports : side.ReportsBody)
    (startLine : (side.base start).parseStatus = .eStartLine)
    (small : ∀ arrival ∈ front, arrival.1.length ≤ 4096)
    (ran : front.foldlM (receive side) { message := start } = some state)
    (again : ∀ code ∈ state.codes, code = coAgain) :
    side.InHead start (bytes front) state ∨ (side.base state.message).InBody := by
  induction front using List.reverseRecOn generalizing state with
  | nil =>
    cases ran
    exact .inl (inHead_start start)
  | append_singleton front arrival ih =>
    obtain ⟨before, ranFront, received⟩ := Lib.run_concat.1 ran
    have notError (codes : state.codes = before.codes ++ [eErrorCode]) : False :=
      absurd (again eErrorCode (by rw [codes]; simp)) (by decide)
    obtain ⟨code, codes⟩ := HttpReceiver.receive_codes received
    have againBefore : ∀ code ∈ before.codes, code = coAgain := fun code mem =>
      again code (by rw [codes]; exact List.mem_append_left _ mem)
    rcases ih (fun other mem => small other (List.mem_append_left _ mem)) ranFront againBefore with
      inHead | inBody
    · have step := inHead.receive law counts reports startLine (small arrival (by simp))
      rw [received] at step
      have all : bytes (front ++ [arrival]) = bytes front ++ arrival.1 := by simp
      rw [all]
      cases step with
      | tooLong _ codes _ => exact (notError codes).elim
      | refused _ codes _ => exact (notError codes).elim
      | more _ inHead _ => exact .inl inHead
      | ended _ _ _ inBody => exact .inr (inBody state rfl).1
    · exact .inr (receive_inBody counts reports inBody received).1

/-- A call that reports the head, and is not behind it. -/
def Reported (side : HttpSide Message) (start : Message) (reads : List (Bytes × Block)) : Prop :=
  ∃ front arrival state next, side.Call start reads front arrival state next ∧
    next.codes = state.codes ++ [eErrorCode] ∧ ¬ (side.base next.message).InBody

/-- As long as the head is open, it has been reported or is still being read. -/
theorem reported_or_inHead (law : side.Lawful chunks) (counts : side.Counts) (reports : side.ReportsBody)
    (startLine : (side.base start).parseStatus = .eStartLine)
    (small : ∀ arrival ∈ reads, arrival.1.length ≤ 4096) (within : front <+: reads)
    (opened : side.HeadOpen start (bytes front)) :
    side.Reported start reads ∨ ∃ state, front.foldlM (receive side) { message := start } = some state ∧
      (∀ code ∈ state.codes, code = coAgain) ∧ side.InHead start (bytes front) state := by
  induction front using List.reverseRecOn with
  | nil => exact .inr ⟨_, rfl, nofun, inHead_start start⟩
  | append_singleton front arrival ih =>
    have all : bytes (front ++ [arrival]) = bytes front ++ arrival.1 := by simp
    rw [all] at opened ⊢
    rcases ih ((List.prefix_append _ _).trans within) opened.of_append with
      reported | ⟨state, ran, again, inHead⟩
    · exact .inl reported
    · have step := inHead.receive law counts reports startLine
        (small arrival (within.subset (by simp)))
      generalize received : state.receive side arrival = result at step
      cases step with
      | tooLong _ codes outside =>
        exact .inl ⟨front, arrival, state, _, ⟨within, ran, again, received⟩, codes, outside⟩
      | refused rejected _ _ => exact absurd rejected opened.2.not_rejected
      | more _ inHead codes =>
        refine .inr ⟨_, ?_, ?_, inHead⟩
        · exact Lib.run_concat.2 ⟨state, ran, received⟩
        · intro code mem
          rw [codes] at mem
          exact (List.mem_append.1 mem).elim (again code) List.mem_singleton.1
      | ended _ closed _ _ => exact absurd opened closed

theorem Call.ran_all {state next : HttpReceiver Message}
    (call : side.Call start reads front arrival state next) :
    (front ++ [arrival]).foldlM (receive side) { message := start } = some next :=
  Lib.run_concat.2 ⟨state, call.ran, call.received⟩

/-- The calls of a run come one after the other. -/
theorem Call.before {front later : List (Bytes × Block)} {arrival other : Bytes × Block}
    {state next laterState laterNext : HttpReceiver Message}
    (call : side.Call start reads front arrival state next)
    (laterCall : side.Call start reads later other laterState laterNext)
    (first : front ++ [arrival] <+: later ++ [other]) :
    laterState = state ∧ laterNext = next ∨
      ∃ between : List (Bytes × Block), between.foldlM (receive side) next = some laterState := by
  cases List.prefix_concat_iff.1 first with
  | inl same =>
    obtain ⟨rfl, rfl⟩ : front = later ∧ arrival = other := by simpa using same
    have states := Option.some.inj (laterCall.ran.symm.trans call.ran)
    subst states
    exact .inl ⟨rfl, Option.some.inj (laterCall.received.symm.trans call.received)⟩
  | inr earlier =>
    obtain ⟨between, rfl⟩ := earlier
    have ran := laterCall.ran
    rw [List.foldlM_append, call.ran_all] at ran
    exact .inr ⟨between, ran⟩

/-- Where the head is reported, no call gets behind it. -/
theorem Reported.not_reached (counts : side.Counts) (reports : side.ReportsBody)
    (reported : side.Reported start reads) {state next : HttpReceiver Message}
    (call : side.Call start reads front arrival state next) : ¬ (side.base next.message).InBody := by
  intro inBody
  obtain ⟨otherFront, otherArrival, otherState, otherNext, other, codes, outside⟩ := reported
  rcases List.prefix_or_prefix_of_prefix call.split other.split with first | first
  · -- behind a call that got into the body, none reports
    rcases call.before other first with ⟨-, rfl⟩ | ⟨between, ran⟩
    · exact outside inBody
    · have stays : (side.base otherState.message).InBody :=
        Lib.run_keeps (receive side) (fun state => (side.base state.message).InBody)
          (fun _ _ _ inBody received => (receive_inBody counts reports inBody received).1) inBody ran
      exact outside (receive_inBody counts reports stays other.received).1
  · -- behind the report, not every call asked for more
    rcases other.before call first with ⟨-, rfl⟩ | ⟨between, ran⟩
    · exact outside inBody
    · obtain ⟨more, all, -⟩ := HttpReceiver.run_codes ran
      have error := call.again eErrorCode (by rw [all, codes]; simp)
      exact absurd error (by decide)

/-- The read in which the first newline arrives. -/
theorem split_newline (mem : lf ∈ bytes reads) :
    ∃ front arrival, front ++ [arrival] <+: reads ∧ lf ∉ bytes front ∧ lf ∈ bytes front ++ arrival.1 := by
  induction reads using List.reverseRecOn with
  | nil => cases mem
  | append_singleton reads arrival ih =>
    by_cases earlier : lf ∈ bytes reads
    · obtain ⟨front, first, cut, absent, found⟩ := ih earlier
      exact ⟨front, first, cut.trans (List.prefix_append _ _), absent, found⟩
    · exact ⟨reads, arrival, List.prefix_rfl, earlier, by simpa using mem⟩

theorem Rejected.of_append {received arrival : Bytes} (rejected : side.Rejected start (received ++ arrival))
    (mem : lf ∈ received) : side.Rejected start received := by
  obtain ⟨-, after, refused⟩ := rejected
  exact ⟨mem, after, by rw [← firstLine_append mem arrival]; exact refused⟩

theorem bytes_prefix (within : front <+: reads) : ∃ rest, bytes reads = bytes front ++ rest := by
  obtain ⟨back, rfl⟩ := within
  exact ⟨bytes back, HttpReceiver.bytes_append _ _⟩

/-- A read that spoils an open head is reported. -/
theorem reported_of_spoilt (law : side.Lawful chunks) (counts : side.Counts) (reports : side.ReportsBody)
    (startLine : (side.base start).parseStatus = .eStartLine)
    (small : ∀ arrival ∈ reads, arrival.1.length ≤ 4096) {arrival : Bytes × Block}
    (cut : front ++ [arrival] <+: reads) (opened : side.HeadOpen start (bytes front))
    (spoilt : side.Rejected start (bytes front ++ arrival.1) ∨
      httpMaxHeaderLen < (lastLine (bytes front)).length + arrival.1.length) :
    side.Reported start reads := by
  rcases reported_or_inHead law counts reports startLine small ((List.prefix_append _ _).trans cut)
      opened with reported | ⟨state, ran, again, inHead⟩
  · exact reported
  · have step := inHead.receive law counts reports startLine (small arrival (cut.subset (by simp)))
    generalize received : state.receive side arrival = result at step
    cases step with
    | tooLong _ codes outside =>
      exact ⟨front, arrival, state, _, ⟨cut, ran, again, received⟩, codes, outside⟩
    | refused _ codes outside =>
      exact ⟨front, arrival, state, _, ⟨cut, ran, again, received⟩, codes, outside⟩
    -- the other two ends of a call contradict either way of spoiling the head
    | more within inHead _ =>
      cases spoilt with
      | inl rejected => exact absurd rejected inHead.opened.2.not_rejected
      | inr overLimit => exact absurd overLimit (Int.not_lt.2 within)
    | ended within _ accepted _ =>
      cases spoilt with
      | inl rejected => exact absurd rejected accepted
      | inr overLimit => exact absurd overLimit (Int.not_lt.2 within)

theorem reported_of_rejected (law : side.Lawful chunks) (counts : side.Counts) (reports : side.ReportsBody)
    (startLine : (side.base start).parseStatus = .eStartLine)
    (small : ∀ arrival ∈ reads, arrival.1.length ≤ 4096) (rejected : side.Rejected start (bytes reads)) :
    side.Reported start reads := by
  -- the start line is refused in the read that brings its newline
  obtain ⟨front, arrival, cut, absent, mem⟩ := split_newline rejected.1
  have refusedHere : side.Rejected start (bytes front ++ arrival.1) := by
    obtain ⟨rest, all⟩ := bytes_prefix cut
    have here : bytes (front ++ [arrival]) = bytes front ++ arrival.1 := by simp
    rw [all, here] at rejected
    exact rejected.of_append mem
  exact reported_of_spoilt law counts reports startLine small cut (headOpen_absent absent)
    (.inl refusedHere)

/-- A call reports the head exactly where a start line is refused or a line overflows. -/
theorem Call.error_cases (law : side.Lawful chunks) (counts : side.Counts) (reports : side.ReportsBody)
    (startLine : (side.base start).parseStatus = .eStartLine)
    (small : ∀ arrival ∈ reads, arrival.1.length ≤ 4096) {state next : HttpReceiver Message}
    (call : side.Call start reads front arrival state next)
    (error : next.codes = state.codes ++ [eErrorCode]) :
    side.Rejected start (bytes reads) ∨ side.Overflows start reads := by
  have smallFront : ∀ other ∈ front, other.1.length ≤ 4096 := fun other mem =>
    small other (call.split.subset (List.mem_append_left _ mem))
  have notError {code : Int} (other : code ≠ eErrorCode) (ended : next.codes = state.codes ++ [code]) :
      False :=
    other (List.singleton_injective (List.append_cancel_left (ended.symm.trans error)))
  rcases inHead_or_inBody law counts reports startLine smallFront call.ran call.again with
    inHead | inBody
  · have step := inHead.receive law counts reports startLine (small arrival (call.split.subset (by simp)))
    rw [call.received] at step
    cases step with
    | tooLong overLimit _ _ => exact .inr ⟨front, arrival, call.split, inHead.opened, overLimit⟩
    | refused rejected _ _ =>
      obtain ⟨rest, all⟩ := bytes_prefix call.split
      have here : bytes (front ++ [arrival]) = bytes front ++ arrival.1 := by simp
      rw [all, here]
      exact .inl (rejected.append rest)
    | more _ _ again => exact (notError (by decide) again).elim
    | ended _ _ _ inBody =>
      obtain ⟨_, code, other, ended⟩ := inBody next rfl
      exact (notError other ended).elim
  · obtain ⟨_, code, other, ended⟩ := receive_inBody counts reports inBody call.received
    exact (notError other ended).elim

theorem reported_iff (law : side.Lawful chunks) (counts : side.Counts) (reports : side.ReportsBody)
    (startLine : (side.base start).parseStatus = .eStartLine)
    (small : ∀ arrival ∈ reads, arrival.1.length ≤ 4096) :
    side.Reported start reads ↔ side.Rejected start (bytes reads) ∨ side.Overflows start reads := by
  constructor
  · rintro ⟨front, arrival, state, next, call, codes, -⟩
    exact call.error_cases law counts reports startLine small codes
  · rintro (rejected | ⟨front, arrival, cut, opened, overLimit⟩)
    · exact reported_of_rejected law counts reports startLine small rejected
    · exact reported_of_spoilt law counts reports startLine small cut opened (.inr overLimit)

/-- The limit is enforced exactly for a head within it, a start line that is refused, and
    a line that overflows while the head is open. -/
theorem enforced_iff (law : side.Lawful chunks) (counts : side.Counts) (reports : side.ReportsBody)
    (startLine : (side.base start).parseStatus = .eStartLine)
    (small : ∀ arrival ∈ reads, arrival.1.length ≤ 4096) :
    side.LimitEnforced start reads ↔ headSize (bytes reads) ≤ httpMaxHeaderLen ∨
      side.Rejected start (bytes reads) ∨ side.Overflows start reads := by
  constructor
  · intro enforced
    by_cases long : httpMaxHeaderLen < headSize (bytes reads)
    · obtain ⟨front, arrival, state, next, call, codes⟩ := enforced.rejected long
      exact .inr (call.error_cases law counts reports startLine small codes)
    · exact .inl (Int.not_lt.1 long)
  · rintro (short | spoilt)
    · exact ⟨fun _ _ => short, fun long => absurd short (Int.not_le.2 long)⟩
    · have reported := (reported_iff law counts reports startLine small).2 spoilt
      refine ⟨fun call inBody => absurd inBody (reported.not_reached counts reports call), fun _ => ?_⟩
      obtain ⟨front, arrival, state, next, call, codes, -⟩ := reported
      exact ⟨front, arrival, state, next, call, codes⟩

/-! ## Heads that arrive line by line -/

theorem lastLine_lines (lines : ∀ arrival ∈ front, ∃ text, arrival.1 = text ++ [lf]) :
    lastLine (bytes front) = [] := by
  induction front using List.reverseRecOn with
  | nil => rfl
  | append_singleton front arrival ih =>
    obtain ⟨text, line⟩ := lines arrival (by simp)
    have all : bytes (front ++ [arrival]) = (bytes front ++ text) ++ lf :: [] := by simp [line]
    rw [all, lastLine_line]
    rfl

/-- Reads that end with a line are never over the limit. -/
theorem not_overflows_lines (small : ∀ arrival ∈ reads, arrival.1.length ≤ 4096)
    (lines : ∀ arrival ∈ reads, ∃ text, arrival.1 = text ++ [lf]) : ¬ side.Overflows start reads := by
  rintro ⟨front, arrival, cut, -, overLimit⟩
  have short := small arrival (cut.subset (by simp))
  rw [lastLine_lines fun other mem => lines other (cut.subset (List.mem_append_left _ mem))] at overLimit
  simp only [httpMaxHeaderLen, List.length_nil] at overLimit
  omega

end

end

end HttpSide

theorem length_le_headSize {front : Bytes} (on : front.IsChain GoesOn) (back : Bytes) :
    front.length ≤ headSize (front ++ back) := by
  induction front with
  | nil => exact Nat.zero_le _
  | cons ch front ih =>
    cases front with
    | nil =>
      rw [List.singleton_append]
      cases back with
      | nil => exact Nat.le_refl _
      | cons next back =>
        rw [headSize]
        split <;> simp
    | cons next front =>
      obtain ⟨goesOn, rest⟩ := List.isChain_cons_cons.1 on
      rw [List.cons_append, List.cons_append, headSize, if_pos goesOn]
      exact Nat.succ_le_succ (ih rest)

/-! ## The two sides -/

theorem CoProtocolHttpServer.reportsBody : CoProtocolHttpServer.side.ReportsBody := by
  intro base after buffer len ret parsed
  obtain ⟨result, -, same⟩ := Option.map_eq_some_iff.1 parsed
  cases same

theorem CoProtocolHttpClient.reportsBody : CoProtocolHttpClient.side.ReportsBody := by
  intro base after buffer len ret parsed
  simp only [CoProtocolHttpClient.side, CoProtocolHttpClient.parseBody] at parsed
  split at parsed
  · obtain ⟨result, -, same⟩ := Option.map_eq_some_iff.1 parsed
    cases same
  · obtain ⟨⟨parseRet, message⟩, -, same⟩ := Option.map_eq_some_iff.1 parsed
    simp only [Prod.mk.injEq] at same
    split at same
    · rename_i failed
      cases same.1
      exact failed
    · cases same.1

/-- The server refuses no start line. -/
theorem CoProtocolHttpServer.not_rejected (start : CoHTTPRequest) (received : Bytes) :
    ¬ CoProtocolHttpServer.side.Rejected start received := by
  rintro ⟨mem, after, refused⟩
  obtain ⟨front, back, rfl, absent⟩ := split_line mem
  rw [HttpSide.firstLine_line absent] at refused
  have := parseStartlineRequest_length absent refused
  omega

/-- Both decoders hold a message to HTTP_MAX_HEADER_LEN exactly if its head is within it, its
    start line is refused, or a line overflows in front of the end of the head. -/
theorem headLimit_iff {reads : List (Bytes × Block)} (small : ∀ arrival ∈ reads, arrival.1.length ≤ 4096) :
    (∀ start : CoHTTPRequest, start.parseStatus = .eStartLine →
      (CoProtocolHttpServer.side.LimitEnforced start reads ↔
        headSize (bytes reads) ≤ httpMaxHeaderLen ∨
          CoProtocolHttpServer.side.Rejected start (bytes reads) ∨
          CoProtocolHttpServer.side.Overflows start reads)) ∧
    (∀ start : CoHTTPResponse, start.parseStatus = .eStartLine →
      (CoProtocolHttpClient.side.LimitEnforced start reads ↔
        headSize (bytes reads) ≤ httpMaxHeaderLen ∨
          CoProtocolHttpClient.side.Rejected start (bytes reads) ∨
          CoProtocolHttpClient.side.Overflows start reads)) :=
  ⟨fun _ startLine => HttpSide.enforced_iff CoProtocolHttpServer.lawful CoProtocolHttpServer.counts
      CoProtocolHttpServer.reportsBody startLine small,
    fun _ startLine => HttpSide.enforced_iff CoProtocolHttpClient.lawful CoProtocolHttpClient.counts
      CoProtocolHttpClient.reportsBody startLine small⟩

/-- Two reads of a short request. -/
def shortHead : List (Bytes × Block) :=
  [(ascii "GET / HTTP/1.1", ⟨64, []⟩), (crlf ++ crlf, ⟨64, []⟩)]

theorem headLimit_short : CoProtocolHttpServer.side.LimitEnforced {} shortHead :=
  ((headLimit_iff (by decide)).1 {} rfl).2 (.inl (by decide))

namespace CoProtocolHttpServer

/-- A header of 4096 bytes, without its newline. -/
def longHeader : Bytes := ascii "a: " ++ List.replicate 4091 98 ++ [cr]

/-- A start line, three headers of 4096 bytes each and the blank line, a read for each. -/
def longHead : List (Bytes × Block) :=
  [(ascii "GET / HTTP/1.1" ++ crlf, ⟨4096, []⟩), (longHeader ++ [lf], ⟨4096, []⟩),
    (longHeader ++ [lf], ⟨4096, []⟩), (longHeader ++ [lf], ⟨4096, []⟩), (crlf, ⟨4096, []⟩)]

theorem longHeader_length : longHeader.length = 4095 := by
  rw [longHeader, List.length_append, List.length_append, List.length_replicate]
  rfl

theorem longHeader_absent : lf ∉ longHeader := by
  intro mem
  simp only [longHeader, List.mem_append, List.mem_replicate] at mem
  revert mem
  decide

/-- The head goes on behind each of its lines. -/
theorem longHeader_goesOn {back : Bytes} (on : (lf :: back).IsChain GoesOn) :
    (lf :: (longHeader ++ lf :: back)).IsChain GoesOn := by
  obtain ⟨rest, same⟩ : ∃ rest, longHeader = 97 :: rest := ⟨_, rfl⟩
  have absent := longHeader_absent
  rw [same] at absent ⊢
  exact (isChain_header absent back).2 ⟨by decide, on⟩

theorem longHead_size : httpMaxHeaderLen < headSize (bytes longHead) := by
  have first : lf ∉ ascii "GET / HTTP/1.1" ++ [cr] := by decide
  have on := (isChain_line first _).2
    (longHeader_goesOn (longHeader_goesOn (longHeader_goesOn (.singleton lf))))
  have whole : bytes longHead = (ascii "GET / HTTP/1.1" ++ [cr] ++ lf ::
      (longHeader ++ lf :: (longHeader ++ lf :: (longHeader ++ [lf])))) ++ crlf := by
    simp [longHead, crlf]
  have size := length_le_headSize on crlf
  rw [← whole] at size
  simp only [List.length_append, List.length_cons, longHeader_length] at size
  simp only [httpMaxHeaderLen]
  omega

/-- The head of 12304 bytes is let through. -/
theorem longHead_passes : ¬ ∀ reads : List (Bytes × Block),
    (∀ arrival ∈ reads, arrival.1.length ≤ 4096) → side.LimitEnforced {} reads := by
  intro enforced
  have small : ∀ arrival ∈ longHead, arrival.1.length ≤ 4096 := by
    have line : (longHeader ++ [lf]).length ≤ 4096 := by
      rw [List.length_append, longHeader_length]
      rfl
    simp only [longHead, List.forall_mem_cons]
    exact ⟨by decide, line, line, line, by decide, nofun⟩
  have lines : ∀ arrival ∈ longHead, ∃ text, arrival.1 = text ++ [lf] := by
    simp only [longHead, List.forall_mem_cons]
    exact ⟨⟨ascii "GET / HTTP/1.1" ++ [cr], rfl⟩, ⟨_, rfl⟩, ⟨_, rfl⟩, ⟨_, rfl⟩, ⟨[cr], rfl⟩, nofun⟩
  rcases (HttpSide.enforced_iff lawful counts reportsBody rfl small).1 (enforced longHead small) with
    short | rejected | overflows
  · exact absurd longHead_size (Int.not_lt.2 short)
  · exact not_rejected {} _ rejected
  · exact HttpSide.not_overflows_lines small lines overflows

end CoProtocolHttpServer

end CoServer
