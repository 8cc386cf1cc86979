import CoServer.Protocol.HttpHeadLimit
import CoServer.Protocol.HttpSegmentation

/-! # A request in pieces, whatever its lines

`decode` sees nothing of a buffer but its valid bytes, and between two calls at
most HTTP_MAX_HEADER_LEN of them wait.  A complete message with lines of any length
is received well exactly if no line overflows, no read ends in the middle of the
blank line and the length of the body fits in an `int32_t`. -/

namespace CoServer

open HttpReceiver (bytes receive)

variable {Message : Type}

namespace HttpSide

section
variable {side : HttpSide Message} {message after : Message} {coBuffer other left : CoBuffer} {rawBuffer : Bytes}
  {len ret : Int} {parsedLen : Nat} {base : CoProtocolHttp}

/-- The result of a call, as far as bytes go. -/
def shown (result : Int × Message × CoBuffer) : Int × Message × Bytes := (result.1, result.2.1, result.2.2.region)

theorem decodeBody_shown (valid : coBuffer.Valid) (otherValid : other.Valid) (same : other.region = coBuffer.region) :
    (side.decodeBody message other rawBuffer len parsedLen base).map shown =
      (side.decodeBody message coBuffer rawBuffer len parsedLen base).map shown := by
  simp only [decodeBody]
  split
  · split
    · rfl
    · simp only [Option.map_some, shown, same]
    · simp only [Option.map_some, shown, valid.region_bufferErase, otherValid.region_bufferErase, same]
  · simp only [Option.map_some, shown, valid.region_bufferErase, otherValid.region_bufferErase, same]

theorem decodeRest_shown (valid : coBuffer.Valid) (otherValid : other.Valid) (same : other.region = coBuffer.region) :
    (side.decodeRest message other rawBuffer len parsedLen).map shown =
      (side.decodeRest message coBuffer rawBuffer len parsedLen).map shown := by
  simp only [decodeRest]
  split
  · rfl
  · exact decodeBody_shown valid otherValid same

/-- Buffers with the same valid bytes are decoded alike. -/
theorem decode_shown (valid : coBuffer.Valid) (otherValid : other.Valid) (same : other.region = coBuffer.region) :
    (side.decode message other).map shown = (side.decode message coBuffer).map shown := by
  have size : other.bufferSize = coBuffer.bufferSize := by
    -- the size is that of the valid bytes
    rw [← valid.region_length, ← otherValid.region_length, same]
  simp only [decode, size, same]
  split
  · simp only [Option.map_some, shown, same]
  · split
    · simp only [Option.map_some, shown, CoBuffer.region_reset]
    · split
      · rfl
      · split
        · rfl
        · split
          · simp only [Option.map_some, shown, CoBuffer.region_reset]
          · split
            · simp only [Option.map_some, shown, same]
            · exact decodeRest_shown valid otherValid same
  · split
    · simp only [Option.map_some, shown, CoBuffer.region_reset]
    · exact decodeRest_shown valid otherValid same
  · exact decodeRest_shown valid otherValid same
  · exact decodeRest_shown valid otherValid same

/-- What a call does to the buffer. -/
inductive Leaves (coBuffer : CoBuffer) : CoBuffer → Prop
  | all : Leaves coBuffer coBuffer
  | nothing : Leaves coBuffer coBuffer.reset
  | behind (taken : Nat) : Leaves coBuffer (coBuffer.bufferErase taken).2

theorem decodeRest_leaves (decoded : side.decodeRest message coBuffer rawBuffer len parsedLen = some (ret, after, left)) :
    Leaves coBuffer left := by
  simp only [decodeRest] at decoded
  split at decoded
  · cases decoded
  · simp only [decodeBody] at decoded
    split at decoded
    · split at decoded
      · cases decoded
      · cases decoded
        exact .all
      · cases decoded
        exact .behind _
    · cases decoded
      exact .behind _

theorem decode_leaves (decoded : side.decode message coBuffer = some (ret, after, left)) : Leaves coBuffer left := by
  simp only [decode] at decoded
  split at decoded
  · cases decoded
    exact .all
  · split at decoded
    · cases decoded
      exact .nothing
    · split at decoded
      · cases decoded
      · split at decoded
        · cases decoded
        · split at decoded
          · cases decoded
            exact .nothing
          · split at decoded
            · cases decoded
              exact .all
            · exact decodeRest_leaves decoded
  · split at decoded
    · cases decoded
      exact .nothing
    · exact decodeRest_leaves decoded
  · exact decodeRest_leaves decoded
  · exact decodeRest_leaves decoded

theorem Leaves.valid (leaves : Leaves coBuffer left) (valid : coBuffer.Valid) :
    left.Valid ∧ left.totalSize = coBuffer.totalSize ∧ left.region.length ≤ coBuffer.region.length := by
  cases leaves with
  | all => exact ⟨valid, rfl, Nat.le_refl _⟩
  | nothing => exact ⟨valid.reset, rfl, by simp⟩
  | behind taken =>
    refine ⟨valid.bufferErase taken, CoBuffer.bufferErase_totalSize _ _, ?_⟩
    rw [valid.region_bufferErase, List.length_drop]
    omega

end

/-! ## What waits between two calls -/

section
variable {side : HttpSide Message} {message after : Message} {coBuffer left : CoBuffer} {rawBuffer : Bytes}
  {len ret : Int} {parsedLen : Nat}

theorem parseHeaders_notError {endHeader : CoProtocolHttp → Option CoProtocolHttp} {turns parsedLen taken : Nat}
    {base after : CoProtocolHttp} {buffer : Bytes}
    (keeps : ∀ {base after : CoProtocolHttp}, endHeader base = some after → after.parseStatus = base.parseStatus)
    (open_ : base.parseStatus ≠ .eError) (parsed : parseHeaders endHeader turns base buffer parsedLen = some (taken, after)) :
    after.parseStatus ≠ .eError := by
  induction turns generalizing base buffer parsedLen with
  | zero => cases parsed
  | succ turns ih =>
    cases buffer with
    | nil =>
      cases parsed
      exact open_
    | cons ch rest =>
      rw [parseHeaders] at parsed
      split at parsed
      · cases parsed
        exact open_
      · simp only at parsed
        split at parsed
        · cases parsed
        · rename_i next ended
          -- the end of the headers leads to the body, any other line stays in the headers
          have nextOpen : next.parseStatus ≠ .eError := by
            split at ended
            · rw [keeps ended]
              intro same
              cases same
            · cases ended
              rw [parseHeader_status]
              exact open_
          split at parsed
          · cases parsed
            exact nextOpen
          · exact ih nextOpen parsed

theorem decodeRest_notError (counts : side.Counts) (open_ : (side.base message).parseStatus ≠ .eError)
    (decoded : side.decodeRest message coBuffer rawBuffer len parsedLen = some (ret, after, left)) :
    (side.base after).parseStatus ≠ .eError := by
  simp only [decodeRest] at decoded
  split at decoded
  · cases decoded
  · rename_i taken base parsed
    have baseOpen := parseHeaders_notError counts.endHeader_status open_ parsed
    -- the body stage stays or completes the message
    have body {result : Except Int Int} {next : CoProtocolHttp} {buffer : Bytes} {len : Int}
        (parsed : side.parseBody base buffer len = some (result, next)) : next.parseStatus ≠ .eError := by
      rcases counts.parseBody_status parsed with same | completed
      · rw [same]
        exact baseOpen
      · rw [completed]
        decide
    simp only [decodeBody] at decoded
    split at decoded
    · split at decoded
      · cases decoded
      · rename_i parsed
        cases decoded
        rw [counts.base_withBase]
        exact body parsed
      · rename_i parsed
        cases decoded
        rw [counts.base_withBase]
        exact body parsed
    · cases decoded
      rw [counts.base_withBase]
      exact baseOpen

theorem decode_notError (counts : side.Counts) (open_ : (side.base message).parseStatus ≠ .eError)
    (decoded : side.decode message coBuffer = some (ret, after, left)) : (side.base after).parseStatus ≠ .eError := by
  simp only [decode] at decoded
  split at decoded
  · cases decoded
    exact open_
  · split at decoded
    · cases decoded
      exact open_
    · split at decoded
      · cases decoded
      · split at decoded
        · cases decoded
        · rename_i parsed
          have keeps := (counts.parseStartline_keeps parsed).2
          split at decoded
          · cases decoded
            rw [keeps]
            exact open_
          · split at decoded
            · cases decoded
              rw [keeps]
              exact open_
            · refine decodeRest_notError counts ?_ decoded
              rw [counts.base_withBase]
              intro same
              cases same
  · split at decoded
    · cases decoded
      exact open_
    · exact decodeRest_notError counts open_ decoded
  · exact decodeRest_notError counts open_ decoded
  · exact decodeRest_notError counts open_ decoded

end

end HttpSide

namespace CoProtocolHttpServer

variable {message after : CoHTTPRequest} {coBuffer left : CoBuffer}

/-- A body that asks for more has taken all there was. -/
theorem parseContent_waits {base next : CoProtocolHttp} {buffer : Bytes} {len parsedLen : Int}
    (parsed : parseContent base buffer len = some (parsedLen, next)) (open_ : next.parseStatus ≠ .eCompleted) :
    parsedLen = len := by
  unfold parseContent at parsed
  split at parsed
  · simp only at parsed
    by_cases all : len > base.contentRemain
    · -- a body that is whole is completed
      rw [if_pos all] at parsed
      split at parsed
      · cases parsed
      · cases parsed
        have nothing : int32 ((base.appendContent (buffer.take base.contentRemain.toNat)).contentRemain -
            base.contentRemain) ≤ 0 := by
          rw [appendContent_contentRemain, Int.sub_self, int32_of_bounds (by decide) (by decide)]
        rw [if_pos nothing] at open_
        exact absurd rfl open_
    · rw [if_neg all] at parsed
      split at parsed
      · cases parsed
      · cases parsed
        rfl
  · cases parsed
    exact absurd rfl open_

/-- Between two calls no more than the limit of a head waits. -/
theorem decode_again (valid : coBuffer.Valid) (small : coBuffer.region.length < 2 ^ 31)
    (open_ : message.parseStatus ≠ .eError) (decoded : side.decode message coBuffer = some (coAgain, after, left)) :
    left.region.length ≤ 8192 := by
  have leaves := ((HttpSide.decode_leaves decoded).valid valid).2.2
  have len := (HttpSide.decode_size valid small).1
  cases status : message.parseStatus with
  | eCompleted =>
    simp only [HttpSide.decode, show (side.base message).parseStatus = .eCompleted from status] at decoded
    cases decoded
  | eError => exact absurd status open_
  | eStartLine =>
    simp only [HttpSide.decode, show (side.base message).parseStatus = .eStartLine from status] at decoded
    split at decoded
    · cases decoded
    · unfold httpMaxHeaderLen at *
      omega
  | eHeader =>
    simp only [HttpSide.decode, show (side.base message).parseStatus = .eHeader from status] at decoded
    split at decoded
    · cases decoded
    · unfold httpMaxHeaderLen at *
      omega
  -- in the body no limit is tested, but all that was there is taken
  | eContent =>
    simp only [HttpSide.decode, show (side.base message).parseStatus = .eContent from status] at decoded
    rw [HttpSide.decodeRest, HttpSide.parseHeaders_stop _ (show (side.base message).parseStatus ≠ .eHeader by
      rw [show (side.base message).parseStatus = .eContent from status]; decide)] at decoded
    simp only [HttpSide.decodeBody] at decoded
    rw [if_pos (show (side.base message).parseStatus = .eContent from status)] at decoded
    split at decoded
    · cases decoded
    · rename_i failed
      obtain ⟨_, -, same⟩ := Option.map_eq_some_iff.1 failed
      cases same
    · rename_i bodyLen base parsed
      obtain ⟨⟨taken, next⟩, content, same⟩ := Option.map_eq_some_iff.1 parsed
      cases same
      simp only [Option.some.injEq, Prod.mk.injEq] at decoded
      obtain ⟨code, -, rfl⟩ := decoded
      have waits : base.parseStatus ≠ .eCompleted := by
        intro completed
        rw [if_pos completed] at code
        exact absurd code (by decide)
      have all := parseContent_waits content waits
      rw [valid.region_bufferErase, List.length_drop, all, len]
      omega

end CoProtocolHttpServer

/-! ## Lines of any length -/

section
variable {side : HttpSide Message} {chunks : Bool} {raw : RawMessage} {start : Message} {line : Option Message}
  {chunked : Prop} {arrivals : List (Bytes × Block)}

/-- A message that is received well overflows nowhere. -/
theorem not_overflows_of_completes (law : side.Lawful chunks) (counts : side.Counts) (reports : side.ReportsBody)
    (startLine : (side.base start).parseStatus = .eStartLine) (readable : Readable arrivals) {expected : Message}
    (completes : HttpReceiver.Completes side { message := start } arrivals expected) :
    ¬side.Overflows start arrivals := by
  intro overflows
  -- an overflow makes a call return `eError`
  obtain ⟨front, arrival, state, next, call, codes, -⟩ :=
    (HttpSide.reported_iff law counts reports startLine fun arrival mem => (readable arrival mem).2).2 (.inr overflows)
  obtain ⟨final, ran, -, -, finalCodes⟩ := completes
  -- the code of that call would be among those of the whole run
  obtain ⟨back, rfl⟩ := call.split
  rw [List.foldlM_append] at ran
  obtain ⟨mid, ranFront, rest⟩ := Option.bind_eq_some_iff.1 ran
  cases (Lib.run_concat.2 ⟨state, call.ran, call.received⟩).symm.trans ranFront
  obtain ⟨more, later, -⟩ := HttpReceiver.run_codes rest
  have mem : eErrorCode ∈ final.codes := by
    rw [later, codes]
    simp
  rw [finalCodes] at mem
  simp only [List.nil_append, List.mem_append, List.mem_replicate, List.mem_singleton] at mem
  rcases mem with ⟨-, again⟩ | ok
  · exact absurd again (by decide)
  · exact absurd ok (by decide)

/-- Reads that are shorter than the limit altogether overflow nowhere. -/
theorem not_overflows_of_short (short : (bytes arrivals).length ≤ httpMaxHeaderLen) : ¬side.Overflows start arrivals := by
  rintro ⟨front, arrival, ⟨back, rfl⟩, -, beyond⟩
  have last := lastLine_length_le (bytes front)
  simp only [HttpReceiver.bytes_append, HttpReceiver.bytes_cons, HttpReceiver.bytes_nil, List.length_append] at short
  omega

/-- Where no line overflows, what waits in front of the body leaves room for the next read. -/
theorem roomy_of_not_overflows (law : side.Lawful chunks) (counts : side.Counts) (reports : side.ReportsBody)
    (startLine : (side.base start).parseStatus = .eStartLine) (readable : Readable arrivals)
    (within : ¬side.Overflows start arrivals) (on : Option Message → Bytes → Prop) :
    Roomy law on { message := start } arrivals := by
  intro front arrival back state split ran again _ _ outside
  have asked : ∀ code ∈ state.codes, code = coAgain := fun code mem => (again code mem).resolve_left List.not_mem_nil
  have small : ∀ other ∈ front, other.1.length ≤ 4096 := fun other mem =>
    (readable other (by rw [split]; exact List.mem_append_left _ mem)).2
  -- the head is not over, so the last line is what waits
  have inHead := (HttpSide.inHead_or_inBody law counts reports startLine small ran asked).resolve_right outside
  by_contra tooLong
  refine within ⟨front, arrival, ⟨back, by rw [split, List.append_assoc, List.singleton_append]⟩, inHead.opened, ?_⟩
  rw [← inHead.pending]
  unfold httpMaxHeaderLen
  omega

/-- A complete request, whatever its lines. -/
theorem completes_request_iff (framed : raw.Framed) (whole : bytes arrivals = raw.bytes) (readable : Readable arrivals) :
    HttpReceiver.Completes CoProtocolHttpServer.side { message := {} } arrivals raw.request ↔
      raw.Uncut arrivals ∧ raw.body.length < 2 ^ 31 ∧ ¬CoProtocolHttpServer.side.Overflows {} arrivals := by
  -- once nothing overflows, the cuts and the length decide
  have roomy (within : ¬CoProtocolHttpServer.side.Overflows {} arrivals) :
      HttpReceiver.Completes CoProtocolHttpServer.side { message := {} } arrivals raw.request ↔ _ :=
    completes_roomy_iff framed.serverRead CoProtocolHttpServer.lawful whole readable
      (roomy_of_not_overflows CoProtocolHttpServer.lawful CoProtocolHttpServer.counts CoProtocolHttpServer.reportsBody
        rfl readable within _)
  constructor
  · intro completes
    have within := not_overflows_of_completes CoProtocolHttpServer.lawful CoProtocolHttpServer.counts
      CoProtocolHttpServer.reportsBody rfl readable completes
    obtain ⟨uncut, small, -⟩ := (roomy within).1 completes
    exact ⟨uncut, small, within⟩
  · rintro ⟨uncut, small, within⟩
    exact (roomy within).2 ⟨uncut, small, not_false, _, rfl, rfl⟩

end

end CoServer
