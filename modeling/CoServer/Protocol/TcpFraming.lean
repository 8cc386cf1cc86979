import CoServer.Protocol.Tcp
import CoServer.Lib.Run

/-! # TCP framing over a segmented stream

The frames at the front of a stream are a `Lib.Reader`, so how the stream was
cut does not matter to what is read from it.  Two things stand between that
reader and an exact round trip.  A header that nothing follows is not looked at,
so an empty body at the very end of the stream stays in the buffer.  And the
size of the buffer is compared as an `int32_t`: once `2 ^ 31` bytes wait, the
buffer is never emptied again. -/

namespace CoServer

/-! ## The reader -/

inductive Reading where
  | delivered (bodies : List Bytes)
  | failed

def framing : Lib.Reader Reading UInt8 where
  next state pending :=
    match state with
    | .failed => none
    | .delivered bodies =>
      match unframe pending with
      | .incomplete => none
      | .malformed => some (.failed, 0)
      | .body bytes => some (.delivered (bodies ++ [bytes]), coMsgTcpHeadLen + bytes.length)
  bounded := by
    intro state next' pending count hnext
    cases state with
    | failed => cases hnext
    | delivered bodies =>
      simp only at hnext
      split at hnext
      · cases hnext
      · cases hnext
        exact Nat.zero_le _
      · rename_i bytes hbody
        cases hnext
        exact unframe_body_length hbody
  stable := by
    intro state next' pending count hnext more
    cases state with
    | failed => cases hnext
    | delivered bodies =>
      simp only at hnext ⊢
      rw [unframe_append ?_ more]
      · exact hnext
      · intro hincomplete
        rw [hincomplete] at hnext
        cases hnext

theorem framing_failed : framing.Final .failed := fun _ => rfl

theorem framing_waits (bodies : List Bytes) {pending : Bytes} (hincomplete : unframe pending = .incomplete) :
    framing.Waits (.delivered bodies) pending := by
  simp only [Lib.Reader.Waits, framing, hincomplete]

theorem framing_body (bodies : List Bytes) {pending bytes : Bytes} (hbody : unframe pending = .body bytes) :
    framing.next (.delivered bodies) pending =
      some (.delivered (bodies ++ [bytes]), coMsgTcpHeadLen + bytes.length) := by
  simp only [framing, hbody]

/-! ## Streams of frames -/

/-- The stream of a list of bodies. -/
def wire (bodies : List Bytes) : Bytes := (bodies.map frame).flatten

@[simp] theorem wire_nil : wire [] = [] := rfl

@[simp] theorem wire_cons (body : Bytes) (bodies : List Bytes) :
    wire (body :: bodies) = frame body ++ wire bodies := rfl

theorem frame_ne_nil (body : Bytes) : frame body ≠ [] := by
  simp [frame, storeNative, bigEndian]

section
variable {body : Bytes} {bodies : List Bytes} {received later more : Bytes}

/-- All frames are read when a byte follows the last header. -/
theorem reads_wire (done : List Bytes) (hsmall : ∀ body ∈ bodies, body.length < 2 ^ 31)
    (hlast : ∀ body, bodies.getLast? = some body → body ++ more ≠ []) :
    framing.Reads (.delivered done) (wire bodies ++ more) (.delivered (done ++ bodies)) more := by
  induction bodies generalizing done with
  | nil =>
    rw [List.append_nil]
    exact .done
  | cons body bodies ih =>
    have hbeyond : body ++ (wire bodies ++ more) ≠ [] := by
      cases bodies with
      | nil => exact hlast body rfl
      | cons second bodies => simp [frame_ne_nil]
    have hframe := unframe_frame (wire bodies ++ more) (hsmall body List.mem_cons_self) hbeyond
    rw [wire_cons, List.append_assoc, List.append_cons]
    refine .take (framing_body done hframe) ?_
    rw [List.drop_left' (frame_length body)]
    refine ih _ (fun other hmem => hsmall other (List.mem_cons_of_mem _ hmem)) ?_
    intro last hlast'
    refine hlast last ?_
    cases bodies with
    | nil => cases hlast'
    | cons second bodies => exact hlast'

/-- The bytes waiting in the buffer when `received` bytes of the stream have
    arrived and every frame that `decode` accepts was taken. -/
def unread : List Bytes → Nat → Nat
  | [], received => received
  | body :: bodies, received =>
    if received ≤ coMsgTcpHeadLen ∨ received < coMsgTcpHeadLen + body.length then received
    else unread bodies (received - (coMsgTcpHeadLen + body.length))

/-- A frame of which a part is missing is not recognised. -/
theorem unframe_part (hsmall : body.length < 2 ^ 31) (hstream : received ++ later = frame body ++ more)
    (hpart : received.length ≤ coMsgTcpHeadLen ∨ received.length < coMsgTcpHeadLen + body.length) :
    unframe received = .incomplete := by
  rcases hpart with hshort | hpart
  · exact unframe_header hshort
  · by_contra hcomplete
    have hbeyond : body ++ more ≠ [] := by
      intro hnil
      rw [(List.append_eq_nil_iff.mp hnil).1] at hpart
      exact hcomplete (unframe_header (Nat.le_of_lt hpart))
    have hsame := unframe_append hcomplete later
    rw [hstream, unframe_frame more hsmall hbeyond] at hsame
    have := unframe_body_length hsame.symm
    omega

/-- What is read from the first bytes of a stream. -/
theorem reads_prefix (done : List Bytes) (hsmall : ∀ body ∈ bodies, body.length < 2 ^ 31)
    (hstream : received ++ later = wire bodies) :
    ∃ finished rest, framing.Reads (.delivered done) received (.delivered finished) rest ∧
      framing.Waits (.delivered finished) rest ∧ rest.length = unread bodies received.length := by
  induction bodies generalizing done received with
  | nil =>
    obtain ⟨rfl, rfl⟩ := List.append_eq_nil_iff.mp hstream
    exact ⟨done, [], .done, framing_waits done (unframe_header (Nat.zero_le _)), rfl⟩
  | cons body bodies ih =>
    have hbody := hsmall body List.mem_cons_self
    unfold unread
    split
    · rename_i hpart
      exact ⟨done, received, .done, framing_waits done (unframe_part hbody hstream hpart), rfl⟩
    · rename_i hwhole
      rw [not_or, Nat.not_le, Nat.not_lt] at hwhole
      obtain ⟨rest, rfl, hrest⟩ : ∃ rest, received = frame body ++ rest ∧ rest ++ later = wire bodies := by
        have hlong : (frame body).length ≤ received.length := by
          rw [frame_length]
          exact hwhole.2
        obtain ⟨rest, hrest⟩ := List.prefix_of_prefix_length_le
          (hstream ▸ List.prefix_append (frame body) (wire bodies)) (List.prefix_append received later) hlong
        refine ⟨rest, hrest.symm, ?_⟩
        rw [← hrest, wire_cons, List.append_assoc] at hstream
        exact List.append_cancel_left hstream
      have hbeyond : body ++ rest ≠ [] := by
        rw [List.length_append, frame_length] at hwhole
        intro hnil
        obtain ⟨rfl, rfl⟩ := List.append_eq_nil_iff.mp hnil
        exact absurd hwhole.1 (by decide)
      obtain ⟨finished, left, hreads, hwaits, hleft⟩ := ih (done ++ [body])
        (fun other hmem => hsmall other (List.mem_cons_of_mem _ hmem)) hrest
      refine ⟨finished, left, .take (framing_body done (unframe_frame rest hbody hbeyond)) ?_, hwaits, ?_⟩
      · rwa [List.drop_left' (frame_length body)]
      · rw [hleft, List.length_append, frame_length, Nat.add_sub_cancel_left]

/-- No part of a stream of frames is malformed. -/
theorem wire_not_failed (hsmall : ∀ body ∈ bodies, body.length < 2 ^ 31) {rest : Bytes}
    (hstream : received ++ later = wire bodies) :
    ¬framing.Reads (.delivered []) received .failed rest := by
  intro hfailed
  obtain ⟨finished, left, hreads, hwaits, _⟩ := reads_prefix [] hsmall (List.append_nil (wire bodies))
  rw [← hstream] at hreads
  cases (hfailed.final_early framing_failed hreads hwaits).1

end

/-! ## A receiver -/

/-- The receiving end of a connection: what `decode` returned so far and the
    bodies it delivered. -/
structure Receiver where
  protocol : CoProtocolTcp
  coBuffer : CoBuffer := {}
  codes : List Int := []
  delivered : List Bytes := []

namespace Receiver

/-- Calls `decode` until it stops returning `CO_OK`. -/
def decodeAll : Nat → Receiver → Option Receiver
  | 0, _ => none
  | turns + 1, self =>
    match self.protocol.decode self.coBuffer with
    | none => none
    | some (ret, protocol, coBuffer) =>
      if ret = coOk then
        decodeAll turns
          { protocol, coBuffer, codes := self.codes ++ [ret],
            delivered := self.delivered ++ [protocol.decodedBody] }
      else some { self with protocol, coBuffer, codes := self.codes ++ [ret] }

/-- A segment arrives.  No frame is empty, so one turn more than there are bytes
    is enough. -/
def receive (self : Receiver) (arrival : Bytes × Block) : Option Receiver :=
  match self.coBuffer.bufferAppend arrival.1 (some arrival.2) with
  | none => none
  | some (ret, coBuffer) =>
    if ret ≠ coOk then none else decodeAll (coBuffer.bufferSize + 1) { self with coBuffer }

/-- The receiver has read all it can of the bytes received so far. -/
structure Follows (received : Bytes) (receiver : Receiver) : Prop where
  valid : receiver.coBuffer.Valid
  totalLt : receiver.coBuffer.totalSize < 2 ^ 63
  reads : framing.Reads (.delivered []) received (.delivered receiver.delivered) receiver.coBuffer.region
  waits : framing.Waits (.delivered receiver.delivered) receiver.coBuffer.region
  noError : coError ∉ receiver.codes

/-- The receiver will not empty its buffer without an error any more. -/
def Stuck (receiver : Receiver) : Prop :=
  coError ∈ receiver.codes ∨ (receiver.coBuffer.Valid ∧ 2 ^ 31 ≤ receiver.coBuffer.region.length)

section
variable {self final : Receiver} {received : Bytes} {turns : Nat}

/-- The loop, as long as an `int32_t` holds the size of the buffer. -/
theorem decodeAll_follows (hvalid : self.coBuffer.Valid) (htotal : self.coBuffer.totalSize < 2 ^ 63)
    (hsmall : self.coBuffer.region.length < 2 ^ 31) (hturns : self.coBuffer.region.length < turns)
    (hreads : framing.Reads (.delivered []) received (.delivered self.delivered) self.coBuffer.region)
    (hwell : ∀ rest, ¬framing.Reads (.delivered []) received .failed rest)
    (hnoError : coError ∉ self.codes) :
    ∃ final, decodeAll turns self = some final ∧ Follows received final := by
  induction turns generalizing self with
  | zero => exact absurd hturns (Nat.not_lt_zero _)
  | succ turns ih =>
    have hdecode := self.protocol.decode_eq hvalid hsmall
    unfold decodeAll
    cases hnext : unframe self.coBuffer.region with
    | incomplete =>
      simp only [hnext] at hdecode
      rw [hdecode]
      refine ⟨_, rfl, hvalid, htotal, hreads, framing_waits _ hnext, ?_⟩
      simpa using hnoError
    | malformed =>
      have hfail : framing.next (.delivered self.delivered) self.coBuffer.region = some (.failed, 0) := by
        simp only [framing, hnext]
      exact absurd (hreads.trans (.one hfail)) (hwell _)
    | body bytes =>
      simp only [hnext] at hdecode
      rw [hdecode]
      have hlength := unframe_body_length hnext
      have hcount : 0 < coMsgTcpHeadLen := by decide
      have herased := hvalid.bufferErase (bytes.length + coMsgTcpHeadLen)
      have hregion := hvalid.region_bufferErase (bytes.length + coMsgTcpHeadLen)
      have hstep := Lib.Reader.Reads.one (framing_body self.delivered hnext)
      rw [Nat.add_comm, ← hregion] at hstep
      simp only [if_true]
      refine ih herased ?_ ?_ ?_ ?_ ?_
      · unfold CoBuffer.bufferErase
        split <;> exact htotal
      · simp only [hregion, List.length_drop]
        omega
      · simp only [hregion, List.length_drop]
        omega
      · simpa using hreads.trans hstep
      · simpa using hnoError

theorem decodeAll_stuck (hstuck : Stuck self) (hrun : decodeAll turns self = some final) : final.Stuck := by
  induction turns generalizing self with
  | zero => cases hrun
  | succ turns ih =>
    unfold decodeAll at hrun
    split at hrun
    · cases hrun
    · rename_i ret protocol coBuffer hdecode
      have hnext : ∀ bodies, Stuck ⟨protocol, coBuffer, self.codes ++ [ret], bodies⟩ := by
        intro bodies
        by_cases herror : ret = coError
        · exact .inl (by simp [herror])
        · rcases hstuck with hcode | ⟨hvalid, hhuge⟩
          · exact .inl (List.mem_append_left _ hcode)
          · exact .inr (CoProtocolTcp.decode_huge hvalid hhuge herror hdecode)
      split at hrun
      · exact ih (hnext _) hrun
      · cases hrun
        exact hnext _

/-- Once stuck, always stuck. -/
theorem receive_stuck {arrival : Bytes × Block} (hstuck : self.Stuck)
    (hrun : self.receive arrival = some final) : final.Stuck := by
  unfold receive at hrun
  split at hrun
  · cases hrun
  · rename_i ret coBuffer happend
    split at hrun
    · cases hrun
    · refine decodeAll_stuck ?_ hrun
      rcases hstuck with hcode | ⟨hvalid, hhuge⟩
      · exact .inl hcode
      · obtain ⟨hkept, hregion⟩ := hvalid.bufferAppend happend
        refine .inr ⟨hkept, ?_⟩
        rcases hregion with ⟨_, hregion⟩ | ⟨_, hregion⟩ <;> simp only [hregion, List.length_append]
        · omega
        · exact hhuge

theorem run_stuck {arrivals : List (Bytes × Block)} (hstuck : self.Stuck)
    (hrun : arrivals.foldlM receive self = some final) : final.Stuck := by
  induction arrivals generalizing self with
  | nil =>
    cases hrun
    exact hstuck
  | cons arrival arrivals ih =>
    rw [List.foldlM_cons, Option.bind_eq_bind, Option.bind_eq_some_iff] at hrun
    obtain ⟨next, hreceive, hrun⟩ := hrun
    exact ih (receive_stuck hstuck hreceive) hrun

end

section
variable {self final : Receiver} {bodies : List Bytes} {received later : Bytes} {arrival : Bytes × Block}
  {arrivals : List (Bytes × Block)}

theorem Follows.unread (hfollows : Follows received self) (hsmall : ∀ body ∈ bodies, body.length < 2 ^ 31)
    (hstream : received ++ later = wire bodies) :
    self.coBuffer.region.length = unread bodies received.length := by
  obtain ⟨finished, rest, hreads, hwaits, hlength⟩ := reads_prefix [] hsmall hstream
  rw [← hlength, (hfollows.reads.unique hreads hfollows.waits hwaits).2]

/-- A segment that leaves the size of the buffer in an `int32_t`. -/
theorem Follows.receive (hfollows : Follows received self) (hsmall : ∀ body ∈ bodies, body.length < 2 ^ 31)
    (hstream : received ++ arrival.1 ++ later = wire bodies)
    (hfits : CoServer.unread bodies received.length + arrival.1.length < 2 ^ 31) :
    ∃ next, self.receive arrival = some next ∧ Follows (received ++ arrival.1) next := by
  have hvalid := hfollows.valid
  have hsize := hfollows.unread hsmall (by rwa [List.append_assoc] at hstream)
  have hlength := hvalid.region_length
  obtain ⟨after, happend, hafter, hregion, htotal⟩ := hvalid.bufferAppend_some arrival.2
    hfollows.totalLt (show self.coBuffer.bufferSize + arrival.1.length < 2 ^ 62 by omega)
  unfold Receiver.receive
  rw [happend]
  have hlengthAfter := hafter.region_length
  refine decodeAll_follows hafter htotal ?_ ?_ ?_ (fun rest => wire_not_failed hsmall hstream)
    hfollows.noError
  · simp only [hregion, List.length_append]
    omega
  · simp only [hlengthAfter]
    omega
  · simp only [hregion]
    exact hfollows.reads.append arrival.1

/-- A segment that does not leaves the receiver stuck. -/
theorem Follows.receive_huge (hfollows : Follows received self)
    (hsmall : ∀ body ∈ bodies, body.length < 2 ^ 31) (hstream : received ++ later = wire bodies)
    (hhuge : 2 ^ 31 ≤ CoServer.unread bodies received.length + arrival.1.length)
    (hrun : self.receive arrival = some final) : final.Stuck := by
  unfold Receiver.receive at hrun
  split at hrun
  · cases hrun
  · rename_i ret coBuffer happend
    split at hrun
    · cases hrun
    · rename_i hok
      refine decodeAll_stuck (.inr ?_) hrun
      obtain ⟨hkept, ⟨_, hregion⟩ | ⟨herror, _⟩⟩ := hfollows.valid.bufferAppend happend
      · refine ⟨hkept, ?_⟩
        simp only [hregion, List.length_append, hfollows.unread hsmall hstream]
        exact hhuge
      · rw [herror] at hok
        exact absurd (by decide) hok

/-- No more than an `int32_t` counts ever waits in the buffer, starting after
    `received` bytes. -/
def Fits (bodies : List Bytes) : Nat → List (Bytes × Block) → Prop
  | _, [] => True
  | received, arrival :: arrivals =>
    CoServer.unread bodies received + arrival.1.length < 2 ^ 31 ∧
      Fits bodies (received + arrival.1.length) arrivals

/-- A run that stays within the bound follows the stream to its end, and a run
    that leaves it ends stuck. -/
theorem Follows.run (hfollows : Follows received self) (hsmall : ∀ body ∈ bodies, body.length < 2 ^ 31)
    (hstream : received ++ (arrivals.map Prod.fst).flatten = wire bodies) :
    (Fits bodies received.length arrivals →
      ∃ final, arrivals.foldlM Receiver.receive self = some final ∧ Follows (wire bodies) final) ∧
    (¬Fits bodies received.length arrivals →
      ∀ final, arrivals.foldlM Receiver.receive self = some final → final.Stuck) := by
  induction arrivals generalizing received self with
  | nil =>
    rw [List.map_nil, List.flatten_nil, List.append_nil] at hstream
    exact ⟨fun _ => ⟨self, rfl, hstream ▸ hfollows⟩, fun hnot => absurd trivial hnot⟩
  | cons arrival arrivals ih =>
    rw [List.map_cons, List.flatten_cons, ← List.append_assoc] at hstream
    simp only [List.foldlM_cons, Fits]
    by_cases hfits : CoServer.unread bodies received.length + arrival.1.length < 2 ^ 31
    · obtain ⟨next, hreceive, hnext⟩ := hfollows.receive hsmall hstream hfits
      have hrest := ih hnext hstream
      rw [List.length_append] at hrest
      simp only [hreceive, Option.bind_eq_bind, Option.bind_some, hfits, true_and]
      exact hrest
    · refine ⟨fun hall => absurd hall.1 hfits, fun _ final hrun => ?_⟩
      rw [Option.bind_eq_bind, Option.bind_eq_some_iff] at hrun
      obtain ⟨next, hreceive, hrun⟩ := hrun
      rw [List.append_assoc] at hstream
      have hstuck := hfollows.receive_huge hsmall hstream (Nat.le_of_not_lt hfits) hreceive
      exact run_stuck hstuck hrun

end

/-! ## The round trip -/

/-- What a sender's `encode` leaves in a fresh buffer. -/
def encoded (memory : CoProtocolTcp → Block × Block) (sender : CoProtocolTcp) : Option Bytes :=
  (sender.encode {} (some (memory sender).1, some (memory sender).2)).map fun (_, coBuffer) => coBuffer.region

/-- The segments deliver exactly these bodies, without an error, and leave nothing
    in the buffer. -/
def Delivers (receiver : CoProtocolTcp) (arrivals : List (Bytes × Block)) (bodies : List Bytes) : Prop :=
  ∃ final, arrivals.foldlM receive { protocol := receiver } = some final ∧ final.delivered = bodies ∧
    coError ∉ final.codes ∧ final.coBuffer.bufferSize = 0

theorem encoded_eq {sender : CoProtocolTcp} (memory : CoProtocolTcp → Block × Block)
    (hsmall : sender.encodedBody.length < 2 ^ 31) : encoded memory sender = some (frame sender.encodedBody) := by
  obtain ⟨after, hencode, _, hregion, _⟩ := sender.encode_eq (memory sender) CoBuffer.valid_fresh
    (by decide) (by rw [frame_length, coMsgTcpHeadLen]; simp only; omega)
  simp only [encoded, hencode, Option.map_some, hregion, CoBuffer.region_fresh, List.nil_append]

theorem mapM_encoded {senders : List CoProtocolTcp} (memory : CoProtocolTcp → Block × Block)
    (hsmall : ∀ sender ∈ senders, sender.encodedBody.length < 2 ^ 31) :
    senders.mapM (encoded memory) = some (senders.map fun sender => frame sender.encodedBody) := by
  induction senders with
  | nil => rfl
  | cons sender senders ih =>
    rw [List.mapM_cons, encoded_eq memory (hsmall sender List.mem_cons_self),
      ih fun other hmem => hsmall other (List.mem_cons_of_mem _ hmem)]
    rfl

theorem follows_fresh (receiver : CoProtocolTcp) : Follows [] { protocol := receiver } :=
  ⟨CoBuffer.valid_fresh, show 0 < 2 ^ 63 by decide, .done, framing_waits [] (unframe_header (Nat.zero_le _)), by simp⟩

/-- At the end of the stream everything was read, unless the last body is empty. -/
theorem Follows.wire {self : Receiver} {bodies : List Bytes} (hfollows : Follows (wire bodies) self)
    (hsmall : ∀ body ∈ bodies, body.length < 2 ^ 31) :
    (self.delivered = bodies ∧ self.coBuffer.bufferSize = 0) ↔ bodies.getLast? ≠ some [] := by
  have hlength := hfollows.valid.region_length
  rcases List.eq_nil_or_concat bodies with rfl | ⟨front, last, rfl⟩
  · obtain ⟨hstate, hrest⟩ := hfollows.reads.of_waits (framing_waits [] (unframe_header (Nat.zero_le _)))
    rw [hrest] at hlength
    exact ⟨fun _ => by simp, fun _ => ⟨Reading.delivered.inj hstate, hlength.symm⟩⟩
  · rw [List.concat_eq_append] at hfollows hsmall ⊢
    by_cases hlast : last = []
    · subst hlast
      have hreads := @reads_wire front (frame []) []
        (fun body hmem => hsmall body (List.mem_append_left _ hmem)) (fun body _ => by simp [frame_ne_nil])
      have hsplit : CoServer.wire (front ++ [[]]) = CoServer.wire front ++ frame [] := by
        simp [CoServer.wire]
      rw [← hsplit] at hreads
      have hrest := (hfollows.reads.unique hreads hfollows.waits
        (framing_waits _ (unframe_header (by rw [frame_length]; decide)))).2
      rw [← hrest, frame_length] at hlength
      refine ⟨fun hdone => ?_, fun hnot => absurd (by simp) hnot⟩
      rw [hdone.2] at hlength
      exact absurd hlength (by decide)
    · have hreads := @reads_wire (front ++ [last]) [] [] hsmall
        (fun body hbody => by simp_all)
      rw [List.append_nil, List.nil_append] at hreads
      obtain ⟨hstate, hrest⟩ := hfollows.reads.unique hreads hfollows.waits
        (framing_waits _ (unframe_header (Nat.zero_le _)))
      rw [← hrest] at hlength
      refine ⟨fun _ => by simpa using hlast, fun _ => ⟨(Reading.delivered.inj hstate).symm, hlength.symm⟩⟩

/-- A segmented stream of frames delivers exactly the bodies that were sent, if
    and only if the last body is not empty and the buffer never holds more bytes
    than an `int32_t` counts. -/
theorem decode_delivers_iff (receiver : CoProtocolTcp) (senders : List CoProtocolTcp)
    (memory : CoProtocolTcp → Block × Block) (arrivals : List (Bytes × Block)) (outputs : List Bytes)
    (hsmall : ∀ sender ∈ senders, sender.encodedBody.length < 2 ^ 31 - 8)
    (houtputs : senders.mapM (encoded memory) = some outputs)
    (hcut : (arrivals.map Prod.fst).flatten = outputs.flatten) :
    Delivers receiver arrivals (senders.map CoProtocolTcp.encodedBody) ↔
      (senders.map CoProtocolTcp.encodedBody).getLast? ≠ some [] ∧
        Fits (senders.map CoProtocolTcp.encodedBody) 0 arrivals := by
  rw [mapM_encoded memory fun sender hmem => by have := hsmall sender hmem; omega, Option.some.injEq] at houtputs
  have hwire : [] ++ (arrivals.map Prod.fst).flatten = wire (senders.map CoProtocolTcp.encodedBody) := by
    rw [List.nil_append, hcut, ← houtputs, wire, List.map_map]
    rfl
  have hbodies : ∀ body ∈ senders.map CoProtocolTcp.encodedBody, body.length < 2 ^ 31 := by
    intro body hmem
    obtain ⟨sender, hsender, rfl⟩ := List.mem_map.mp hmem
    have := hsmall sender hsender
    omega
  obtain ⟨hwithin, hbeyond⟩ := (follows_fresh receiver).run hbodies hwire
  by_cases hfits : Fits (senders.map CoProtocolTcp.encodedBody) 0 arrivals
  · obtain ⟨final, hrun, hfollows⟩ := hwithin hfits
    rw [← hfollows.wire hbodies]
    constructor
    · rintro ⟨other, hother, hdelivered, _, hempty⟩
      obtain rfl := Option.some.inj (hrun.symm.trans hother)
      exact ⟨⟨hdelivered, hempty⟩, hfits⟩
    · rintro ⟨⟨hdelivered, hempty⟩, _⟩
      exact ⟨final, hrun, hdelivered, hfollows.noError, hempty⟩
  · refine ⟨?_, fun hboth => absurd hboth.2 hfits⟩
    rintro ⟨final, hrun, _, hnoError, hempty⟩
    rcases hbeyond hfits final hrun with herror | ⟨hvalid, hhuge⟩
    · exact absurd herror hnoError
    · rw [hvalid.region_length, hempty] at hhuge
      exact absurd hhuge (by decide)

/-- An empty body, then another, cut inside both headers. -/
theorem decode_delivers_iff_empty_first :
    Delivers ⟨protocolTcpServer, {}, {}⟩ [([0xe8, 0, 0], ⟨4096, []⟩), ([0, 0, 0, 0, 0, 0xe8, 0], ⟨4096, []⟩),
      ([0, 0, 0, 0, 0, 1, 7], ⟨8192, []⟩)] [[], [7]] :=
  (decode_delivers_iff ⟨protocolTcpServer, {}, {}⟩ [⟨101, {}, {}⟩, ⟨101, { body := [7] }, {}⟩]
    (fun _ => (⟨4096, []⟩, ⟨8192, []⟩)) [([0xe8, 0, 0], ⟨4096, []⟩), ([0, 0, 0, 0, 0, 0xe8, 0], ⟨4096, []⟩),
      ([0, 0, 0, 0, 0, 1, 7], ⟨8192, []⟩)] [[0xe8, 0, 0, 0, 0, 0, 0, 0], [0xe8, 0, 0, 0, 0, 0, 0, 1, 7]]
    (by decide) (by decide +kernel) (by decide)).mpr ⟨by decide, by decide, by decide, by decide, trivial⟩

/-- A single message with an empty body is never delivered. -/
theorem empty_body_not_delivered :
    encoded (fun _ => (⟨4096, []⟩, ⟨8192, []⟩)) ⟨101, {}, {}⟩ = some [0xe8, 0, 0, 0, 0, 0, 0, 0] ∧
      ¬Delivers ⟨protocolTcpServer, {}, {}⟩ [([0xe8, 0, 0, 0, 0, 0, 0, 0], ⟨4096, []⟩)] [[]] := by
  refine ⟨by decide +kernel, ?_⟩
  rintro ⟨final, hrun, hdelivered, _, _⟩
  have hnothing : (([([0xe8, 0, 0, 0, 0, 0, 0, 0], ⟨4096, []⟩)] : List (Bytes × Block)).foldlM receive
      { protocol := ⟨protocolTcpServer, {}, {}⟩ }).map Receiver.delivered = some [] := by decide +kernel
  rw [hrun, Option.map_some, hdelivered] at hnothing
  cases hnothing

end Receiver

end CoServer
