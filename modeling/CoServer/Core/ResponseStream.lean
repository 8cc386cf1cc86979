import CoServer.Core.KeptRequests

/-! # What a client receives

`request_write` sends a response in as many pieces as the socket takes, and may
fail behind any of them.  Whatever fails, only the last response of a connection
can be cut, and then the connection is closed. -/

namespace CoServer

open ClientConnection

/-! ## One response -/

namespace CoBuffer

/-- Sent and unsent bytes together are the response. -/
theorem Valid.writeLoop_sent {self after : CoBuffer} {accepts : Nat → Nat} {turns call : Nat} {ret : Int}
    {sent out : Bytes} (valid : self.Valid) (ran : CoBuffer.writeLoop accepts turns call sent self = some (ret, out, after)) :
    ∃ unsent, out ++ unsent = sent ++ self.region ∧ (ret = coOk → unsent = []) ∧ after.Valid ∧
      after.totalSize = self.totalSize := by
  induction turns generalizing self sent call with
  | zero => cases ran
  | succ turns ih =>
    rw [CoBuffer.writeLoop] at ran
    by_cases more : self.bufferSize > 0
    · rw [if_pos more] at ran
      by_cases positive : self.tcpWrite (accepts call) > 0
      · rw [if_pos positive] at ran
        obtain ⟨unsent, whole, done, kept, total⟩ := ih (valid.bufferErase _) ran
        refine ⟨unsent, ?_, done, kept, total.trans (bufferErase_totalSize _ _)⟩
        rw [whole, valid.region_bufferErase, List.append_assoc, List.take_append_drop]
      · rw [if_neg positive] at ran
        cases ran
        exact ⟨after.region, rfl, fun failed => absurd failed (by decide), valid, rfl⟩
    · rw [if_neg more] at ran
      cases ran
      have nothing : after.region = [] := by
        rw [List.eq_nil_iff_length_eq_zero, valid.region_length]
        omega
      exact ⟨[], by simp [nothing], fun _ => rfl, valid, rfl⟩

end CoBuffer

section
variable {Protocol : Type} {side : ServerProtocol Protocol} {around : Surroundings Protocol}
  {answer : Protocol → Bytes} {waits : Protocol → Bytes → Bytes → Prop}

/-- The buffer of an open connection, of which at most `most` bytes are used. -/
structure Holds (most : Nat) (connection : ClientConnection Protocol) : Prop where
  valid : connection.coBuffer.Valid
  total : connection.coBuffer.totalSize < 2 ^ 63
  region : connection.coBuffer.region.length ≤ most

/-- A response was sent, or its front and the connection is closed. -/
def Responded (answer : Protocol → Bytes) (closed : Bool) (answered : AnsweredRequest Protocol) : Prop :=
  ∃ unsent, answered.sent ++ unsent = answer answered.processed ∧ (closed = false → unsent = [])

/-- Only the last response can be cut. -/
def InTurn (answer : Protocol → Bytes) (self : ClientConnection Protocol) : Prop :=
  ∀ before answered after, self.answered = before ++ answered :: after →
    Responded answer (after.isEmpty && self.closed) answered

section
variable {self next final : ClientConnection Protocol} {request : ReadRequest Protocol} {left : Bytes}
  {processed : Protocol} {retCode : Int} {arrival : Bytes × Block} {arrivals : List (Bytes × Block)} {most : Nat}

theorem Holds.requestWrite (holds : Holds most self) (law : side.Lawful answer waits)
    (short : (answer processed).length < 2 ^ 62)
    (ran : self.requestWrite side around request left processed retCode = some next) :
    ∃ sent, next.answered = self.answered ++ [{ request with left, processed, sent }] ∧
      Responded answer next.closed { request with left, processed, sent } ∧
      (next.closed = false → Holds 0 next) := by
  obtain ⟨clean, cleanTotal, empty⟩ := emptied holds.valid holds.total
  obtain ⟨code, out, encoded, outValid, region, outTotal⟩ := law.encode processed
    (around.memory self.answered.length) clean cleanTotal (by rw [empty]; simpa using short)
  rw [empty, List.nil_append] at region
  simp only [ClientConnection.requestWrite, encoded] at ran
  obtain ⟨⟨ret, sent, after⟩, wrote, rfl⟩ := Option.map_eq_some_iff.1 ran
  obtain ⟨unsent, whole, done, kept, total⟩ := outValid.writeLoop_sent wrote
  rw [List.nil_append, region] at whole
  refine ⟨sent, requestFinalize_answered _, ⟨unsent, whole, fun opened => done ?_⟩, fun opened => ?_⟩
  · -- a connection that is kept has sent everything
    by_contra failed
    rw [if_neg failed, requestFinalize_closed _ (by decide)] at opened
    cases opened
  · have ok : (if ret = coOk then retCode else coError) = coOk := by
      by_contra failed
      rw [requestFinalize_closed _ failed] at opened
      cases opened
    rw [ok]
    exact ⟨kept.reset, total ▸ outTotal, by simp [requestFinalize, ClientConnection.freeRequestConnection,
      ClientConnection.coBuffer, CoConnection.resetRequest]⟩

/-- What `recv` returned stands behind the rest, or the peer has closed. -/
theorem Holds.receive (holds : Holds most self) (room : most < 2 ^ 61) (size : arrival.1.length ≤ 4096) {ret : Int}
    {received : CoBuffer} (arrived : self.coBuffer.receive arrival = some (ret, received)) :
    Holds (most + arrival.1.length) (self.setBuffer received) := by
  have region := holds.region
  by_cases closes : arrival.1 = []
  · have used := holds.valid.region_length
    have need : self.coBuffer.bufferSize + bufferSize4096 < 2 ^ 62 := by
      unfold bufferSize4096
      omega
    obtain ⟨code, grown, expanded, total⟩ := holds.valid.bufferExpand_total (some arrival.2) holds.total need
    obtain ⟨kept, same, -⟩ := holds.valid.bufferExpand (by omega) expanded
    have buffer : received = grown := by
      simp only [CoBuffer.receive, expanded, closes, if_true] at arrived
      split at arrived <;> cases arrived <;> rfl
    subst buffer
    rw [← same] at region
    exact ⟨kept, total, region.trans (Nat.le_add_right _ _)⟩
  · obtain ⟨after, ran, valid, appended, total⟩ :=
      holds.valid.receive holds.total (by omega) (⟨closes, size⟩ : arrival.1 ≠ [] ∧ arrival.1.length ≤ 4096)
    rw [arrived] at ran
    cases ran
    refine ⟨valid, total, ?_⟩
    have length := congrArg List.length appended
    rw [List.length_append] at length
    exact (le_of_eq length).trans (Nat.add_le_add_right region _)

/-! ## The responses of a connection -/

theorem InTurn.append (inTurn : InTurn answer self) (opened : self.closed = false) {response : AnsweredRequest Protocol}
    (answered : next.answered = self.answered ++ [response]) (responded : Responded answer next.closed response) :
    InTurn answer next := by
  intro before older after split
  rw [answered] at split
  obtain ⟨rfl, rfl, rfl⟩ | ⟨rest, rfl, earlier⟩ : before = self.answered ∧ older = response ∧ after = [] ∨
      ∃ rest, after = rest ++ [response] ∧ self.answered = before ++ older :: rest := by
    obtain rfl | ⟨rest, last, rfl⟩ := List.eq_nil_or_concat after
    · obtain ⟨same, last⟩ := List.append_inj' split rfl
      cases last
      exact .inl ⟨same.symm, rfl, rfl⟩
    · rw [List.concat_eq_append, ← List.cons_append, ← List.append_assoc] at split
      obtain ⟨same, last⟩ := List.append_inj' split rfl
      cases last
      exact .inr ⟨rest, List.concat_eq_append, same⟩
  · simpa using responded
  · obtain ⟨unsent, whole, done⟩ := inTurn before older rest earlier
    exact ⟨unsent, whole, fun _ => done (by simp [opened])⟩

/-- A response follows those that were sent whole. -/
theorem Holds.responds (holds : Holds most self) (law : side.Lawful answer waits) (inTurn : InTurn answer self)
    (opened : self.closed = false) (ran : self.requestWrite side around request left processed retCode = some next)
    (short : ∀ answered ∈ next.answered, (answer answered.processed).length < 2 ^ 62) :
    InTurn answer next ∧ (next.closed = false → Holds 0 next) := by
  obtain ⟨_, recorded, -, -⟩ := requestWrite_inv ran
  obtain ⟨sent, answered, responded, kept⟩ := holds.requestWrite law
    (short _ (recorded ▸ List.mem_append_right _ (List.mem_singleton_self _))) ran
  exact ⟨inTurn.append opened answered responded, kept⟩

/-- One read, which `decode` takes from the front. -/
theorem Holds.read (holds : Holds most self) (law : side.Lawful answer waits)
    (shrinks : ∀ {protocol after : Protocol} {coBuffer left : CoBuffer} {ret : Int}, coBuffer.Valid →
      side.decode protocol coBuffer = some (ret, after, left) → left.region.length ≤ coBuffer.region.length)
    (room : most < 2 ^ 61) (size : arrival.1.length ≤ 4096) (inTurn : InTurn answer self) (opened : self.closed = false)
    (ran : self.read side around arrival = some next)
    (short : ∀ answered ∈ next.answered, (answer answered.processed).length < 2 ^ 62) :
    InTurn answer next ∧ (next.closed = false → Holds (most + arrival.1.length) next) := by
  have smaller : ∀ {after : ClientConnection Protocol}, Holds 0 after → Holds (most + arrival.1.length) after :=
    fun kept => ⟨kept.valid, kept.total, kept.region.trans (Nat.zero_le _)⟩
  simp only [ClientConnection.read, opened, Bool.false_eq_true, if_false, requestRead] at ran
  split at ran
  · cases ran
  · rename_i ret received arrived
    have received := holds.receive room size arrived
    split at ran
    · obtain ⟨responded, kept⟩ := received.responds law inTurn opened ran short
      exact ⟨responded, fun opened => smaller (kept opened)⟩
    · split at ran
      · cases ran
      · rename_i code protocol behind decoded
        obtain ⟨valid, total⟩ := law.decode received.valid decoded
        have behind : Holds (most + arrival.1.length) (self.setBuffer behind) :=
          ⟨valid, (le_of_eq total).trans_lt received.total, (shrinks received.valid decoded).trans received.region⟩
        split at ran
        · cases ran
          exact ⟨inTurn, fun _ => ⟨behind.valid, behind.total, behind.region⟩⟩
        · split at ran
          · obtain ⟨responded, kept⟩ := behind.responds law inTurn opened ran short
            exact ⟨responded, fun opened => smaller (kept opened)⟩
          · obtain ⟨responded, kept⟩ := behind.responds law inTurn opened ran short
            exact ⟨responded, fun opened => smaller (kept opened)⟩

theorem run_inTurn (law : side.Lawful answer waits)
    (shrinks : ∀ {protocol after : Protocol} {coBuffer left : CoBuffer} {ret : Int}, coBuffer.Valid →
      side.decode protocol coBuffer = some (ret, after, left) → left.region.length ≤ coBuffer.region.length)
    (holds : self.closed = false → Holds most self) (sizes : ∀ arrival ∈ arrivals, arrival.1.length ≤ 4096)
    (room : most + (arrivals.map (·.1.length)).sum < 2 ^ 61) (inTurn : InTurn answer self)
    (ran : arrivals.foldlM (read side around) self = some final)
    (short : ∀ answered ∈ final.answered, (answer answered.processed).length < 2 ^ 62) : InTurn answer final := by
  induction arrivals generalizing self most with
  | nil =>
    cases ran
    exact inTurn
  | cons arrival rest ih =>
    by_cases opened : self.closed = false
    · obtain ⟨next, stepped, goesOn⟩ := Lib.run_cons.1 ran
      rw [List.map_cons, List.sum_cons] at room
      -- what was answered so far is still recorded at the end
      obtain ⟨later, answered⟩ := run_answered goesOn
      obtain ⟨responded, kept⟩ := (holds opened).read law shrinks (by omega) (sizes _ List.mem_cons_self) inTurn opened
        stepped fun older mem => short older (answered ▸ List.mem_append_left _ mem)
      exact ih kept (fun arrival mem => sizes arrival (List.mem_cons_of_mem _ mem)) (by omega) responded goesOn
    · rw [run_closed (by simpa using opened) ran]
      exact inTurn

/-- All responses together: what is missing is missing at the end. -/
theorem InTurn.stream (inTurn : InTurn answer self) : ∃ unsent,
    (self.answered.map (·.sent)).flatten ++ unsent = (self.answered.map fun answered => answer answered.processed).flatten ∧
      (self.closed = false → unsent = []) := by
  obtain none | ⟨front, last, all⟩ := List.eq_nil_or_concat self.answered
  · exact ⟨[], by simp [none], fun _ => rfl⟩
  · rw [List.concat_eq_append] at all
    have whole : front.map (·.sent) = front.map fun answered => answer answered.processed :=
      List.map_congr_left fun older mem => by
        obtain ⟨before, after, rfl⟩ := List.append_of_mem mem
        rw [List.append_assoc, List.cons_append] at all
        obtain ⟨unsent, same, done⟩ := inTurn before older (after ++ [last]) all
        rw [← same, done (by simp), List.append_nil]
    obtain ⟨unsent, same, done⟩ := inTurn front last [] all
    refine ⟨unsent, ?_, by simpa using done⟩
    rw [all, List.map_append, List.map_append, whole, List.flatten_append, List.flatten_append, List.append_assoc]
    simpa using same

end

end

/-! ## TCP and HTTP -/

/-- In every run of reads from the connection only the last response can be cut. -/
def RespondsInTurn {Protocol : Type} (side : ServerProtocol Protocol) (answer : Protocol → Bytes)
    (connection : CoConnection) : Prop :=
  ∀ (around : Surroundings Protocol) (arrivals : List (Bytes × Block)) (final : ClientConnection Protocol),
    (∀ arrival ∈ arrivals, arrival.1.length ≤ 4096) → (arrivals.map (·.1.length)).sum < 2 ^ 61 →
    arrivals.foldlM (read side around) { connection } = some final →
    (∀ answered ∈ final.answered, (answer answered.processed).length < 2 ^ 62) → InTurn answer final

/-- Whatever the reads bring, the user's function returns and the socket takes. -/
theorem responses_in_turn {connection : CoConnection} (valid : connection.coBuffer.Valid)
    (total : connection.coBuffer.totalSize < 2 ^ 63) (empty : connection.coBuffer.region = []) :
    RespondsInTurn tcpServer tcpAnswer connection ∧
      ∀ order, RespondsInTurn (httpServer order) (httpAnswer order) connection := by
  have none : ∀ {Protocol : Type} (answer : Protocol → Bytes), InTurn answer { connection } :=
    fun _ before _ _ split => by simp at split
  have holds : ∀ {Protocol : Type}, Holds 0 ({ connection } : ClientConnection Protocol) :=
    ⟨valid, total, le_of_eq (congrArg List.length empty)⟩
  constructor
  · intro around arrivals final sizes room ran short
    refine run_inTurn tcpServer_lawful ?_ (fun _ => holds) sizes (by simpa using room) (none _)
      ran short
    intro protocol after coBuffer left ret valid decoded
    rcases CoProtocolTcp.decode_left decoded with ⟨-, -, rfl⟩ | ⟨-, rfl⟩ | ⟨-, taken, rfl⟩
    · exact Nat.le_refl _
    · simp
    · rw [valid.region_bufferErase, List.length_drop]
      exact Nat.sub_le _ _
  · intro order around arrivals final sizes room ran short
    refine run_inTurn httpServer_lawful ?_ (fun _ => holds) sizes (by simpa using room) (none _)
      ran short
    intro protocol after coBuffer left ret valid decoded
    obtain ⟨⟨code, message, behind⟩, side, same⟩ := Option.map_eq_some_iff.1 decoded
    cases same
    exact ((HttpSide.decode_leaves side).valid valid).2.2

/-- A socket that takes five bytes of each response, and three more of the first one. -/
def slowSurroundings : Surroundings CoProtocolTcp where
  userProcess _ protocol := (coOk, { protocol with respMsg := protocol.reqMsg })
  memory _ _ := ⟨4096, []⟩
  accepts count call := if call = 0 then 5 else if count = 0 then 4 else 0

/-- The second of two responses is cut. -/
theorem responses_in_turn_cut : ∃ final : ClientConnection CoProtocolTcp, InTurn tcpAnswer final ∧
    final.answered.map (·.sent) = [frame [7], (frame [8]).take 5] ∧ final.closed = true := by
  have ran : ([(frame [7], ⟨4096, []⟩), (frame [8], ⟨4096, []⟩)].foldlM (read tcpServer slowSurroundings)
      { connection := {} }).map (fun final => (final.answered.map (·.sent), final.closed,
        final.answered.map fun answered => (tcpAnswer answered.processed).length)) =
        some ([frame [7], (frame [8]).take 5], true, [9, 9]) := by
    decide +kernel
  obtain ⟨final, ran, seen⟩ := Option.map_eq_some_iff.1 ran
  simp only [Prod.mk.injEq] at seen
  obtain ⟨sent, closed, lengths⟩ := seen
  refine ⟨final, (responses_in_turn CoBuffer.valid_fresh (by decide) rfl).1 _ _ final (by decide) (by decide) ran ?_,
    sent, closed⟩
  intro answered mem
  have length : (tcpAnswer answered.processed).length ∈
      final.answered.map fun answered => (tcpAnswer answered.processed).length := List.mem_map_of_mem mem
  rw [lengths] at length
  simp only [List.mem_cons, List.not_mem_nil, or_false, or_self] at length
  omega

end CoServer
