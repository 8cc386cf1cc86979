import CoServer.Upstream.UserOwned

/-! # The socket while user code runs

`yield_thirdsocket` and `yield_timer` expect the socket of the connection to be
registered for `EPOLLRDHUP` at most.  Every stage that adds an event deletes it
again on every way out but one: the connection that could not be connected is
still registered for writing when the attempt is finalized. -/

namespace CoServer

open UpstreamAttempt (upstreamInit upstreamWrite upstreamRead upstreamProcess readLoop writeLoop deferred
  writeCleanup connectServer)

/-- `epoll_ctl` succeeds in all calls. -/
def AttemptCalls.accepted (self : AttemptCalls) : Bool :=
  self.initAdd && self.writeAdd && self.writeDel && self.readAdd && self.readDel

def FreeCalls.accepted (self : FreeCalls) : Bool := self.del && self.keepAdd && self.keepDel

def RequestCalls.accepted (self : RequestCalls) : Bool :=
  self.readAdd && self.readDel && self.writeAdd && self.writeDel && self.free.accepted

def UserEvent.accepted : UserEvent → Bool
  | .accept _ | .addUpstream _ _ => true
  | .clientRequest _ _ calls | .processReturns _ _ calls => calls.accepted
  | .destroyReturns _ calls | .idleClosed _ calls => calls.accepted
  | .attempt _ calls _ _ _ free => calls.accepted && free.accepted

namespace EpollEvents

/-- The check of `yield_thirdsocket` and `yield_timer`: `m_epollCurEvents & ~EPOLLRDHUP` is `0`. -/
def Unarmed (self : EpollEvents) : Prop := self.diff { epollrdhup := true } = .zero

theorem unarmed_iff {self : EpollEvents} : self.Unarmed ↔ self.epollin = false ∧ self.epollout = false ∧
    self.epollerr = false ∧ self.epollhup = false := by
  simp [Unarmed, diff, zero]

theorem unarmed_zero : zero.Unarmed := rfl

end EpollEvents

/-! ## One attempt -/

theorem modifyConnection_mask (self : CoConnection) (eventType : EventType) (eventOP : EpollEvents) :
    (self.modifyConnection eventType eventOP true).2.epollCurEvents =
      eventType.change self.epollCurEvents eventOP := by
  unfold CoConnection.modifyConnection
  dsimp only
  split
  · rename_i same
    exact same.1.symm
  · rfl

theorem modifyConnection_ok (self : CoConnection) (eventType : EventType) (eventOP : EpollEvents) :
    (self.modifyConnection eventType eventOP true).1 = coOk := by
  unfold CoConnection.modifyConnection
  dsimp only
  split <;> rfl

section
variable {self : UpstreamAttempt} {calls : AttemptCalls}

/-- Unarmed by every cleanup and by what follows it. -/
theorem deferred_unarmed {cleanup next : UpstreamAttempt → UpstreamAttempt}
    {body : Option DeferReturn × UpstreamAttempt} (ended : (deferred cleanup next body).suspended = false)
    (cleaned : (cleanup body.2).connection.epollCurEvents.Unarmed)
    (goesOn : ∀ attempt, attempt.connection.epollCurEvents.Unarmed → (next attempt).suspended = false →
      (next attempt).connection.epollCurEvents.Unarmed) :
    (deferred cleanup next body).connection.epollCurEvents.Unarmed := by
  obtain ⟨returned, attempt⟩ := body
  cases returned with
  | none => cases ended
  | some returned =>
    cases returned with
    | finalize retCode => exact cleaned
    | next => exact goesOn _ cleaned ended

theorem upstreamProcess_connection : (upstreamProcess calls self).connection = self.connection := by
  unfold upstreamProcess
  split
  · rfl
  · split <;> rfl

theorem readLoop_connection (turns : List ReadTurn) (self : UpstreamAttempt) :
    (readLoop turns self).2.connection = self.connection := by
  induction turns generalizing self with
  | nil => rfl
  | cons turn turns ih =>
    simp only [readLoop]
    repeat' split
    all_goals first | rfl | exact ih _

theorem writeLoop_connection (rets : List Int) (size : Nat) (self : UpstreamAttempt) :
    (writeLoop rets size self).2.connection = self.connection := by
  induction rets generalizing size self with
  | nil => cases size <;> rfl
  | cons ret rets ih =>
    cases size with
    | zero => rfl
    | succ size =>
      simp only [writeLoop]
      split
      · exact ih _ _
      · rfl

theorem writeCleanup_connection : (writeCleanup calls self).connection =
    (self.connection.modifyConnection .del coEventOut calls.writeDel).2 := by
  simp only [writeCleanup]
  split <;> rfl

/-- What is deleted in the end is not registered any more. -/
theorem upstreamRead_unarmed (accepted : calls.accepted = true) (attempt : UpstreamAttempt)
    (unarmed : attempt.connection.epollCurEvents.Unarmed)
    (ended : (upstreamRead calls attempt).suspended = false) :
    (upstreamRead calls attempt).connection.epollCurEvents.Unarmed := by
  simp only [AttemptCalls.accepted, Bool.and_eq_true] at accepted
  obtain ⟨⟨-, readAdd⟩, readDel⟩ := accepted
  simp only [upstreamRead] at ended ⊢
  apply deferred_unarmed ended
  · rw [readDel, UpstreamAttempt.modifyConnection_connection, modifyConnection_mask]
    rw [EpollEvents.unarmed_iff] at unarmed ⊢
    split <;> simp [readLoop_connection, readAdd, modifyConnection_mask, EventType.change, EpollEvents.union,
      EpollEvents.diff, coEventIn, unarmed]
  · intro attempt unarmed ended
    rw [upstreamProcess_connection]
    exact unarmed

theorem upstreamWrite_unarmed (accepted : calls.accepted = true) (attempt : UpstreamAttempt)
    (noRead : attempt.connection.epollCurEvents.diff coEventWrite = .zero)
    (ended : (upstreamWrite calls attempt).suspended = false) :
    (upstreamWrite calls attempt).connection.epollCurEvents.Unarmed := by
  have all := accepted
  simp only [AttemptCalls.accepted, Bool.and_eq_true] at all
  obtain ⟨⟨⟨⟨-, writeAdd⟩, writeDel⟩, -⟩, -⟩ := all
  simp only [upstreamWrite] at ended ⊢
  apply deferred_unarmed ended
  · rw [writeCleanup_connection, writeDel, modifyConnection_mask, EpollEvents.unarmed_iff]
    simp only [EpollEvents.diff, coEventWrite, EpollEvents.zero, EpollEvents.mk.injEq] at noRead
    split <;> simp_all [writeLoop_connection, modifyConnection_mask, EventType.change, EpollEvents.union,
      EpollEvents.diff, coEventOut]
  · exact upstreamRead_unarmed accepted

/-- The attempt does not come to its end on a connection that could not be connected. -/
def Connects (calls : AttemptCalls) (connection : CoConnection) : Prop :=
  connection.readEvent.flagActive = true ∨ ∀ ret, calls.clientConnect = some ret → ret = coOk

theorem upstreamInit_unarmed (accepted : calls.accepted = true) {connection : CoConnection}
    (unarmed : connection.epollCurEvents.Unarmed) (connects : Connects calls connection)
    (ended : (upstreamInit calls { connection }).suspended = false) :
    (upstreamInit calls { connection }).connection.epollCurEvents.Unarmed := by
  have all := accepted
  simp only [AttemptCalls.accepted, Bool.and_eq_true] at all
  obtain ⟨⟨⟨⟨initAdd, -⟩, -⟩, -⟩, -⟩ := all
  rw [EpollEvents.unarmed_iff] at unarmed
  unfold upstreamInit at ended ⊢
  dsimp only at ended ⊢
  by_cases reused : connection.readEvent.flagActive = true
  · rw [if_pos reused] at ended ⊢
    apply upstreamWrite_unarmed accepted _ _ ended
    simp [unarmed, EpollEvents.diff, EpollEvents.zero, coEventWrite]
  · rw [if_neg reused] at ended ⊢
    have connects := connects.resolve_left reused
    simp only [connectServer, initAdd, UpstreamAttempt.modifyConnection_ret, modifyConnection_ok,
      ne_eq, not_true_eq_false, if_false] at ended ⊢
    cases returned : calls.clientConnect with
    | none => simp [returned, deferred] at ended
    | some ret =>
      cases connects ret returned
      simp only [returned, not_true_eq_false, if_false, deferred] at ended ⊢
      apply upstreamWrite_unarmed accepted _ _ ended
      simp [modifyConnection_mask, unarmed, EventType.change, EpollEvents.union, EpollEvents.diff,
        EpollEvents.zero, coEventWrite]

/-- The way out that leaves the connection registered for writing. -/
theorem upstreamInit_armed (accepted : calls.accepted = true) {connection : CoConnection}
    (apart : ¬Connects calls connection) :
    (upstreamInit calls { connection }).finalizedWith = some coError ∧
      ¬(upstreamInit calls { connection }).connection.epollCurEvents.Unarmed := by
  simp only [AttemptCalls.accepted, Bool.and_eq_true] at accepted
  obtain ⟨⟨⟨⟨initAdd, -⟩, -⟩, -⟩, -⟩ := accepted
  simp only [Connects, not_or, not_forall] at apart
  obtain ⟨fresh, ret, returned, failed⟩ := apart
  unfold upstreamInit
  dsimp only
  rw [if_neg fresh]
  simp only [connectServer, initAdd, UpstreamAttempt.modifyConnection_ret, modifyConnection_ok,
    ne_eq, not_true_eq_false, if_false, returned, failed, not_false_eq_true, if_true, deferred]
  constructor
  · rfl
  · intro unarmed
    have writes := (EpollEvents.unarmed_iff.1 unarmed).2.1
    simp [UpstreamAttempt.finalize, modifyConnection_mask, EventType.change, EpollEvents.union,
      coEventWrite] at writes

end

/-! ## One request -/

section
variable {object : CoConnection} {calls : RequestCalls} {retCode ret : Int} {after : CoConnection}

theorem requestRead_unarmed (accepted : calls.accepted = true)
    (reads : object.epollCurEvents.diff coEventRead = .zero)
    (done : object.requestRead calls = some (ret, after)) : after.epollCurEvents.Unarmed := by
  simp only [RequestCalls.accepted, Bool.and_eq_true] at accepted
  obtain ⟨⟨⟨⟨readAdd, readDel⟩, -⟩, -⟩, -⟩ := accepted
  simp only [CoConnection.requestRead] at done
  obtain ⟨result, -, same⟩ := Option.map_eq_some_iff.1 done
  cases same
  rw [readDel, modifyConnection_mask, readAdd, modifyConnection_mask, EpollEvents.unarmed_iff]
  simp only [EpollEvents.diff, coEventRead, EpollEvents.zero, EpollEvents.mk.injEq] at reads
  simp_all [EventType.change, EpollEvents.union, EpollEvents.diff, coEventIn, coEventRead]

theorem requestWrite_unarmed (accepted : calls.accepted = true) (unarmed : object.epollCurEvents.Unarmed)
    (done : object.requestWrite calls retCode = some (ret, after)) : after.epollCurEvents.Unarmed := by
  simp only [RequestCalls.accepted, Bool.and_eq_true] at accepted
  obtain ⟨⟨⟨-, writeAdd⟩, writeDel⟩, -⟩ := accepted
  simp only [CoConnection.requestWrite] at done
  obtain ⟨result, -, same⟩ := Option.map_eq_some_iff.1 done
  cases same
  rw [writeDel, modifyConnection_mask, writeAdd, modifyConnection_mask]
  rw [EpollEvents.unarmed_iff] at unarmed ⊢
  simp [unarmed, EventType.change, EpollEvents.union, EpollEvents.diff, coEventOut]

end

/-! ## Places -/

/-- What a connection may be registered for, by where it is. -/
def ConnPlace.Fits (stages : Nat → Stage) (events : EpollEvents) : ConnPlace → Prop
  | .pool => events = .zero
  | .client => events.diff coEventRead = .zero
  | .reuse => events.Unarmed
  -- a connection that is still registered for writing is closed soon
  | .held request => events.Unarmed ∨ ∃ retCode, stages request = .userDestroy retCode ∧ retCode ≠ coOk

structure SocketInv (run : UserRun) : Prop where
  user : UserInv run
  fits : ∀ connection, (run.place connection).Fits (fun request => (run.requests request).stage)
    (run.objects connection).epollCurEvents

section
variable {object : CoConnection} {calls : FreeCalls} {retCode : Int} {stages : Nat → Stage}

theorem close_fits (accepted : calls.accepted = true) :
    (object.close calls).2.Fits stages (object.close calls).1.epollCurEvents := by
  simp only [FreeCalls.accepted, Bool.and_eq_true] at accepted
  obtain ⟨⟨del, -⟩, -⟩ := accepted
  show (object.delConnection calls.del).epollCurEvents = .zero
  unfold CoConnection.delConnection
  split
  · assumption
  · simp [del, CoCycle.registered]

theorem freeRequest_fits (accepted : calls.accepted = true)
    (was : object.epollCurEvents.Unarmed ∨ retCode ≠ coOk) :
    (object.freeRequest calls retCode).2.Fits stages (object.freeRequest calls retCode).1.epollCurEvents := by
  unfold CoConnection.freeRequest
  split
  · exact close_fits accepted
  · rename_i done
    have unarmed := EpollEvents.unarmed_iff.1 (was.resolve_right done)
    simp only [FreeCalls.accepted, Bool.and_eq_true] at accepted
    obtain ⟨⟨-, keepAdd⟩, keepDel⟩ := accepted
    simp [ConnPlace.Fits, keepAdd, keepDel, modifyConnection_mask, CoConnection.resetRequest, unarmed,
      EventType.change, EpollEvents.union, EpollEvents.diff, EpollEvents.zero, coEventIn, coEventOut,
      coEventRead]

theorem freeUpstream_fits (accepted : calls.accepted = true)
    (was : object.epollCurEvents.Unarmed ∨ retCode ≠ coOk) :
    (object.freeUpstream calls retCode).2.Fits stages
      (object.freeUpstream calls retCode).1.epollCurEvents := by
  unfold CoConnection.freeUpstream
  split
  · exact close_fits accepted
  · rename_i kept
    have unarmed := EpollEvents.unarmed_iff.1 (was.resolve_right fun failed => kept (.inl failed))
    simp only [FreeCalls.accepted, Bool.and_eq_true] at accepted
    obtain ⟨-, keepDel⟩ := accepted
    simp only [ConnPlace.Fits, keepDel, modifyConnection_mask, EpollEvents.unarmed_iff]
    simp [CoConnection.resetRequest, unarmed, EventType.change, EpollEvents.union, EpollEvents.diff,
      coEventIn, coEventOut]

end

/-! ## Any step -/

section
variable {run next : UserRun} {request connection : Nat} {record : UserRequest} {object : CoConnection}
  {place : ConnPlace} {retCode : Int}

theorem ConnPlace.Fits.congr {stages after : Nat → Stage} {events : EpollEvents}
    (fits : place.Fits stages events) (same : ∀ request, place = .held request → after request = stages request) :
    place.Fits after events := by
  cases place with
  | pool | client | reuse => exact fits
  | held request =>
    obtain unarmed | ⟨retCode, staged, failed⟩ := fits
    · exact .inl unarmed
    · exact .inr ⟨retCode, (same request rfl).trans staged, failed⟩

/-- All connections fit. -/
def FitsAll (run : UserRun) : Prop :=
  ∀ connection, (run.place connection).Fits (fun request => (run.requests request).stage)
    (run.objects connection).epollCurEvents

theorem FitsAll.changeIdle (all : FitsAll run)
    (fits : place.Fits (fun request => (run.requests request).stage) object.epollCurEvents) :
    FitsAll (run.changeIdle connection object place) := by
  intro other
  by_cases same : other = connection
  · subst same
    simpa [UserRun.changeIdle] using fits
  · simpa only [UserRun.changeIdle, Function.update_of_ne same] using all other

theorem FitsAll.change (all : FitsAll run) (paired : Paired run) (was : Ready run request connection)
    (fits : place.Fits (fun other => if other = request then record.stage else (run.requests other).stage)
      object.epollCurEvents) : FitsAll (run.change request connection record object place) := by
  intro other
  by_cases same : other = connection
  · subst same
    simp only [UserRun.change, Function.update_self]
    apply fits.congr
    intro holder _
    by_cases isRequest : holder = request
    · subst isRequest
      simp
    · simp [isRequest]
  · simp only [UserRun.change, Function.update_of_ne same]
    apply (all other).congr
    intro holder held
    rw [Function.update_of_ne (paired.holder_apart was held same)]

theorem FitsAll.freeConnection (all : FitsAll run) (paired : Paired run)
    (was : Ready run request record.connection) {calls : FreeCalls} (accepted : calls.accepted = true)
    (before : object.epollCurEvents.Unarmed ∨ retCode ≠ coOk) :
    FitsAll (run.freeConnection request record object retCode calls) := by
  simp only [UserRun.freeConnection]
  split
  · exact all.change paired was (freeUpstream_fits accepted before)
  · exact all.change paired was (freeRequest_fits accepted before)

theorem FitsAll.finalize (all : FitsAll run) (paired : Paired run)
    (was : Ready run request record.connection) {calls : FreeCalls} (accepted : calls.accepted = true)
    (before : object.epollCurEvents.Unarmed ∨ retCode ≠ coOk) :
    FitsAll (run.finalize request record object retCode calls) := by
  unfold UserRun.finalize
  split
  · apply all.change paired was
    obtain unarmed | failed := before
    · exact .inl unarmed
    · exact .inr ⟨retCode, by simp, failed⟩
  · exact all.freeConnection paired was accepted before

theorem FitsAll.events_pool (all : FitsAll run) (isPool : run.place connection = .pool) :
    (run.objects connection).epollCurEvents = .zero := by
  have fits := all connection
  rw [isPool] at fits
  exact fits

theorem FitsAll.events_client (all : FitsAll run) (isClient : run.place connection = .client) :
    (run.objects connection).epollCurEvents.diff coEventRead = .zero := by
  have fits := all connection
  rw [isClient] at fits
  exact fits

theorem FitsAll.unarmed_of_free (all : FitsAll run)
    (free : run.place connection = .pool ∨ run.place connection = .reuse) :
    (run.objects connection).epollCurEvents.Unarmed := by
  cases free with
  | inl isPool =>
    rw [all.events_pool isPool]
    exact EpollEvents.unarmed_zero
  | inr isReuse =>
    have fits := all connection
    rw [isReuse] at fits
    exact fits

theorem FitsAll.givenBack (all : FitsAll run) (paired : Paired run)
    (was : Ready run request record.connection) {calls : FreeCalls} (accepted : calls.accepted = true)
    (before : object.epollCurEvents.Unarmed ∨ retCode ≠ coOk) :
    FitsAll (run.givenBack request record object retCode calls) :=
  all.change paired was (freeUpstream_fits accepted before)

theorem awake_of_finalizedWith {attempt : UpstreamAttempt} (finalized : attempt.finalizedWith = some retCode) :
    attempt.suspended = false := by
  unfold UpstreamAttempt.finalizedWith at finalized
  split at finalized
  · cases finalized
  · rename_i awake
    exact (Bool.not_eq_true _).mp awake

/-- An attempt that comes to its end. -/
theorem attempt_before {calls : AttemptCalls} (accepted : calls.accepted = true)
    (unarmed : object.epollCurEvents.Unarmed)
    (finalized : (upstreamInit calls { connection := object }).finalizedWith = some retCode) :
    (upstreamInit calls { connection := object }).connection.epollCurEvents.Unarmed ∨ retCode ≠ coOk := by
  by_cases connects : Connects calls object
  · left
    exact upstreamInit_unarmed accepted unarmed connects (awake_of_finalizedWith finalized)
  · right
    cases finalized.symm.trans (upstreamInit_armed accepted connects).1
    decide

theorem SocketInv.unarmed (inv : SocketInv run) (owning : (run.requests request).stage.Owning)
    (notDestroy : ∀ retCode, (run.requests request).stage = .userDestroy retCode → retCode = coOk) :
    (run.objects (run.requests request).connection).epollCurEvents.Unarmed := by
  have fits := inv.fits (run.requests request).connection
  rw [inv.user.paired.held request owning] at fits
  obtain unarmed | ⟨retCode, staged, failed⟩ := fits
  · exact unarmed
  · exact absurd (notDestroy retCode staged) failed

theorem RequestCalls.accepted_free {calls : RequestCalls} (accepted : calls.accepted = true) :
    calls.free.accepted = true := (Bool.and_eq_true_iff.1 accepted).2

theorem SocketInv.step {event : UserEvent} (inv : SocketInv run) (accepted : event.accepted = true)
    (stepped : run.step event = some next) : SocketInv next := by
  refine ⟨inv.user.step stepped, ?_⟩
  have all : FitsAll run := inv.fits
  have allocated : FitsAll { run with allocated := run.allocated + 1 } := inv.fits
  have paired := inv.user.paired
  cases UserRun.step_cases stepped with
  | accept isPool =>
    apply all.changeIdle
    rw [all.events_pool isPool]
    rfl
  | @processes connection _ _ _ isClient reads =>
    apply allocated.change inv.user.allocate.paired
    · exact inv.user.ready_allocated (by simp [isClient, ConnPlace.Idle])
    · exact .inl (requestRead_unarmed accepted (all.events_client isClient) reads)
  | @readFails connection _ calls _ _ _ _ isClient reads writes =>
    have unarmed := requestRead_unarmed accepted (all.events_client isClient) reads
    apply allocated.finalize inv.user.allocate.paired _ (RequestCalls.accepted_free accepted)
    · exact .inl (requestWrite_unarmed accepted unarmed writes)
    · exact inv.user.ready_allocated (by simp [isClient, ConnPlace.Idle])
  | @processReturns request _ _ calls _ processing writes =>
    have owning : (run.requests request).stage.Owning := by simp [processing, Stage.Owning]
    have unarmed := inv.unarmed owning (by simp [processing])
    apply all.finalize paired (paired.ready owning) (RequestCalls.accepted_free accepted)
    exact .inl (requestWrite_unarmed accepted unarmed writes)
  | @destroyReturns request retCode _ staged =>
    have owning : (run.requests request).stage.Owning := by simp [staged, Stage.Owning]
    apply all.freeConnection paired (paired.ready owning) accepted
    by_cases done : retCode = coOk
    · exact .inl (inv.unarmed owning (by simp [staged, done]))
    · exact .inr done
  | @releasedReturns request _ staged =>
    intro connection
    apply (all connection).congr
    intro holder held
    have owning := (paired.assigned connection holder held).2
    have apart : holder ≠ request := by
      intro same
      rw [same, staged] at owning
      exact owning
    simp only [Function.update_of_ne apart]
  | addUpstream free =>
    apply allocated.change inv.user.allocate.paired (inv.user.ready_allocated (idle_of_free free))
    exact .inl (all.unarmed_of_free free)
  | @attemptEnds request _ _ _ _ _ _ waits finalized =>
    obtain ⟨attempts, frees⟩ := Bool.and_eq_true_iff.1 accepted
    have owning : (run.requests request).stage.Owning := by simp [waits, Stage.Owning]
    apply all.finalize paired (paired.ready owning) frees
    exact attempt_before attempts (inv.unarmed owning (by simp [waits])) finalized
  | @retryFails request _ _ _ _ _ _ _ waits finalized =>
    obtain ⟨attempts, frees⟩ := Bool.and_eq_true_iff.1 accepted
    have owning : (run.requests request).stage.Owning := by simp [waits, Stage.Owning]
    apply all.change paired (paired.ready owning)
    apply freeUpstream_fits frees
    exact attempt_before attempts (inv.unarmed owning (by simp [waits])) finalized
  | @retries request _ _ _ _ _ _ _ waits finalized _ between found =>
    subst between
    obtain ⟨attempts, frees⟩ := Bool.and_eq_true_iff.1 accepted
    have owning : (run.requests request).stage.Owning := by simp [waits, Stage.Owning]
    have before := attempt_before attempts (inv.unarmed owning (by simp [waits])) finalized
    have left := all.givenBack paired (paired.ready owning) frees before
    apply left.change (paired.givenBack (paired.ready owning)) (ready_givenBack found)
    exact .inl (left.unarmed_of_free found)
  | idleClosed => exact all.changeIdle (close_fits accepted)

/-! ## While user code runs -/

/-- A function of the user is executing on the connection of its request, which is still the
    request's own or was given back and has gone nowhere else. -/
def Executes (run : UserRun) (request : Nat) : Prop :=
  (run.requests request).stage.UserCode ∧
    (run.place (run.requests request).connection = .held request ∨
      run.place (run.requests request).connection = .pool)

/-- Its socket is registered for `EPOLLRDHUP` at most. -/
def UserUnarmed (run : UserRun) : Prop :=
  ∀ request, Executes run request →
    (run.objects (run.requests request).connection).epollCurEvents.Unarmed

/-- An attempt of a request with `m_userDestroy` connects its connection, or is retried. -/
def ConnectsOrRetries (run : UserRun) : UserEvent → Prop
  | .attempt request calls parentDying retryMaxnum _ _ =>
    let record := run.requests request
    record.userDestroy = true → Connects calls (run.objects record.connection) ∨
      UserRun.needRetry record coError parentDying retryMaxnum = true
  | _ => True

/-- Only `m_userDestroy` can find its socket armed. -/
def DestroyUnarmed (run : UserRun) : Prop :=
  ∀ request retCode, (run.requests request).stage = .userDestroy retCode →
    (run.objects (run.requests request).connection).epollCurEvents.Unarmed

theorem userUnarmed_iff (inv : SocketInv run) : UserUnarmed run ↔ DestroyUnarmed run := by
  constructor
  · intro unarmed request retCode staged
    have held := inv.user.paired.held request (by simp [staged, Stage.Owning])
    exact unarmed request ⟨by simp [staged, Stage.UserCode], .inl held⟩
  · rintro unarmed request ⟨calls, isHeld | isPool⟩
    · cases staged : (run.requests request).stage with
      | waiting | ended => simp [staged, Stage.UserCode] at calls
      | userProcess => exact inv.unarmed (by simp [staged, Stage.Owning]) (by simp [staged])
      | userDestroy retCode => exact unarmed request retCode staged
      | released =>
        have owning := (inv.user.paired.assigned _ request isHeld).2
        rw [staged] at owning
        exact owning.elim
    · exact FitsAll.unarmed_of_free inv.fits (.inl isPool)

theorem DestroyUnarmed.change (unarmed : DestroyUnarmed run) (paired : Paired run)
    (was : Ready run request connection) (own : ∀ retCode, record.stage = .userDestroy retCode →
      record.connection = connection ∧ object.epollCurEvents.Unarmed) :
    DestroyUnarmed (run.change request connection record object place) := by
  intro holder retCode staged
  by_cases same : holder = request
  · subst same
    simp only [UserRun.change, Function.update_self] at staged ⊢
    obtain ⟨connected, own⟩ := own retCode staged
    rw [connected, Function.update_self]
    exact own
  · simp only [UserRun.change, Function.update_of_ne same] at staged ⊢
    have owning : (run.requests holder).stage.Owning := by simp [staged, Stage.Owning]
    rw [Function.update_of_ne (paired.connection_apart was owning same)]
    exact unarmed holder retCode staged

theorem DestroyUnarmed.changeIdle (unarmed : DestroyUnarmed run) (paired : Paired run)
    (was : (run.place connection).Idle) : DestroyUnarmed (run.changeIdle connection object place) := by
  intro request retCode staged
  have apart : (run.requests request).connection ≠ connection := by
    intro same
    apply was.apart request
    rw [← same]
    exact paired.held request (by
      simp only [UserRun.changeIdle] at staged
      simp [staged, Stage.Owning])
  simpa only [UserRun.changeIdle, Function.update_of_ne apart] using unarmed request retCode staged

theorem DestroyUnarmed.finalize (unarmed : DestroyUnarmed run) (paired : Paired run)
    (was : Ready run request record.connection) {calls : FreeCalls}
    (own : record.userDestroy = true → object.epollCurEvents.Unarmed) :
    DestroyUnarmed (run.finalize request record object retCode calls) := by
  unfold UserRun.finalize
  split
  · rename_i isSet
    exact unarmed.change paired was fun _ _ => ⟨rfl, own isSet⟩
  · exact unarmed.change paired was nofun

theorem DestroyUnarmed.step {event : UserEvent} (unarmed : DestroyUnarmed run) (inv : SocketInv run)
    (accepted : event.accepted = true) (condition : ConnectsOrRetries run event)
    (stepped : run.step event = some next) : DestroyUnarmed next := by
  have all : FitsAll run := inv.fits
  have allocated : DestroyUnarmed { run with allocated := run.allocated + 1 } := unarmed
  have paired := inv.user.paired
  cases UserRun.step_cases stepped with
  | accept isPool => exact unarmed.changeIdle paired (by simp [isPool, ConnPlace.Idle])
  | processes isClient =>
    apply allocated.change inv.user.allocate.paired
    · exact inv.user.ready_allocated (by simp [isClient, ConnPlace.Idle])
    · intro _ staged
      cases staged
  | readFails isClient reads writes =>
    have own := requestRead_unarmed accepted (all.events_client isClient) reads
    apply allocated.finalize inv.user.allocate.paired
    · exact inv.user.ready_allocated (by simp [isClient, ConnPlace.Idle])
    · exact fun _ => requestWrite_unarmed accepted own writes
  | @processReturns request _ _ _ _ processing writes =>
    have owning : (run.requests request).stage.Owning := by simp [processing, Stage.Owning]
    have own := inv.unarmed owning (by simp [processing])
    apply unarmed.finalize paired (paired.ready owning)
    exact fun _ => requestWrite_unarmed accepted own writes
  | destroyReturns staged =>
    simp only [UserRun.freeConnection]
    apply unarmed.change paired
    · exact paired.ready (by simp [staged, Stage.Owning])
    · intro _ destroying
      cases destroying
  | @releasedReturns request =>
    intro holder retCode destroys
    by_cases same : holder = request
    · subst same
      simp at destroys
    · simp only [Function.update_of_ne same] at destroys ⊢
      exact unarmed holder retCode destroys
  | addUpstream free =>
    apply allocated.change inv.user.allocate.paired (inv.user.ready_allocated (idle_of_free free))
    intro _ staged
    cases staged
  | @attemptEnds request _ _ _ _ _ _ waits finalized last =>
    obtain ⟨attempts, -⟩ := Bool.and_eq_true_iff.1 accepted
    have owning : (run.requests request).stage.Owning := by simp [waits, Stage.Owning]
    have before := inv.unarmed owning (by simp [waits])
    apply unarmed.finalize paired (paired.ready owning)
    intro isSet
    obtain connects | again := condition isSet
    · exact upstreamInit_unarmed attempts before connects (awake_of_finalizedWith finalized)
    · by_contra armed
      -- then the attempt failed with the code that is retried
      have apart : ¬Connects _ (run.objects (run.requests request).connection) := fun connects =>
        armed (upstreamInit_unarmed attempts before connects (awake_of_finalizedWith finalized))
      cases finalized.symm.trans (upstreamInit_armed attempts apart).1
      exact last again
  | @retryFails request _ _ _ _ _ stage _ waits _ _ destroys =>
    apply unarmed.change paired
    · exact paired.ready (by simp [waits, Stage.Owning])
    · intro _ staged
      dsimp only at staged
      split at destroys <;> simp [destroys.1] at staged
  | @retries request _ _ _ _ _ _ _ waits _ _ between found =>
    subst between
    have was := @Paired.ready _ request paired (by simp [waits, Stage.Owning])
    apply DestroyUnarmed.change _ (paired.givenBack was) (ready_givenBack found)
    · intro _ staged
      cases staged
    · exact unarmed.change paired was fun _ staged => by cases staged
  | idleClosed idle => exact unarmed.changeIdle paired (idle_of_open idle)

/-- The connection that could not be connected is handed to `m_userDestroy` as it is. -/
theorem connectsOrRetries_of_unarmed {event : UserEvent} (accepted : event.accepted = true)
    (stepped : run.step event = some next) (unarmed : DestroyUnarmed next) : ConnectsOrRetries run event := by
  cases UserRun.step_cases stepped with
  | @attemptEnds request _ _ _ retCode _ _ _ finalized last =>
    intro isSet
    by_contra neither
    obtain ⟨attempts, -⟩ := Bool.and_eq_true_iff.1 accepted
    obtain ⟨-, armed⟩ := upstreamInit_armed attempts (not_or.1 neither).1
    have own := unarmed request retCode (by simp [UserRun.finalize, isSet, UserRun.change])
    simp only [UserRun.finalize, isSet, if_true, UserRun.change, Function.update_self] at own
    exact armed own
  | @retryFails request _ _ _ _ _ _ _ _ finalized again | @retries request _ _ _ _ _ _ _ _ finalized again =>
    intro isSet
    by_contra neither
    obtain ⟨attempts, -⟩ := Bool.and_eq_true_iff.1 accepted
    obtain ⟨finalizedSo, -⟩ := upstreamInit_armed attempts (not_or.1 neither).1
    cases finalized.symm.trans finalizedSo
    exact (not_or.1 neither).2 again
  | accept | processes | readFails | processReturns | destroyReturns | releasedReturns | addUpstream
  | idleClosed => trivial

end

/-! ## Runs -/

/-- A step in which `epoll_ctl` succeeds. -/
def UserRun.acceptedStep (self : UserRun) (event : UserEvent) : Option UserRun :=
  if event.accepted then self.step event else none

theorem socketInv_start {objects : Nat → CoConnection}
    (fresh : ∀ connection, (objects connection).epollCurEvents = .zero) : SocketInv { objects } where
  user := userInv_start objects
  fits := fresh

theorem SocketInv.acceptedStep {run next : UserRun} {event : UserEvent} (inv : SocketInv run)
    (stepped : run.acceptedStep event = some next) : SocketInv next := by
  obtain ⟨accepted, stepped⟩ := Option.ite_none_right_eq_some.1 stepped
  exact inv.step accepted stepped

/-- In any run from its start in which `epoll_ctl` succeeds: while user code runs, the socket of its
    connection is registered for `EPOLLRDHUP` at most, if and only if no request with `m_userDestroy`
    comes to its end because its connection could not be connected. -/
theorem user_code_unarmed_iff {objects : Nat → CoConnection}
    (fresh : ∀ connection, (objects connection).epollCurEvents = .zero) {events : List UserEvent}
    {final : UserRun} (ran : events.foldlM UserRun.acceptedStep { objects } = some final) :
    (∀ (first : List UserEvent) middle, first <+: events →
      first.foldlM UserRun.acceptedStep { objects } = some middle → UserUnarmed middle) ↔
        Lib.Along UserRun.acceptedStep ConnectsOrRetries { objects } events := by
  have start := socketInv_start fresh
  have inv : ∀ (first : List UserEvent) middle,
      first.foldlM UserRun.acceptedStep { objects } = some middle → SocketInv middle := by
    intro first middle reached
    exact Lib.run_keeps UserRun.acceptedStep SocketInv (fun _ _ _ inv stepped => inv.acceptedStep stepped)
      start reached
  have all : (∀ (first : List UserEvent) middle, first <+: events →
      first.foldlM UserRun.acceptedStep { objects } = some middle → UserUnarmed middle) ↔
      ∀ (first : List UserEvent) middle, first <+: events →
        first.foldlM UserRun.acceptedStep { objects } = some middle → DestroyUnarmed middle := by
    constructor
    · intro unarmed first middle starts reached
      exact (userUnarmed_iff (inv first middle reached)).1 (unarmed first middle starts reached)
    · intro unarmed first middle starts reached
      exact (userUnarmed_iff (inv first middle reached)).2 (unarmed first middle starts reached)
  rw [all]
  apply Lib.run_along_iff UserRun.acceptedStep
    (fun _ _ _ (inv : SocketInv _) stepped => inv.acceptedStep stepped) _ _ start nofun ran
  · intro run event next inv unarmed condition stepped
    obtain ⟨accepted, stepped⟩ := Option.ite_none_right_eq_some.1 stepped
    exact unarmed.step inv accepted condition stepped
  · intro run event next _ _ stepped unarmed
    obtain ⟨accepted, stepped⟩ := Option.ite_none_right_eq_some.1 stepped
    exact connectsOrRetries_of_unarmed accepted stepped unarmed

theorem detachedRequest_unarmed :
    (∀ (first : List UserEvent) middle, first <+: detachedRequest →
      first.foldlM UserRun.acceptedStep {} = some middle → UserUnarmed middle) ↔
        Lib.Along UserRun.acceptedStep ConnectsOrRetries {} detachedRequest :=
  user_code_unarmed_iff (fun _ => rfl) rfl

/-- The server of a detached request cannot be connected, and there is no retry. -/
def connectFails : List UserEvent :=
  [.addUpstream 0 true, .attempt 0 { clientConnect := some coError } false 0 none {}]

/-- `m_userDestroy` runs while the socket is registered for writing. -/
theorem user_code_armed : ¬∀ (events : List UserEvent) final,
    events.foldlM UserRun.acceptedStep {} = some final → UserUnarmed final := by
  intro all
  have unarmed := all connectFails _ rfl
  have own := unarmed 0 ⟨trivial, .inl rfl⟩
  exact absurd (EpollEvents.unarmed_iff.1 own).2.1 (by decide)

end CoServer
