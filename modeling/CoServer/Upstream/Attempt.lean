import CoServer.Core.Dispatcher

/-! # One attempt of a sub-request

`upstream_init`, `upstream_write`, `upstream_read` and `upstream_process` hand
over to each other and in the end to `upstream_finalize`.  They clean up in
destructors: a deferred cleanup runs when its function returns, and behind it the
call that `co_defer_return` was given.

The outcomes of the calls are given beforehand.  What the attempt does with its
request and its connection is written down in order, and `suspended` says that
the last of the calls has not returned. -/

namespace CoServer

namespace CoConnection

/-- `modify_connection` on the object; `accepted` is the outcome of `epoll_ctl`, should it be
    called. -/
def modifyConnection (self : CoConnection) (eventType : EventType) (eventOP : EpollEvents)
    (accepted : Bool) : Int × CoConnection :=
  let epollCurEvents := eventType.change self.epollCurEvents eventOP
  if epollCurEvents = self.epollCurEvents ∧ self.epollCurVersion = self.version then (coOk, self)
  else if !accepted then (coError, self)
  else (coOk, CoCycle.registered epollCurEvents self.version (epollCurEvents.meets coEventRead)
    (epollCurEvents.meets coEventOut) self)

end CoConnection

/-- This is what `modify_connection` does in its thread. -/
theorem CoCycle.modifyConnection_object (self : CoCycle) (connection : Nat) (eventType : EventType)
    (eventOP : EpollEvents) : ∃ accepted,
      (self.modifyConnection connection eventType eventOP).1 =
        ((self.objects connection).modifyConnection eventType eventOP accepted).1 ∧
      (self.modifyConnection connection eventType eventOP).2.objects connection =
        ((self.objects connection).modifyConnection eventType eventOP accepted).2 := by
  unfold CoCycle.modifyConnection CoConnection.modifyConnection
  dsimp only
  split
  · exact ⟨true, rfl, rfl⟩
  · split
    · exact ⟨false, by simp, by simp⟩
    · exact ⟨true, by simp, by simp⟩

/-! ## The calls of an attempt -/

/-- One turn of the loop that reads the response. -/
structure ReadTurn where
  bufferExpand : Int := coOk
  /-- `none`: has not returned -/
  tcpRead : Option Int
  bufferSizeExpand : Int := coOk
  decode : Int := coOk

/-- The outcomes of what one attempt calls; those of `epoll_ctl` by the places it is called
    from. -/
structure AttemptCalls where
  initAdd : Bool := true
  /-- `none`: has not returned -/
  clientConnect : Option Int := some coOk
  writeAdd : Bool := true
  /-- the size of the encoded request -/
  encode : Nat := 0
  tcpWrite : List Int := []
  writeDel : Bool := true
  readAdd : Bool := true
  turns : List ReadTurn := []
  readDel : Bool := true
  /-- `m_userProcess`, if it is set, and what it returned, if it has -/
  userProcess : Option (Option Int) := none

/-- What an attempt does with its request and its connection.  At calls of user code the
    registration of the connection is noted too. -/
inductive AttemptAction where
  | addTimer (kind : TimerKind)
  | delTimer (kind : TimerKind)
  | modifyConnection (eventType : EventType) (eventOP : EpollEvents)
  | clientConnect
  | encode
  | tcpWrite
  | bufferExpand
  | tcpRead
  | bufferSizeExpand
  | decode
  | userProcess (epollCurEvents : EpollEvents)
  /-- a time is written to the request -/
  | stamp
  | finalize (retCode : Int) (epollCurEvents : EpollEvents)
deriving DecidableEq

structure UpstreamAttempt where
  connection : CoConnection
  trace : List AttemptAction := []
  suspended : Bool := false

/-- What a function hands to `co_defer_return`. -/
inductive DeferReturn where
  | finalize (retCode : Int)
  | next
deriving DecidableEq

namespace UpstreamAttempt

def act (self : UpstreamAttempt) (action : AttemptAction) : UpstreamAttempt :=
  { self with trace := self.trace ++ [action] }

def modifyConnection (self : UpstreamAttempt) (eventType : EventType) (eventOP : EpollEvents)
    (accepted : Bool) : Int × UpstreamAttempt :=
  let (ret, connection) := self.connection.modifyConnection eventType eventOP accepted
  (ret, { self with connection }.act (.modifyConnection eventType eventOP))

@[simp] theorem act_connection (self : UpstreamAttempt) (action : AttemptAction) :
    (self.act action).connection = self.connection := rfl

@[simp] theorem modifyConnection_ret (self : UpstreamAttempt) (eventType : EventType)
    (eventOP : EpollEvents) (accepted : Bool) : (self.modifyConnection eventType eventOP accepted).1 =
      (self.connection.modifyConnection eventType eventOP accepted).1 := rfl

@[simp] theorem modifyConnection_connection (self : UpstreamAttempt) (eventType : EventType)
    (eventOP : EpollEvents) (accepted : Bool) :
    (self.modifyConnection eventType eventOP accepted).2.connection =
      (self.connection.modifyConnection eventType eventOP accepted).2 := rfl

/-- The call of `upstream_finalize`. -/
def finalize (self : UpstreamAttempt) (retCode : Int) : UpstreamAttempt :=
  self.act (.finalize retCode self.connection.epollCurEvents)

/-- The end of a function: the deferred cleanup first, then what it returns to.  Nothing runs
    while a call has not returned. -/
def deferred (cleanup next : UpstreamAttempt → UpstreamAttempt) :
    Option DeferReturn × UpstreamAttempt → UpstreamAttempt
  | (none, self) => { self with suspended := true }
  | (some (.finalize retCode), self) => (cleanup self).finalize retCode
  | (some .next, self) => next (cleanup self)

def upstreamProcess (calls : AttemptCalls) (self : UpstreamAttempt) : UpstreamAttempt :=
  match calls.userProcess with
  | none => self.finalize coOk
  | some returned =>
    let self := (self.act (.addTimer .read)).act (.userProcess self.connection.epollCurEvents)
    match returned with
    | none => { self with suspended := true }
    | some ret => ((self.act .stamp).act (.delTimer .read)).finalize ret

/-- The loop that reads and decodes. -/
def readLoop : List ReadTurn → UpstreamAttempt → Option DeferReturn × UpstreamAttempt
  | [], self => (none, self)
  | turn :: turns, self =>
    let self := self.act .bufferExpand
    if turn.bufferExpand ≠ coOk then (some (.finalize coError), self)
    else
      let self := self.act .tcpRead
      match turn.tcpRead with
      | none => (none, self)
      | some ret =>
        if ret < coOk then (some (.finalize ret), self)
        else
          let self := self.act .bufferSizeExpand
          if turn.bufferSizeExpand ≠ coOk then (some (.finalize turn.bufferSizeExpand), self)
          else
            let self := self.act .decode
            if turn.decode = coAgain then readLoop turns self
            else if turn.decode = coOk then (some .next, self.act .stamp)
            else (some (.finalize turn.decode), self)

def upstreamRead (calls : AttemptCalls) (self : UpstreamAttempt) : UpstreamAttempt :=
  let (added, self) := (self.act (.addTimer .read)).modifyConnection .add coEventIn calls.readAdd
  let body := if added ≠ coOk then (some (.finalize coError), self) else readLoop calls.turns self
  -- a deletion that fails is logged
  let cleanup self := ((self.act (.delTimer .read)).modifyConnection .del coEventIn calls.readDel).2
  deferred cleanup (upstreamProcess calls) body

/-- The loop that sends the request, of which `size` bytes are left. -/
def writeLoop : List Int → Nat → UpstreamAttempt → Option DeferReturn × UpstreamAttempt
  | _, 0, self => (some .next, self.act .stamp)
  | [], _ + 1, self => (none, self.act .tcpWrite)
  | ret :: rets, size + 1, self =>
    let self := self.act .tcpWrite
    if ret > 0 then writeLoop rets (size + 1 - ret.toNat) self else (some (.finalize coError), self)

/-- The deferred cleanup of `upstream_write`. -/
def writeCleanup (calls : AttemptCalls) (self : UpstreamAttempt) : UpstreamAttempt :=
  let (deleted, self) := (self.act (.delTimer .write)).modifyConnection .del coEventOut calls.writeDel
  if deleted ≠ coOk then self.finalize coError else self

def upstreamWrite (calls : AttemptCalls) (self : UpstreamAttempt) : UpstreamAttempt :=
  let (added, self) := (self.act (.addTimer .write)).modifyConnection .add coEventOut calls.writeAdd
  let body := if added ≠ coOk then (some (.finalize coError), self)
    else writeLoop calls.tcpWrite calls.encode (self.act .encode)
  deferred (writeCleanup calls) (upstreamRead calls) body

/-- The branch of `upstream_init` that connects. -/
def connectServer (calls : AttemptCalls) (self : UpstreamAttempt) : Option DeferReturn × UpstreamAttempt :=
  let (added, self) := (self.act (.addTimer .write)).modifyConnection .add coEventWrite calls.initAdd
  if added ≠ coOk then (some (.finalize coError), self)
  else
    let self := self.act .clientConnect
    match calls.clientConnect with
    | none => (none, self)
    | some ret => (if ret ≠ coOk then some (.finalize coError) else some .next, self)

def upstreamInit (calls : AttemptCalls) (self : UpstreamAttempt) : UpstreamAttempt :=
  let written (self : UpstreamAttempt) := upstreamWrite calls (self.act .stamp)
  -- a connection that is reused has been registered before
  if self.connection.readEvent.flagActive then written (self.act (.delTimer .read))
  else deferred (·.act (.delTimer .write)) written (connectServer calls self)

/-! ## Finalized exactly once -/

def IsFinalize : AttemptAction → Prop
  | .finalize _ _ => True
  | _ => False

/-- The request and the connection still belong to the attempt. -/
def Open (self : UpstreamAttempt) : Prop := ∀ action ∈ self.trace, ¬IsFinalize action

/-- An attempt that has ended was finalized once, and nothing was done after it; one that has
    not ended was not finalized. -/
def FinalizedOnce (self : UpstreamAttempt) : Prop :=
  if self.suspended then self.Open
  else ∃ before retCode events, self.trace = before ++ [.finalize retCode events] ∧
    ∀ action ∈ before, ¬IsFinalize action

/-- No call is outstanding, and nothing was finalized. -/
structure Running (attempt : UpstreamAttempt) : Prop where
  opened : attempt.Open
  awake : attempt.suspended = false

section
variable {self after : UpstreamAttempt} {calls : AttemptCalls}

theorem Running.act {action : AttemptAction} (running : Running self) (other : ¬IsFinalize action) :
    Running (self.act action) where
  opened := by
    intro done mem
    cases List.mem_append.1 mem with
    | inl old => exact running.opened done old
    | inr new => exact List.mem_singleton.1 new ▸ other
  awake := running.awake

theorem Running.modify (running : Running self) (eventType : EventType) (eventOP : EpollEvents)
    (accepted : Bool) : Running (self.modifyConnection eventType eventOP accepted).2 :=
  @Running.act { self with connection := (self.connection.modifyConnection eventType eventOP accepted).2 }
    _ ⟨running.opened, running.awake⟩ (by simp [IsFinalize])

theorem Running.finalize (running : Running self) (retCode : Int) :
    (self.finalize retCode).FinalizedOnce := by
  unfold FinalizedOnce
  rw [if_neg (by simp [UpstreamAttempt.finalize, UpstreamAttempt.act, running.awake])]
  exact ⟨self.trace, retCode, _, rfl, running.opened⟩

/-- A cleanup that finalizes nothing runs before the one call of `upstream_finalize`. -/
theorem deferred_once {cleanup next : UpstreamAttempt → UpstreamAttempt}
    {body : Option DeferReturn × UpstreamAttempt} (running : Running body.2)
    (cleans : body.1 ≠ none → Running (cleanup body.2))
    (goesOn : ∀ attempt, Running attempt → (next attempt).FinalizedOnce) :
    (deferred cleanup next body).FinalizedOnce := by
  obtain ⟨returned, attempt⟩ := body
  cases returned with
  | none =>
    unfold FinalizedOnce
    rw [if_pos (by rfl)]
    exact running.opened
  | some returned =>
    cases returned with
    | finalize retCode => exact (cleans nofun).finalize retCode
    | next => exact goesOn _ (cleans nofun)

/-! ### Reading and processing -/

theorem upstreamProcess_once (running : Running self) :
    (upstreamProcess calls self).FinalizedOnce := by
  unfold upstreamProcess
  cases calls.userProcess with
  | none => exact running.finalize coOk
  | some returned =>
    have called : Running ((self.act (.addTimer .read)).act (.userProcess self.connection.epollCurEvents)) :=
      (running.act (by simp [IsFinalize])).act (by simp [IsFinalize])
    cases returned with
    | none =>
      unfold FinalizedOnce
      rw [if_pos (by rfl)]
      exact called.opened
    | some ret => exact ((called.act (by simp [IsFinalize])).act (by simp [IsFinalize])).finalize ret

theorem readLoop_running {turns : List ReadTurn} (running : Running self) :
    Running (readLoop turns self).2 := by
  induction turns generalizing self with
  | nil => exact running
  | cons turn turns ih =>
    have expanded : Running (self.act .bufferExpand) := running.act (by simp [IsFinalize])
    have read : Running ((self.act .bufferExpand).act .tcpRead) := expanded.act (by simp [IsFinalize])
    simp only [readLoop]
    split
    · exact expanded
    · split
      · exact read
      · split
        · exact read
        · have grown := @Running.act _ .bufferSizeExpand read (by simp [IsFinalize])
          split
          · exact grown
          · have decoded := @Running.act _ .decode grown (by simp [IsFinalize])
            split
            · exact ih decoded
            · split
              · exact decoded.act (by simp [IsFinalize])
              · exact decoded

theorem upstreamRead_once (running : Running self) : (upstreamRead calls self).FinalizedOnce := by
  have added := (@Running.act _ (.addTimer .read) running (by simp [IsFinalize])).modify .add coEventIn
    calls.readAdd
  simp only [upstreamRead]
  have body : Running (if ((self.act (.addTimer .read)).modifyConnection .add coEventIn calls.readAdd).1 ≠ coOk
      then (some (.finalize coError), ((self.act (.addTimer .read)).modifyConnection .add coEventIn
        calls.readAdd).2)
      else readLoop calls.turns ((self.act (.addTimer .read)).modifyConnection .add coEventIn
        calls.readAdd).2).2 := by
    split
    · exact added
    · exact readLoop_running added
  apply deferred_once body
  · intro _
    exact (body.act (by simp [IsFinalize])).modify .del coEventIn calls.readDel
  · intro attempt running
    exact upstreamProcess_once running

/-! ### Nothing is forgotten -/

/-- What was done stays done. -/
def Grows (before after : UpstreamAttempt) : Prop := before.trace <+: after.trace

theorem Grows.trans {before middle after : UpstreamAttempt} (first : Grows before middle)
    (second : Grows middle after) : Grows before after :=
  List.IsPrefix.trans first second

theorem grows_act (self : UpstreamAttempt) (action : AttemptAction) : Grows self (self.act action) :=
  List.prefix_append _ _

theorem grows_modify (self : UpstreamAttempt) (eventType : EventType) (eventOP : EpollEvents)
    (accepted : Bool) : Grows self (self.modifyConnection eventType eventOP accepted).2 :=
  List.prefix_append _ _

theorem grows_deferred {cleanup next : UpstreamAttempt → UpstreamAttempt}
    (cleans : ∀ attempt, Grows attempt (cleanup attempt)) (goesOn : ∀ attempt, Grows attempt (next attempt))
    (body : Option DeferReturn × UpstreamAttempt) : Grows body.2 (deferred cleanup next body) := by
  obtain ⟨returned, attempt⟩ := body
  cases returned with
  | none => exact List.prefix_rfl
  | some returned =>
    cases returned with
    | finalize retCode => exact (cleans attempt).trans (grows_act _ _)
    | next => exact (cleans attempt).trans (goesOn _)

theorem grows_upstreamProcess (self : UpstreamAttempt) : Grows self (upstreamProcess calls self) := by
  unfold upstreamProcess
  split
  · exact grows_act _ _
  · have called := (grows_act self (.addTimer .read)).trans
      (grows_act _ (.userProcess self.connection.epollCurEvents))
    dsimp only
    split
    · exact called
    · exact ((called.trans (grows_act _ _)).trans (grows_act _ _)).trans (grows_act _ _)

theorem grows_readLoop (turns : List ReadTurn) (self : UpstreamAttempt) :
    Grows self (readLoop turns self).2 := by
  induction turns generalizing self with
  | nil => exact List.prefix_rfl
  | cons turn turns ih =>
    have expanded := grows_act self .bufferExpand
    have read := expanded.trans (grows_act _ .tcpRead)
    simp only [readLoop]
    split
    · exact expanded
    · split
      · exact read
      · split
        · exact read
        · have grown := read.trans (grows_act _ .bufferSizeExpand)
          split
          · exact grown
          · have decoded := grown.trans (grows_act _ .decode)
            split
            · exact decoded.trans (ih _)
            · split
              · exact decoded.trans (grows_act _ _)
              · exact decoded

theorem grows_upstreamRead (self : UpstreamAttempt) :
    Grows (self.act (.addTimer .read)) (upstreamRead calls self) := by
  simp only [upstreamRead]
  apply Grows.trans (grows_modify _ .add coEventIn calls.readAdd)
  refine Grows.trans ?_ (grows_deferred ?_ ?_ _)
  · split
    · exact List.prefix_rfl
    · exact grows_readLoop _ _
  · intro attempt
    exact (grows_act _ _).trans (grows_modify _ _ _ _)
  · exact grows_upstreamProcess

/-- An attempt that goes on after it was finalized. -/
theorem not_finalizedOnce {action : AttemptAction} (closed : ¬self.Open)
    (goesOn : Grows (self.act action) after) : ¬after.FinalizedOnce := by
  intro once
  have inside : self.trace <+: after.trace := (grows_act self action).trans goesOn
  have stillOpen : ∀ actions, self.trace <+: actions → ¬∀ action ∈ actions, ¬IsFinalize action :=
    fun actions prefix_ opened => closed fun action mem => opened action (prefix_.subset mem)
  unfold FinalizedOnce at once
  split at once
  · exact stillOpen _ inside once
  · obtain ⟨before, retCode, events, whole, opened⟩ := once
    -- the last action of all is behind what was done before
    have shorter : self.trace.length ≤ before.length := by
      have length := goesOn.length_le
      simp only [act, whole, List.length_append, List.length_singleton] at length
      omega
    rw [whole] at inside
    exact stillOpen _ (List.prefix_of_prefix_length_le inside (List.prefix_append _ _) shorter) opened

/-! ### Writing -/

/-- The loop that sends comes to an end. -/
def sends : List Int → Nat → Bool
  | _, 0 => true
  | [], _ + 1 => false
  | ret :: rets, size + 1 => if ret > 0 then sends rets (size + 1 - ret.toNat) else true

theorem writeLoop_returns (rets : List Int) (size : Nat) (self : UpstreamAttempt) :
    (writeLoop rets size self).1 ≠ none ↔ sends rets size = true := by
  induction rets generalizing size self with
  | nil => cases size <;> simp [writeLoop, sends]
  | cons ret rets ih =>
    cases size with
    | zero => simp [writeLoop, sends]
    | succ size =>
      simp only [writeLoop, sends]
      split
      · exact ih _ _
      · simp

theorem writeLoop_running (rets : List Int) (size : Nat) (running : Running self) :
    Running (writeLoop rets size self).2 ∧ (writeLoop rets size self).2.connection = self.connection := by
  induction rets generalizing size self with
  | nil =>
    cases size with
    | zero => exact ⟨running.act (by simp [IsFinalize]), rfl⟩
    | succ size => exact ⟨running.act (by simp [IsFinalize]), rfl⟩
  | cons ret rets ih =>
    cases size with
    | zero => exact ⟨running.act (by simp [IsFinalize]), rfl⟩
    | succ size =>
      have written : Running (self.act .tcpWrite) := running.act (by simp [IsFinalize])
      simp only [writeLoop]
      split
      · exact ih _ written
      · exact ⟨written, rfl⟩

/-- The deletion at the end of `upstream_write` is accepted, if it gets there; it starts on
    `connection`. -/
def WriteDeleted (calls : AttemptCalls) (connection : CoConnection) : Prop :=
  let (added, registered) := connection.modifyConnection .add coEventOut calls.writeAdd
  (added = coOk → sends calls.tcpWrite calls.encode = true) →
    (registered.modifyConnection .del coEventOut calls.writeDel).1 = coOk

/-- The deferred cleanup of `upstream_write` behind its body. -/
theorem writeCleanup_running (running : Running self)
    (deleted : (self.connection.modifyConnection .del coEventOut calls.writeDel).1 = coOk) :
    Running (writeCleanup calls self) := by
  have done := (@Running.act _ (.delTimer .write) running (by simp [IsFinalize])).modify .del coEventOut
    calls.writeDel
  simp only [writeCleanup]
  rw [modifyConnection_ret, act_connection, if_neg (not_not.2 deleted)]
  exact done

/-- A failed deletion finalizes the attempt before what the function returns to. -/
theorem writeCleanup_closed
    (failed : (self.connection.modifyConnection .del coEventOut calls.writeDel).1 ≠ coOk) :
    ¬(writeCleanup calls self).Open := by
  intro opened
  have ret : ((self.act (.delTimer .write)).modifyConnection .del coEventOut calls.writeDel).1 ≠ coOk :=
    failed
  simp only [writeCleanup, if_pos ret] at opened
  exact opened (.finalize coError _) (List.mem_append_right _ (List.mem_singleton_self _)) trivial

theorem upstreamWrite_once_iff (running : Running self) :
    (upstreamWrite calls self).FinalizedOnce ↔ WriteDeleted calls self.connection := by
  have timed : Running (self.act (.addTimer .write)) := running.act (by simp [IsFinalize])
  have added := timed.modify .add coEventOut calls.writeAdd
  -- the body: what it returns, and that it leaves the connection alone
  obtain ⟨body, isBody⟩ : ∃ body, body =
      (if ((self.act (.addTimer .write)).modifyConnection .add coEventOut calls.writeAdd).1 ≠ coOk then
        (some (.finalize coError), ((self.act (.addTimer .write)).modifyConnection .add coEventOut
          calls.writeAdd).2)
      else writeLoop calls.tcpWrite calls.encode (((self.act (.addTimer .write)).modifyConnection .add
        coEventOut calls.writeAdd).2.act .encode)) := ⟨_, rfl⟩
  have whole : upstreamWrite calls self =
      deferred (writeCleanup calls) (upstreamRead calls) body := by
    rw [isBody]
    rfl
  have registered : body.2.connection =
      (self.connection.modifyConnection .add coEventOut calls.writeAdd).2 := by
    rw [isBody]
    split
    · rfl
    · exact (writeLoop_running _ _ (added.act (by simp [IsFinalize]))).2
  have bodyRuns : Running body.2 := by
    rw [isBody]
    split
    · exact added
    · exact (writeLoop_running _ _ (added.act (by simp [IsFinalize]))).1
  have returns : body.1 ≠ none ↔
      ((self.connection.modifyConnection .add coEventOut calls.writeAdd).1 = coOk →
        sends calls.tcpWrite calls.encode = true) := by
    rw [isBody]
    split
    · rename_i failed
      have notAdded : (self.connection.modifyConnection .add coEventOut calls.writeAdd).1 ≠ coOk := failed
      simp [notAdded]
    · rename_i ok
      have accepted : (self.connection.modifyConnection .add coEventOut calls.writeAdd).1 = coOk :=
        not_not.1 ok
      simp [accepted, writeLoop_returns]
  have condition : WriteDeleted calls self.connection ↔ (body.1 ≠ none →
      (body.2.connection.modifyConnection .del coEventOut calls.writeDel).1 = coOk) := by
    rw [registered, returns]
    rfl
  rw [whole, condition]
  constructor
  · intro once ended
    by_contra failed
    have closed := writeCleanup_closed failed
    obtain ⟨returned, attempt⟩ := body
    cases returned with
    | none => exact ended rfl
    | some returned =>
      cases returned with
      | finalize retCode => exact not_finalizedOnce closed List.prefix_rfl once
      | next => exact not_finalizedOnce closed (grows_upstreamRead _) once
  · intro deleted
    exact deferred_once bodyRuns (fun ended => writeCleanup_running bodyRuns (deleted ended))
      fun attempt running => upstreamRead_once running

/-! ### The whole attempt -/

/-- The deletion that `upstream_write` defers is accepted, if the attempt gets there. -/
def DeletionAccepted (calls : AttemptCalls) (connection : CoConnection) : Prop :=
  if connection.readEvent.flagActive then WriteDeleted calls connection
  else
    let (added, registered) := connection.modifyConnection .add coEventWrite calls.initAdd
    added = coOk → calls.clientConnect = some coOk → WriteDeleted calls registered

end

/-- Whatever its calls return: an attempt is finalized exactly once, and nothing of it runs
    afterwards, if and only if the deletion that `upstream_write` defers is accepted. -/
theorem finalized_once_iff (calls : AttemptCalls) (connection : CoConnection) :
    (upstreamInit calls { connection }).FinalizedOnce ↔ DeletionAccepted calls connection := by
  have running : Running { connection } := ⟨by simp [Open], rfl⟩
  unfold upstreamInit DeletionAccepted
  dsimp only
  by_cases reused : connection.readEvent.flagActive = true
  · rw [if_pos reused, if_pos reused]
    exact upstreamWrite_once_iff ((running.act (by simp [IsFinalize])).act (by simp [IsFinalize]))
  · rw [if_neg reused, if_neg reused]
    have timed : Running (({ connection } : UpstreamAttempt).act (.addTimer .write)) :=
      running.act (by simp [IsFinalize])
    have added := timed.modify .add coEventWrite calls.initAdd
    have connecting := @Running.act _ .clientConnect added (by simp [IsFinalize])
    simp only [connectServer]
    by_cases accepted : (connection.modifyConnection .add coEventWrite calls.initAdd).1 = coOk
    · have notFailed : ¬((({ connection } : UpstreamAttempt).act (.addTimer .write)).modifyConnection .add
          coEventWrite calls.initAdd).1 ≠ coOk := not_not.2 accepted
      rw [if_neg notFailed]
      cases connects : calls.clientConnect with
      | none =>
        simp only [deferred, reduceCtorEq, false_implies, implies_true, iff_true]
        unfold FinalizedOnce
        rw [if_pos (by rfl)]
        exact connecting.opened
      | some ret =>
        have cleaned := @Running.act _ (.delTimer .write) connecting (by simp [IsFinalize])
        by_cases connected : ret = coOk
        · subst connected
          have stamped := @Running.act _ .stamp cleaned (by simp [IsFinalize])
          have written := @upstreamWrite_once_iff _ calls stamped
          simpa [deferred, accepted] using written
        · simp only [if_pos connected, deferred, Option.some.injEq, connected, false_implies,
            implies_true, iff_true]
          exact cleaned.finalize coError
    · have failed : ((({ connection } : UpstreamAttempt).act (.addTimer .write)).modifyConnection .add
          coEventWrite calls.initAdd).1 ≠ coOk := accepted
      rw [if_pos failed]
      simp only [deferred, accepted, false_implies, iff_true]
      exact (added.act (by simp [IsFinalize])).finalize coError

/-- A connection that was kept alive. -/
def keptConnection : CoConnection :=
  { epollCurEvents := { epollrdhup := true }, readEvent := { flagActive := true } }

/-- The request could not be sent, and then the deletion is rejected. -/
theorem finalized_twice : ¬∀ calls connection, (upstreamInit calls { connection }).FinalizedOnce := by
  intro once
  obtain ⟨before, retCode, events, whole, opened⟩ :=
    once { encode := 1, tcpWrite := [-1], writeDel := false } keptConnection
  -- both calls of `upstream_finalize`, the last one behind the other
  have trace : (upstreamInit { encode := 1, tcpWrite := [-1], writeDel := false }
      { connection := keptConnection }).trace =
      [.delTimer .read, .stamp, .addTimer .write, .modifyConnection .add coEventOut, .encode, .tcpWrite,
        .delTimer .write, .modifyConnection .del coEventOut,
        .finalize coError { epollout := true, epollrdhup := true }] ++
      [.finalize coError { epollout := true, epollrdhup := true }] := by
    decide
  have same := List.append_inj_left' (whole.symm.trans trace) rfl
  exact opened (.finalize coError { epollout := true, epollrdhup := true }) (same ▸ by simp) trivial

end UpstreamAttempt

end CoServer
