import CoServer.Core.ThirdSocket

/-! # How a wait for a third party's socket ends

While a handler is suspended in `yield_thirdsocket`, two connections can bring its
coroutine back: the block connection, by a report or its timer, and the connection of
the request itself.  Each goes through `event_exception`, which marks whatever is in
trouble as dying before the coroutine looks at the flags. -/

namespace CoServer

/-! ## The hooks behind the wait -/

def coEventHup : EpollEvents := { epollrdhup := true }

def eagain : Int := 11

/-- What `select` returns; `plain` is what the plain call returns after a successful wait. -/
def selectReturn (ret plain : Int) : Int :=
  if ret ≠ coOk then (if ret = coTimeout then 0 else coError) else plain

/-- The `errno` that `read_write_mode` and `connect` leave behind a failed wait. -/
def waitErrno (ret errno : Int) : Int := if ret = coTimeout then eagain else errno

/-! ## One wait -/

/-- What `close_all_connection` does to one connection of the pool. -/
def CoCycle.closeConnection (self : CoCycle) (connection : Nat) : CoCycle :=
  let object := self.objects connection
  if !object.flagBlockConn && object.coTcp.socketfd > 0 then
    (self.modifyObject connection fun object =>
      { object with flagPendingEof := true }).pushDelay connection
  else self

/-- What swapped the coroutine in: a report on the block connection, the timer of the block
    event, or a dispatch of the connection of the request. -/
inductive WaitWake where
  | report (revents : EpollEvents)
  | timer
  | origin
deriving DecidableEq

/-- The block connection was flagged before it was dispatched. -/
def WaitWake.trouble : WaitWake → Bool
  | .report revents => revents.epollrdhup
  | .timer => true
  | .origin => false

/-- A call of `yield_thirdsocket`, from the point where the coroutine is swapped out until it
    has returned. -/
structure ThirdWait where
  cycle : CoCycle
  connection : Nat
  blockConn : Nat
  eventOP : EpollEvents
  returned : Option (WaitWake × Int) := none

inductive WaitEvent where
  /-- an entry of the array of `epoll_wait` names the block connection -/
  | report (entry : EpollReport) (timestamp : Nat)
  /-- the timer of the block event expires -/
  | timer (timestamp : Nat)
  /-- an entry names the connection of the request -/
  | originReport (entry : EpollReport) (timestamp : Nat)
  /-- a timer of the connection of the request expires -/
  | originTimer (kind : TimerKind) (timestamp : Nat)
  /-- a queue dispatches the connection of the request -/
  | dispatch (timestamp : Nat)
  /-- the parent of the request gives up on it -/
  | killUpstream (upstreamRequest : Nat)
  /-- the server shuts down -/
  | closeAllConnection
  /-- the rest of the thread does something to everything else -/
  | others (cycle : CoCycle)

namespace ThirdWait

/-- The handler calls `yield_thirdsocket`. -/
def yield (cycle : CoCycle) (connection blockConn : Nat) (calls : OpenCalls) (socketFd : Int)
    (eventOP : EpollEvents) : ThirdWait :=
  { cycle := cycle.yieldThirdsocket connection blockConn calls socketFd eventOP
    connection, blockConn, eventOP }

/-- `func_dispatcher` on one of the two connections, which share a coroutine. -/
def dispatched (self : ThirdWait) (target timestamp : Nat) (wake : WaitWake) : ThirdWait :=
  let (resumed, cycle) := self.cycle.funcDispatcher target timestamp
  if resumed then
    let (ret, cycle) := cycle.resumeThirdsocket self.connection self.blockConn self.eventOP
    { self with cycle, returned := some (wake, ret) }
  else { self with cycle }

/-- The loop of `process_events` comes to an entry of one of them. -/
def processReport (self : ThirdWait) (target : Nat) (entry : EpollReport) (timestamp : Nat)
    (wake : WaitWake) : ThirdWait :=
  if (self.cycle.objects target).version ≠ entry.version then self
  else
    let self := match self.cycle.readHalf target entry.revents with
      | some cycle => { self with cycle }.dispatched target timestamp wake
      | none => self
    -- what the write half does once the wait is over is another story
    if self.returned.isNone && self.cycle.writeHalf target entry.revents then
      self.dispatched target timestamp wake
    else self

/-- An expired timer of one of them. -/
def expire (self : ThirdWait) (target : Nat) (kind : TimerKind) (timestamp : Nat) (wake : WaitWake) :
    Option ThirdWait :=
  if ((self.cycle.objects target).timerEvent kind).flagTimerSet then
    let cycle := self.cycle.modifyObject target fun object => object.timerExpired kind
    some ({ self with cycle }.dispatched target timestamp wake)
  else none

/-- Everything but the two connections. -/
def replaceOthers (self : ThirdWait) (cycle : CoCycle) : ThirdWait :=
  { self with
    cycle := { cycle with
      objects := fun other => if other = self.connection ∨ other = self.blockConn then
        self.cycle.objects other else cycle.objects other } }

def step (self : ThirdWait) (event : WaitEvent) : Option ThirdWait :=
  match self.returned with
  | some _ => none
  | none =>
    match event with
    | .report entry timestamp =>
      some (self.processReport self.blockConn entry timestamp (.report entry.revents))
    | .timer timestamp => self.expire self.blockConn (CoCycle.blockTimer self.eventOP) timestamp .timer
    | .originReport entry timestamp =>
      some (self.processReport self.connection entry timestamp .origin)
    | .originTimer kind timestamp => self.expire self.connection kind timestamp .origin
    | .dispatch timestamp => some (self.dispatched self.connection timestamp .origin)
    | .killUpstream upstreamRequest =>
      if (self.cycle.requests upstreamRequest).connection = some self.connection then
        some { self with cycle := self.cycle.killUpstream upstreamRequest }
      else none
    | .closeAllConnection =>
      some { self with cycle := self.cycle.closeConnection self.connection }
    | .others cycle => some (self.replaceOthers cycle)

/-- The connection of the request is dying. -/
def originDying (self : ThirdWait) : Bool := (self.cycle.objects self.connection).flagDying

end ThirdWait

/-! ## The flags of the two connections -/

/-- The flags that `event_exception` and the end of the wait look at are the same. -/
structure SameFlags (a b : CoConnection) : Prop where
  blockConn : b.blockConn = a.blockConn
  flagBlockConn : b.flagBlockConn = a.flagBlockConn
  flagUseBlockConn : b.flagUseBlockConn = a.flagUseBlockConn
  flagTimedOut : b.flagTimedOut = a.flagTimedOut
  flagPendingEof : b.flagPendingEof = a.flagPendingEof
  flagDying : b.flagDying = a.flagDying
  flagThirdFuncBlocking : b.flagThirdFuncBlocking = a.flagThirdFuncBlocking

theorem SameFlags.trans {a b c : CoConnection} (first : SameFlags a b) (second : SameFlags b c) :
    SameFlags a c where
  blockConn := second.blockConn.trans first.blockConn
  flagBlockConn := second.flagBlockConn.trans first.flagBlockConn
  flagUseBlockConn := second.flagUseBlockConn.trans first.flagUseBlockConn
  flagTimedOut := second.flagTimedOut.trans first.flagTimedOut
  flagPendingEof := second.flagPendingEof.trans first.flagPendingEof
  flagDying := second.flagDying.trans first.flagDying
  flagThirdFuncBlocking := second.flagThirdFuncBlocking.trans first.flagThirdFuncBlocking

theorem sameFlags_setTimer (object : CoConnection) (kind : TimerKind) (flagTimerSet : Bool) :
    SameFlags object (object.setTimer kind flagTimerSet) := by
  cases kind <;> exact ⟨rfl, rfl, rfl, rfl, rfl, rfl, rfl⟩

/-- The timer of a block event is none of a sleep. -/
theorem timerExpired_blockTimer (object : CoConnection) (eventOP : EpollEvents) :
    object.timerExpired (CoCycle.blockTimer eventOP) =
      { object.setTimer (CoCycle.blockTimer eventOP) false with flagTimedOut := true } := by
  unfold CoCycle.blockTimer
  split <;> rfl

theorem SameFlags.quiet {a b : CoConnection} (same : SameFlags a b) (quiet : a.Quiet) : b.Quiet where
  timedOut := same.flagTimedOut.trans quiet.timedOut
  pendingEof := same.flagPendingEof.trans quiet.pendingEof
  dying := same.flagDying.trans quiet.dying
  thirdFunc := same.flagThirdFuncBlocking.trans quiet.thirdFunc

namespace CoCycle

section
variable {before after : CoCycle} {connection : Nat}

theorem Reregistered.sameFlags (changed : Reregistered before connection after) (other : Nat) :
    SameFlags (before.objects other) (after.objects other) := by
  obtain ⟨events, version, readActive, writeActive, object⟩ := changed.object other
  rw [object]
  exact ⟨rfl, rfl, rfl, rfl, rfl, rfl, rfl⟩

end

/-! ## The end of the wait -/

section
variable {self : CoCycle} {connection blockConn : Nat}

/-- The read half dispatches the connection with the hang up noted. -/
theorem readHalf_modify {revents : EpollEvents} {cycle : CoCycle}
    (half : self.readHalf connection revents = some cycle) :
    cycle = self.modifyObject connection fun object =>
      { object with flagPendingEof := object.flagPendingEof || revents.epollrdhup } := by
  obtain ⟨-, half⟩ := Option.ite_none_right_eq_some.1 half
  cases closed : revents.epollrdhup with
  | true =>
    rw [closed, if_pos rfl] at half
    cases half
    simp only [Bool.or_true]
  | false =>
    rw [closed, if_neg Bool.false_ne_true] at half
    cases half
    simp only [Bool.or_false]
    exact (self.modifyObject_id connection).symm

/-- The origin of a block connection in use takes the block connection with it. -/
theorem eventException_origin (inUse : (self.objects connection).flagUseBlockConn = true)
    (owner : (self.objects connection).blockConn = some blockConn)
    (thirdFunc : (self.objects connection).flagThirdFuncBlocking = false)
    (trouble : ((self.objects connection).flagTimedOut || (self.objects connection).flagPendingEof ||
      (self.objects connection).flagDying) = true) (timestamp : Nat) :
    self.eventException connection timestamp =
      (coOk, (self.markDying connection).markDying blockConn) := by
  have marked : (self.markDying connection).objects connection =
      { self.objects connection with flagDying := true } := modifyObject_same _ _ _
  have block : (self.markDying connection).markBlockDying connection =
      (self.markDying connection).markDying blockConn := by
    unfold markBlockDying
    rw [marked]
    dsimp only
    rw [inUse, owner]
  unfold eventException
  dsimp only
  rw [trouble, thirdFunc, inUse, block]
  rfl

/-- What is read off the flags of the block connection, in the order of the tests. -/
theorem resumeThirdsocket_ret (apart : blockConn ≠ connection)
    (owner : (self.objects connection).blockConn = some blockConn) (eventOP : EpollEvents) :
    (self.resumeThirdsocket connection blockConn eventOP).1 =
      (if (self.objects blockConn).flagDying then coException
      else if (self.objects blockConn).flagTimedOut then coTimeout
      else if (self.objects blockConn).flagPendingEof then coError
      else coOk) ∧
    ((self.resumeThirdsocket connection blockConn eventOP).2.objects connection).flagDying =
      (self.objects connection).flagDying := by
  have deleted := modifyConnection_reregistered self blockConn .del eventOP
  have untimed := (deleted.sameFlags blockConn).trans
    (sameFlags_setTimer _ (blockTimer eventOP) false)
  have origin := deleted.sameFlags connection
  unfold resumeThirdsocket
  dsimp only
  generalize (self.modifyConnection blockConn .del eventOP).2 = cycle at untimed origin
  have owned : (((cycle.modifyObject blockConn fun object =>
      object.setTimer (blockTimer eventOP) false).modifyObject connection fun object =>
        object.useBlock false).objects connection).blockConn = some blockConn := by
    rw [modifyObject_same, modifyObject_other _ _ _ _ apart.symm]
    exact origin.blockConn.trans owner
  rw [resetBlock_owned owned]
  constructor
  · rw [modifyObject_same, untimed.flagDying, untimed.flagTimedOut, untimed.flagPendingEof]
  · rw [modifyObject_other _ _ _ _ apart.symm, modifyObject_same,
      modifyObject_other _ _ _ _ apart.symm]
    exact origin.flagDying

/-! ## While the coroutine is swapped out -/

/-- A coroutine that is swapped out in `yield_thirdsocket`.  The connection of the request may
    have been marked since, by its parent or because the server shuts down. -/
structure WaitsThird (cycle : CoCycle) (connection blockConn : Nat) : Prop where
  apart : blockConn ≠ connection
  owner : (cycle.objects connection).blockConn = some blockConn
  inUse : (cycle.objects connection).flagUseBlockConn = true
  thirdFunc : (cycle.objects connection).flagThirdFuncBlocking = false
  ofBlock : (cycle.objects blockConn).flagBlockConn = true
  unused : (cycle.objects blockConn).flagUseBlockConn = false
  quiet : (cycle.objects blockConn).Quiet
  /-- The read half sees every hang up of the peer. -/
  hangup : (cycle.objects blockConn).writeEvent.flagActive = true →
    (cycle.objects blockConn).readEvent.flagActive = true

/-- A call of `yield_thirdsocket` by one of the hooks, which turn back when the connection is
    dying.  The coroutine of the connection has the thread, so it is in no sleep. -/
structure CallsThird (cycle : CoCycle) (connection blockConn : Nat) (eventOP : EpollEvents) :
    Prop where
  apart : blockConn ≠ connection
  owner : (cycle.objects connection).blockConn = some blockConn
  live : (cycle.objects connection).flagDying = false
  thirdFunc : (cycle.objects connection).flagThirdFuncBlocking = false
  ofBlock : (cycle.objects blockConn).flagBlockConn = true
  unused : (cycle.objects blockConn).flagUseBlockConn = false
  quiet : (cycle.objects blockConn).Quiet
  writeEvent : (cycle.objects blockConn).writeEvent = {}
  hooked : eventOP ∈ [coEventRead, coEventWrite, coEventHup]

theorem union_rdhup_meets {events : EpollEvents} {eventOP : EpollEvents}
    (hooked : eventOP ∈ [coEventRead, coEventWrite, coEventHup]) :
    (events.union eventOP).meets coEventRead = true := by
  have hangup : eventOP.epollrdhup = true := by
    simp only [List.mem_cons, List.not_mem_nil, or_false] at hooked
    obtain rfl | rfl | rfl := hooked <;> rfl
  simp [EpollEvents.union, EpollEvents.meets, coEventRead, hangup]

/-- A connection that is registered for a mask of the hooks has its read half active. -/
theorem modifyConnection_hangup {eventOP : EpollEvents}
    (hooked : eventOP ∈ [coEventRead, coEventWrite, coEventHup])
    (rests : (self.objects connection).writeEvent = {}) :
    ((self.modifyConnection connection .add eventOP).2.objects connection).writeEvent.flagActive = true →
      ((self.modifyConnection connection .add eventOP).2.objects connection).readEvent.flagActive =
        true := by
  unfold modifyConnection
  dsimp only
  split
  · -- nothing is registered, and the write event rests as before
    intro active
    rw [rests] at active
    cases active
  · obtain ⟨interest, written⟩ := epollCtl_interest self.kernel
      (.choose (self.objects connection).epollCurEvents
        (EventType.add.change (self.objects connection).epollCurEvents eventOP))
      (self.objects connection).coTcp.socketfd
      ⟨EventType.add.change (self.objects connection).epollCurEvents eventOP,
        (self.objects connection).connId, (self.objects connection).version⟩
    rw [written]
    split
    · intro active
      rw [show (self.objects connection).writeEvent = {} from rests] at active
      cases active
    · intro _
      rw [modifyObject_same]
      exact union_rdhup_meets hooked

theorem CallsThird.yieldThirdsocket {eventOP : EpollEvents}
    (called : self.CallsThird connection blockConn eventOP) (calls : OpenCalls) (socketFd : Int) :
    (self.yieldThirdsocket connection blockConn calls socketFd eventOP).WaitsThird connection
      blockConn := by
  obtain ⟨apart, owner, -, thirdFunc, ofBlock, unused, quiet, writeEvent, hooked⟩ := called
  unfold CoCycle.yieldThirdsocket
  dsimp only
  rw [modifyObject_other _ _ _ _ apart, modifyObject_kernel]
  generalize ((self.objects blockConn).coTcp.initClientSocketfd self.kernel calls socketFd).2 = opened
  obtain ⟨block, origin⟩ := self.borrowed_objects apart opened
  generalize (self.modifyObject connection fun object => object.useBlock true).setTcp blockConn
    opened = borrowed at block origin
  have added := modifyConnection_reregistered borrowed blockConn .add eventOP
  have hangup := @modifyConnection_hangup borrowed blockConn _ hooked
    ((congrArg CoConnection.writeEvent block).trans writeEvent)
  have originFlags := added.sameFlags connection
  have blockFlags := added.sameFlags blockConn
  rw [origin] at originFlags
  rw [block] at blockFlags
  generalize (borrowed.modifyConnection blockConn .add eventOP).2 = cycle at *
  have timed := blockFlags.trans (sameFlags_setTimer (cycle.objects blockConn) (blockTimer eventOP) true)
  have blockAfter : (cycle.modifyObject blockConn fun object =>
      object.setTimer (blockTimer eventOP) true).objects blockConn =
        (cycle.objects blockConn).setTimer (blockTimer eventOP) true := modifyObject_same _ _ _
  have originAfter : (cycle.modifyObject blockConn fun object =>
      object.setTimer (blockTimer eventOP) true).objects connection = cycle.objects connection :=
    modifyObject_other _ _ _ _ apart.symm
  rw [← originAfter] at originFlags
  rw [← blockAfter] at timed
  exact {
    apart := apart
    owner := originFlags.blockConn.trans owner
    inUse := originFlags.flagUseBlockConn
    thirdFunc := originFlags.flagThirdFuncBlocking.trans thirdFunc
    ofBlock := timed.flagBlockConn.trans ofBlock
    unused := timed.flagUseBlockConn.trans unused
    quiet := timed.quiet ⟨quiet.timedOut, quiet.pendingEof, quiet.dying, quiet.thirdFunc⟩
    hangup := by
      rw [blockAfter]
      cases kind : blockTimer eventOP <;> exact hangup }

end

end CoCycle

/-! ## One step -/

/-- The wait is over: an untroubled block connection gives `CO_OK`, and any trouble
    `CO_EXCEPTION`. -/
structure WaitOver (run : ThirdWait) (wake : WaitWake) (trouble dying : Bool) : Prop where
  returned : run.returned = some (wake, if trouble then coException else coOk)
  dying : run.originDying = dying

namespace ThirdWait

section
variable {run : ThirdWait} {wake : WaitWake}

/-- The coroutine is resumed with the flags that `event_exception` left. -/
theorem dispatched_over {target timestamp : Nat} {after : CoCycle}
    (resumed : run.cycle.eventException target timestamp = (coOk, after))
    (apart : run.blockConn ≠ run.connection)
    (owner : (after.objects run.connection).blockConn = some run.blockConn)
    {trouble : Bool} (dying : (after.objects run.blockConn).flagDying = trouble)
    (calm : trouble = false → (after.objects run.blockConn).Quiet) :
    WaitOver (run.dispatched target timestamp wake) wake trouble
      (after.objects run.connection).flagDying := by
  obtain ⟨ret, origin⟩ := CoCycle.resumeThirdsocket_ret apart owner run.eventOP
  have isOver : run.dispatched target timestamp wake =
      { run with
        cycle := (after.resumeThirdsocket run.connection run.blockConn run.eventOP).2
        returned := some (wake,
          (after.resumeThirdsocket run.connection run.blockConn run.eventOP).1) } := by
    unfold dispatched CoCycle.funcDispatcher
    rw [resumed]
    rfl
  rw [isOver]
  refine ⟨?_, origin⟩
  dsimp only
  rw [ret]
  cases trouble with
  | true => rw [dying, if_pos rfl, if_pos rfl]
  | false =>
    have quiet := calm rfl
    rw [quiet.dying, quiet.timedOut, quiet.pendingEof]
    rfl

/-- The block connection is dispatched, flagged or not. -/
theorem dispatched_block (waits : run.cycle.WaitsThird run.connection run.blockConn)
    {f : CoConnection → CoConnection} {trouble : Bool}
    (ofBlock : (f (run.cycle.objects run.blockConn)).flagBlockConn = true)
    (unused : (f (run.cycle.objects run.blockConn)).flagUseBlockConn = false)
    (thirdFunc : (f (run.cycle.objects run.blockConn)).flagThirdFuncBlocking = false)
    (flagged : ((f (run.cycle.objects run.blockConn)).flagTimedOut ||
      (f (run.cycle.objects run.blockConn)).flagPendingEof ||
      (f (run.cycle.objects run.blockConn)).flagDying) = trouble) (timestamp : Nat) :
    WaitOver ({ run with cycle := run.cycle.modifyObject run.blockConn f }.dispatched run.blockConn
      timestamp wake) wake trouble run.originDying := by
  have block : (run.cycle.modifyObject run.blockConn f).objects run.blockConn =
      f (run.cycle.objects run.blockConn) := CoCycle.modifyObject_same _ _ _
  have origin : (run.cycle.modifyObject run.blockConn f).objects run.connection =
      run.cycle.objects run.connection := CoCycle.modifyObject_other _ _ _ _ waits.apart.symm
  have owner : ((run.cycle.modifyObject run.blockConn f).objects run.connection).blockConn =
      some run.blockConn := origin ▸ waits.owner
  generalize run.cycle.modifyObject run.blockConn f = cycle at *
  rw [← block] at ofBlock unused thirdFunc flagged
  cases trouble with
  | true =>
    -- marked as dying before the coroutine looks
    have resumed := CoCycle.eventException_block ofBlock unused thirdFunc flagged timestamp
    have kept : (cycle.markDying run.blockConn).objects run.connection =
        cycle.objects run.connection := CoCycle.modifyObject_other _ _ _ _ waits.apart.symm
    have isOver := @dispatched_over { run with cycle } wake _ _ _ resumed waits.apart
      (kept ▸ owner) true (CoCycle.markDying_dying cycle run.blockConn) nofun
    rw [show ({ run with cycle } : ThirdWait).connection = run.connection from rfl, kept, origin]
      at isOver
    exact isOver
  | false =>
    obtain ⟨timely, dying⟩ := Bool.or_eq_false_iff.1 flagged
    obtain ⟨timedOut, pendingEof⟩ := Bool.or_eq_false_iff.1 timely
    have quiet : (cycle.objects run.blockConn).Quiet := ⟨timedOut, pendingEof, dying, thirdFunc⟩
    have isOver := @dispatched_over { run with cycle } wake _ _ _
      (CoCycle.eventException_quiet quiet timestamp) waits.apart owner false dying fun _ => quiet
    rw [show ({ run with cycle } : ThirdWait).connection = run.connection from rfl, origin] at isOver
    exact isOver

/-- The connection of the request is dispatched, flagged or not. -/
theorem dispatched_origin (waits : run.cycle.WaitsThird run.connection run.blockConn)
    {f : CoConnection → CoConnection} {trouble : Bool}
    (owner : (f (run.cycle.objects run.connection)).blockConn = some run.blockConn)
    (inUse : (f (run.cycle.objects run.connection)).flagUseBlockConn = true)
    (thirdFunc : (f (run.cycle.objects run.connection)).flagThirdFuncBlocking = false)
    (flagged : ((f (run.cycle.objects run.connection)).flagTimedOut ||
      (f (run.cycle.objects run.connection)).flagPendingEof ||
      (f (run.cycle.objects run.connection)).flagDying) = trouble) (timestamp : Nat) :
    WaitOver ({ run with cycle := run.cycle.modifyObject run.connection f }.dispatched run.connection
      timestamp wake) wake trouble trouble := by
  have origin : (run.cycle.modifyObject run.connection f).objects run.connection =
      f (run.cycle.objects run.connection) := CoCycle.modifyObject_same _ _ _
  have block : (run.cycle.modifyObject run.connection f).objects run.blockConn =
      run.cycle.objects run.blockConn := CoCycle.modifyObject_other _ _ _ _ waits.apart
  have quiet : ((run.cycle.modifyObject run.connection f).objects run.blockConn).Quiet :=
    block ▸ waits.quiet
  generalize run.cycle.modifyObject run.connection f = cycle at *
  rw [← origin] at owner inUse thirdFunc flagged
  cases trouble with
  | true =>
    -- the origin takes its block connection with it
    have resumed := CoCycle.eventException_origin inUse owner thirdFunc flagged timestamp
    have kept : ((cycle.markDying run.connection).markDying run.blockConn).objects run.connection =
        { cycle.objects run.connection with flagDying := true } :=
      (CoCycle.modifyObject_other _ _ _ _ waits.apart.symm).trans (CoCycle.modifyObject_same _ _ _)
    have isOver := @dispatched_over { run with cycle } wake _ _ _ resumed waits.apart
      (by dsimp only; rw [kept]; exact owner) true (CoCycle.markDying_dying _ run.blockConn) nofun
    rw [show ({ run with cycle } : ThirdWait).connection = run.connection from rfl, kept] at isOver
    exact isOver
  | false =>
    obtain ⟨timely, dying⟩ := Bool.or_eq_false_iff.1 flagged
    obtain ⟨timedOut, pendingEof⟩ := Bool.or_eq_false_iff.1 timely
    have resumed := CoCycle.eventException_quiet ⟨timedOut, pendingEof, dying, thirdFunc⟩ timestamp
    have isOver := @dispatched_over { run with cycle } wake _ _ _ resumed waits.apart owner false
      quiet.dying fun _ => quiet
    rw [show ({ run with cycle } : ThirdWait).connection = run.connection from rfl, dying] at isOver
    exact isOver

/-- The rest of the thread leaves the two connections alone. -/
theorem others_waits (waits : run.cycle.WaitsThird run.connection run.blockConn) (cycle : CoCycle) :
    (run.replaceOthers cycle).cycle.WaitsThird run.connection run.blockConn := by
  have origin : (run.replaceOthers cycle).cycle.objects run.connection =
      run.cycle.objects run.connection := if_pos (.inl rfl)
  have block : (run.replaceOthers cycle).cycle.objects run.blockConn =
      run.cycle.objects run.blockConn := if_pos (.inr rfl)
  generalize (run.replaceOthers cycle).cycle = after at origin block
  constructor
  · exact waits.apart
  · exact origin ▸ waits.owner
  · exact origin ▸ waits.inUse
  · exact origin ▸ waits.thirdFunc
  · exact block ▸ waits.ofBlock
  · exact block ▸ waits.unused
  · exact block ▸ waits.quiet
  · exact block ▸ waits.hangup

/-- The connection of the request is marked, and waits on. -/
theorem marked_waits (waits : run.cycle.WaitsThird run.connection run.blockConn)
    (f : CoConnection → CoConnection)
    (kept : ∀ object, (f object).blockConn = object.blockConn ∧
      (f object).flagUseBlockConn = object.flagUseBlockConn ∧
      (f object).flagThirdFuncBlocking = object.flagThirdFuncBlocking) :
    ((run.cycle.modifyObject run.connection f).pushDelay run.connection).WaitsThird run.connection
      run.blockConn := by
  have origin : ((run.cycle.modifyObject run.connection f).pushDelay run.connection).objects
      run.connection = f (run.cycle.objects run.connection) := CoCycle.modifyObject_same _ _ _
  have block : ((run.cycle.modifyObject run.connection f).pushDelay run.connection).objects
      run.blockConn = run.cycle.objects run.blockConn :=
    CoCycle.modifyObject_other _ _ _ _ waits.apart
  obtain ⟨owner, inUse, thirdFunc⟩ := kept (run.cycle.objects run.connection)
  rw [← origin] at owner inUse thirdFunc
  generalize (run.cycle.modifyObject run.connection f).pushDelay run.connection = after at *
  constructor
  · exact waits.apart
  · exact owner.trans waits.owner
  · exact inUse.trans waits.inUse
  · exact thirdFunc.trans waits.thirdFunc
  · exact block ▸ waits.ofBlock
  · exact block ▸ waits.unused
  · exact block ▸ waits.quiet
  · exact block ▸ waits.hangup

theorem killUpstream_waits (waits : run.cycle.WaitsThird run.connection run.blockConn)
    {upstreamRequest : Nat}
    (child : (run.cycle.requests upstreamRequest).connection = some run.connection) :
    (run.cycle.killUpstream upstreamRequest).WaitsThird run.connection run.blockConn := by
  unfold CoCycle.killUpstream
  rw [child]
  exact marked_waits waits (fun object => { object with flagDying := true, flagParentDying := true })
    fun _ => ⟨rfl, rfl, rfl⟩

theorem closeConnection_waits (waits : run.cycle.WaitsThird run.connection run.blockConn) :
    (run.cycle.closeConnection run.connection).WaitsThird run.connection run.blockConn := by
  unfold CoCycle.closeConnection
  dsimp only
  split
  · exact marked_waits waits (fun object => { object with flagPendingEof := true })
      fun _ => ⟨rfl, rfl, rfl⟩
  · exact waits

/-- An entry is passed over, or one of its halves dispatches the connection; the read half
    comes first. -/
theorem processReport_cases (outside : run.returned = none) {target timestamp : Nat}
    {entry : EpollReport}
    (ends : ∀ cycle, run.cycle.readHalf target entry.revents = some cycle →
      ({ run with cycle }.dispatched target timestamp wake).returned.isSome) :
    run.processReport target entry timestamp wake = run ∨
    (∃ cycle, run.cycle.readHalf target entry.revents = some cycle ∧
      run.processReport target entry timestamp wake =
        { run with cycle }.dispatched target timestamp wake) ∨
    (run.cycle.readHalf target entry.revents = none ∧
      run.cycle.writeHalf target entry.revents = true ∧
      run.processReport target entry timestamp wake = run.dispatched target timestamp wake) := by
  unfold processReport
  split
  · exact .inl rfl
  · cases half : run.cycle.readHalf target entry.revents with
    | some cycle =>
      refine .inr (.inl ⟨cycle, rfl, if_neg ?_⟩)
      obtain ⟨returned, isOver⟩ := Option.isSome_iff_exists.1 (ends cycle half)
      dsimp only
      rw [isOver]
      exact Bool.false_ne_true
    | none =>
      dsimp only
      rw [outside]
      cases writes : run.cycle.writeHalf target entry.revents with
      | true => exact .inr (.inr ⟨rfl, rfl, rfl⟩)
      | false => exact .inl rfl

/-- An entry about the block connection is passed over or ends the wait. -/
theorem processReport_block (waits : run.cycle.WaitsThird run.connection run.blockConn)
    (outside : run.returned = none) (entry : EpollReport) (timestamp : Nat) :
    run.processReport run.blockConn entry timestamp wake = run ∨
      WaitOver (run.processReport run.blockConn entry timestamp wake) wake entry.revents.epollrdhup
        run.originDying := by
  have read : ∀ cycle, run.cycle.readHalf run.blockConn entry.revents = some cycle →
      WaitOver ({ run with cycle }.dispatched run.blockConn timestamp wake) wake
        entry.revents.epollrdhup run.originDying := by
    intro cycle half
    rw [CoCycle.readHalf_modify half]
    exact dispatched_block waits waits.ofBlock waits.unused waits.quiet.thirdFunc
      (by simp [waits.quiet.timedOut, waits.quiet.pendingEof, waits.quiet.dying]) timestamp
  obtain skipped | ⟨cycle, half, dispatched⟩ | ⟨skipped, writes, dispatched⟩ :=
    processReport_cases outside fun cycle half =>
      Option.isSome_of_eq_some (read cycle half).returned
  · exact .inl skipped
  · rw [dispatched]
    exact .inr (read cycle half)
  · -- the read half is active too, and would have seen the peer close
    have active : (run.cycle.objects run.blockConn).readEvent.flagActive = true :=
      waits.hangup (Bool.and_eq_true_iff.1 writes).2
    have open_ : entry.revents.epollrdhup = false := by
      unfold CoCycle.readHalf at skipped
      rw [active, Bool.and_true] at skipped
      by_contra closed
      rw [Bool.not_eq_false] at closed
      rw [closed, Bool.or_true, if_pos rfl] at skipped
      cases skipped
    have isOver := @dispatched_block run wake waits id false waits.ofBlock waits.unused
      waits.quiet.thirdFunc
      (by simp [waits.quiet.timedOut, waits.quiet.pendingEof, waits.quiet.dying]) timestamp
    rw [CoCycle.modifyObject_id] at isOver
    rw [dispatched, open_]
    exact .inr isOver

/-- A dispatch of the connection of the request ends the wait. -/
theorem dispatched_origin_id (waits : run.cycle.WaitsThird run.connection run.blockConn)
    (timestamp : Nat) :
    ∃ trouble, WaitOver (run.dispatched run.connection timestamp wake) wake trouble trouble := by
  have isOver := @dispatched_origin run wake waits id _ waits.owner waits.inUse waits.thirdFunc rfl
    timestamp
  rw [CoCycle.modifyObject_id] at isOver
  exact ⟨_, isOver⟩

theorem processReport_origin (waits : run.cycle.WaitsThird run.connection run.blockConn)
    (outside : run.returned = none) (entry : EpollReport) (timestamp : Nat) :
    run.processReport run.connection entry timestamp wake = run ∨
      ∃ trouble, WaitOver (run.processReport run.connection entry timestamp wake) wake trouble
        trouble := by
  have read : ∀ cycle, run.cycle.readHalf run.connection entry.revents = some cycle →
      ∃ trouble, WaitOver ({ run with cycle }.dispatched run.connection timestamp wake) wake trouble
        trouble := by
    intro cycle half
    rw [CoCycle.readHalf_modify half]
    exact ⟨_, dispatched_origin waits waits.owner waits.inUse waits.thirdFunc rfl timestamp⟩
  obtain skipped | ⟨cycle, half, dispatched⟩ | ⟨-, -, dispatched⟩ :=
    processReport_cases outside fun cycle half =>
      let ⟨_, isOver⟩ := read cycle half
      Option.isSome_of_eq_some isOver.returned
  · exact .inl skipped
  · rw [dispatched]
    exact .inr (read cycle half)
  · rw [dispatched]
    exact .inr (dispatched_origin_id waits timestamp)

end

/-! ## Every run -/

/-- The coroutine is still swapped out. -/
structure Waits (run : ThirdWait) : Prop where
  waits : run.cycle.WaitsThird run.connection run.blockConn
  outside : run.returned = none

/-- How a step ends the wait. -/
inductive Ends (before after : ThirdWait) : Prop
  | block (wake : WaitWake) (byBlock : wake ≠ .origin)
      (isOver : WaitOver after wake wake.trouble before.originDying)
  | origin (trouble : Bool) (isOver : WaitOver after .origin trouble trouble)

section
variable {run next : ThirdWait} {event : WaitEvent}

theorem Ends.returned (ends : Ends run next) : next.returned ≠ none := by
  cases ends with
  | block wake _ isOver => exact fun outside => nomatch isOver.returned.symm.trans outside
  | origin trouble isOver => exact fun outside => nomatch isOver.returned.symm.trans outside

theorem Waits.step (waits : Waits run) (stepped : run.step event = some next) :
    Waits next ∨ Ends run next := by
  obtain ⟨waits, outside⟩ := waits
  unfold ThirdWait.step at stepped
  rw [outside] at stepped
  cases event with
  | report entry timestamp =>
    cases stepped
    obtain skipped | isOver := @processReport_block run (.report entry.revents) waits outside entry
      timestamp
    · rw [skipped]
      exact .inl ⟨waits, outside⟩
    · exact .inr (.block (.report entry.revents) nofun isOver)
  | timer timestamp =>
    obtain ⟨-, stepped⟩ := Option.ite_none_right_eq_some.1 stepped
    cases stepped
    have kept := sameFlags_setTimer (run.cycle.objects run.blockConn)
      (CoCycle.blockTimer run.eventOP) false
    have expired := timerExpired_blockTimer (run.cycle.objects run.blockConn) run.eventOP
    refine .inr (.block .timer nofun (dispatched_block waits ?_ ?_ ?_ ?_ timestamp))
    · rw [expired]
      exact kept.flagBlockConn.trans waits.ofBlock
    · rw [expired]
      exact kept.flagUseBlockConn.trans waits.unused
    · rw [expired]
      exact kept.flagThirdFuncBlocking.trans waits.quiet.thirdFunc
    · rw [expired]
      rfl
  | originReport entry timestamp =>
    cases stepped
    obtain skipped | ⟨trouble, isOver⟩ := @processReport_origin run .origin waits outside entry
      timestamp
    · rw [skipped]
      exact .inl ⟨waits, outside⟩
    · exact .inr (.origin trouble isOver)
  | originTimer kind timestamp =>
    obtain ⟨-, stepped⟩ := Option.ite_none_right_eq_some.1 stepped
    cases stepped
    refine .inr (.origin _ (dispatched_origin waits ?_ ?_ ?_ rfl timestamp))
    · cases kind <;> exact waits.owner
    · cases kind <;> exact waits.inUse
    · cases kind with
      | read | write => exact waits.thirdFunc
      | sleep => rfl
  | dispatch timestamp =>
    cases stepped
    obtain ⟨trouble, isOver⟩ := @dispatched_origin_id run .origin waits timestamp
    exact .inr (.origin trouble isOver)
  | killUpstream upstreamRequest =>
    obtain ⟨child, stepped⟩ := Option.ite_none_right_eq_some.1 stepped
    cases stepped
    exact .inl ⟨killUpstream_waits waits child, rfl⟩
  | closeAllConnection =>
    cases stepped
    exact .inl ⟨closeConnection_waits waits, rfl⟩
  | others cycle =>
    cases stepped
    exact .inl ⟨others_waits waits cycle, outside⟩

/-- A wait that is over takes no further step. -/
theorem Waits.before (waits : Waits run ∨ run.returned ≠ none) (stepped : run.step event = some next) :
    Waits run := by
  obtain waits | isOver := waits
  · exact waits
  · obtain ⟨returned, isOver⟩ := Option.ne_none_iff_exists'.1 isOver
    unfold ThirdWait.step at stepped
    rw [isOver] at stepped
    cases stepped

end

theorem yield_waits {cycle : CoCycle} {connection blockConn : Nat}
    {eventOP : EpollEvents} (called : cycle.CallsThird connection blockConn eventOP)
    (calls : OpenCalls) (socketFd : Int) :
    Waits (.yield cycle connection blockConn calls socketFd eventOP) :=
  ⟨called.yieldThirdsocket calls socketFd, rfl⟩

end ThirdWait

/-- What the wait returned tells how it ended, and so do the hooks. -/
structure TellsEnd (run : ThirdWait) (wake : WaitWake) (ret : Int) : Prop where
  timeout : ret = coTimeout ↔ wake = .timer ∧ run.originDying = false
  exception : ret = coException ↔ run.originDying = true
  error : ret = coError ↔
    (∃ revents, wake = .report revents ∧ revents.epollrdhup = true) ∧ run.originDying = false
  select : wake = .timer → run.originDying = false → ∀ plain, selectReturn ret plain = 0
  errno : wake = .timer → run.originDying = false → ∀ errno, waitErrno ret errno = eagain

/-- An end tells how it came about exactly when trouble means that the connection of the request
    is dying. -/
theorem WaitOver.tells {run : ThirdWait} {wake : WaitWake} {ret : Int} {trouble dying : Bool}
    (isOver : WaitOver run wake trouble dying) (covers : wake.trouble = true → trouble = true)
    (returned : run.returned = some (wake, ret)) : TellsEnd run wake ret ↔ trouble = dying := by
  obtain ⟨rfl⟩ : ret = (if trouble then coException else coOk) := by
    cases isOver.returned.symm.trans returned
    rfl
  have exception : (if trouble then coException else coOk) = coException ↔ trouble = true := by
    cases trouble <;> decide
  have noTimeout : (if trouble then coException else coOk) ≠ coTimeout := by
    cases trouble <;> decide
  have noError : (if trouble then coException else coOk) ≠ coError := by
    cases trouble <;> decide
  constructor
  · intro tells
    have same : trouble = true ↔ dying = true := by
      rw [← exception, tells.exception, isOver.dying]
    exact Bool.eq_iff_iff.2 same
  · intro same
    -- with the connection of the request alive, the block connection was not flagged
    have calm : run.originDying = false → wake.trouble = false := by
      intro live
      rw [isOver.dying, ← same] at live
      exact Bool.eq_false_iff.2 fun flagged => nomatch live.symm.trans (covers flagged)
    have notTimer : wake = .timer → run.originDying ≠ false :=
      fun timer live => nomatch timer ▸ calm live
    refine ⟨iff_of_false noTimeout fun ⟨timer, live⟩ => notTimer timer live, ?_,
      iff_of_false noError ?_, fun timer live => absurd live (notTimer timer),
      fun timer live => absurd live (notTimer timer)⟩
    · rw [exception, isOver.dying, same]
    · rintro ⟨⟨revents, rfl, closed⟩, live⟩
      cases closed.symm.trans (calm live)

/-- The wait tells how it ended exactly when it was ended by the connection of the request, or
    the block connection was flagged just as the connection of the request was dying already. -/
theorem third_wait_tells_iff {cycle : CoCycle} {connection blockConn : Nat} {calls : OpenCalls}
    {socketFd : Int} {eventOP : EpollEvents} {events : List WaitEvent} {last : WaitEvent}
    {before final : ThirdWait} {wake : WaitWake} {ret : Int}
    (called : cycle.CallsThird connection blockConn eventOP)
    (ran : events.foldlM ThirdWait.step
      (.yield cycle connection blockConn calls socketFd eventOP) = some before)
    (ended : before.step last = some final) (returned : final.returned = some (wake, ret)) :
    TellsEnd final wake ret ↔ wake = .origin ∨ wake.trouble = before.originDying := by
  -- up to the last step the coroutine is swapped out
  have reached : before.Waits ∨ before.returned ≠ none :=
    Lib.run_keeps ThirdWait.step (fun run => run.Waits ∨ run.returned ≠ none)
      (fun _ _ _ either stepped => ((ThirdWait.Waits.before either stepped).step stepped).imp_right
        ThirdWait.Ends.returned)
      (.inl (ThirdWait.yield_waits called calls socketFd)) ran
  obtain waits | ends := (ThirdWait.Waits.before reached ended).step ended
  · cases waits.outside.symm.trans returned
  · cases ends with
    | block other byBlock isOver =>
      obtain rfl : other = wake := by
        cases isOver.returned.symm.trans returned
        rfl
      rw [isOver.tells id returned, or_iff_right byBlock]
    | origin trouble isOver =>
      obtain rfl : .origin = wake := by
        cases isOver.returned.symm.trans returned
        rfl
      exact iff_of_true ((isOver.tells nofun returned).2 rfl) (.inl rfl)

/-- Connection 1 serves the request and 2 is its block connection. -/
def waitCycle : CoCycle :=
  { objects := fun connection => if connection = 1 then { blockConn := some 2 }
      else { flagBlockConn := true, blockOriginConn := some 1 } }

theorem waitCycle_calls : waitCycle.CallsThird 1 2 coEventRead where
  apart := by decide
  owner := rfl
  live := rfl
  thirdFunc := rfl
  ofBlock := rfl
  unused := rfl
  quiet := ⟨rfl, rfl, rfl, rfl⟩
  writeEvent := rfl
  hooked := List.mem_cons_self

/-- A `recv` on descriptor 9. -/
def waitRead : ThirdWait := .yield waitCycle 1 2 { socket := -1 } 9 coEventRead

/-- The socket becomes readable. -/
theorem third_wait_tells_ready : ∃ final, waitRead.step (.report ⟨coEventIn, 0, 0⟩ 0) = some final ∧
    final.returned = some (.report coEventIn, coOk) ∧ TellsEnd final (.report coEventIn) coOk := by
  have defined : (waitRead.step (.report ⟨coEventIn, 0, 0⟩ 0)).bind ThirdWait.returned =
      some (.report coEventIn, coOk) := by
    decide +kernel
  obtain ⟨final, stepped, returned⟩ := Option.bind_eq_some_iff.1 defined
  exact ⟨final, stepped, returned,
    (@third_wait_tells_iff _ _ _ _ _ _ [] _ _ _ _ _ waitCycle_calls rfl stepped returned).2 (.inr rfl)⟩

/-- The timer of the block event expires and nothing else happens: the wait ends as if the
    connection of the request were dying. -/
theorem third_timeout_untold : ¬ ∀ (cycle : CoCycle) (connection blockConn : Nat) (calls : OpenCalls)
    (socketFd : Int) (eventOP : EpollEvents) (events : List WaitEvent) (final : ThirdWait)
    (wake : WaitWake) (ret : Int), cycle.CallsThird connection blockConn eventOP →
    events.foldlM ThirdWait.step (.yield cycle connection blockConn calls socketFd eventOP) =
      some final →
    final.returned = some (wake, ret) → TellsEnd final wake ret := by
  intro tells
  have defined : (([.timer 0] : List WaitEvent).foldlM ThirdWait.step waitRead).map (fun final =>
      (final.returned, final.originDying)) = some (some (.timer, coException), false) := by
    decide +kernel
  obtain ⟨final, ran, seen⟩ := Option.map_eq_some_iff.1 defined
  obtain ⟨returned, live⟩ := Prod.mk.inj seen
  have told := tells _ _ _ _ _ _ _ _ _ _ waitCycle_calls ran returned
  cases (told.timeout.2 ⟨rfl, live⟩)

end CoServer
