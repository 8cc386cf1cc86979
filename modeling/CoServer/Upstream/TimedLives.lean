import CoServer.Upstream.Lives

/-! # The timers of a connection

A connection has three events with a timer, and its block connection two more.  A
reset clears the flags of the events and leaves `m_timers` alone, so a timer that is
set then would expire in a later life.  The machine is a connection over its lives,
with every timer that its callbacks and the hooks of the user's functions set.

The outcomes of `epoll_ctl`, of the sockets and of the peer are given beforehand. -/

namespace CoServer

/-- An event and `m_timers`. -/
structure EventTimer where
  flagTimerSet : Bool := false
  /-- the entries of `m_timers` that refer to the event -/
  entries : Nat := 0
deriving DecidableEq

namespace EventTimer

def addTimer (self : EventTimer) : EventTimer :=
  if self.flagTimerSet then self else ⟨true, self.entries + 1⟩

/-- The entry that `m_timerNode` refers to is erased. -/
def delTimer (self : EventTimer) : EventTimer :=
  if !self.flagTimerSet then self else ⟨false, self.entries - 1⟩

/-- `process_timer` takes an entry. -/
def expire (self : EventTimer) : EventTimer := ⟨false, self.entries - 1⟩

/-- `CoEvent::reset` -/
def reset (self : EventTimer) : EventTimer := { self with flagTimerSet := false }

end EventTimer

/-- What the user's function that runs on the coroutine is suspended in. -/
inductive UserWait where
  | executing
  | yield
  /-- `yield_timer`: a sleep, or a wait for a mutex -/
  | sleep
  /-- `yield_thirdsocket` -/
  | third (half : Half)
deriving DecidableEq

/-- The coroutine is in one of the user's functions. -/
def ChainPoint.User : ChainPoint → Bool
  | .userProcess | .requestDestroy _ | .upstreamDestroy _ | .retryDestroy => true
  | _ => false

structure TimedConnection where
  timers : TimerKind → EventTimer := fun _ => {}
  /-- those of the block connection -/
  blockTimers : Half → EventTimer := fun _ => {}
  owner : ConnOwner := .pool
  point : ChainPoint := .returned
  wait : UserWait := .executing
  userDestroy : Bool := false
  /-- the unfinished sub-requests of its request -/
  subRequests : Nat := 0
  /-- an entry with its present version is in `m_delayConnections` -/
  queued : Bool := false
  flagPendingEof : Bool := false
  flagTimedOut : Bool := false
  flagDying : Bool := false
  flagUseBlockConn : Bool := false
  flagThirdFuncBlocking : Bool := false

/-- What a handler finds on its way. -/
structure TimedCalls where
  /-- the outcomes of `modify_connection` before the connect, the reads and the writes -/
  connectAdd : Bool := true
  readAdd : Bool := true
  writeAdd : Bool := true
  /-- what `client_connect` and the loops end with, if they do not wait -/
  connected : Option Int := none
  read : Option Int := none
  written : Option Int := none
  /-- the limits of the upstream allow the connection to be kept -/
  keep : Bool := true
  /-- the parent is not dying, and the request may be retried -/
  retry : Bool := false
  /-- `m_readEvent->m_flagActive` in `upstream_init` -/
  reused : Bool := false

namespace TimedConnection

def armed (self : TimedConnection) (kind : TimerKind) : Bool := (self.timers kind).flagTimerSet

def setTimers (self : TimedConnection) (kind : TimerKind) (f : EventTimer → EventTimer) : TimedConnection :=
  { self with timers := Function.update self.timers kind (f (self.timers kind)) }

def setBlock (self : TimedConnection) (half : Half) (f : EventTimer → EventTimer) : TimedConnection :=
  { self with blockTimers := Function.update self.blockTimers half (f (self.blockTimers half)) }

def addTimer (self : TimedConnection) (kind : TimerKind) : TimedConnection := self.setTimers kind .addTimer

def delTimer (self : TimedConnection) (kind : TimerKind) : TimedConnection := self.setTimers kind .delTimer

def resetBlock (self : TimedConnection) : TimedConnection :=
  { self with blockTimers := fun half => (self.blockTimers half).reset }

/-- `reset`; entries of the queues carry the version of before. -/
def reset (self : TimedConnection) : TimedConnection :=
  { self.resetBlock with
    timers := fun kind => (self.timers kind).reset
    subRequests := 0
    queued := false
    flagPendingEof := false
    flagTimedOut := false
    flagDying := false
    flagUseBlockConn := false
    flagThirdFuncBlocking := false }

/-! ## `CoCallbackRequest` -/

/-- `free_request_connection` and `CoUpstream::free_connection` clean up alike. -/
def free (self : TimedConnection) (keep : Bool) (kept : ConnOwner) : TimedConnection :=
  let self := ((self.delTimer .write).delTimer .read).reset
  if keep then { self.addTimer .read with owner := kept, point := .returned }
  else { self with owner := .pool, point := .returned }

def freeRequest (self : TimedConnection) (retCode : Int) : TimedConnection :=
  self.free (retCode = coOk) .client

def requestFinalize (self : TimedConnection) (retCode : Int) : TimedConnection :=
  if self.userDestroy then { self with point := .requestDestroy retCode } else self.freeRequest retCode

/-- `request_write` from the end of its loop. -/
def requestWritten (self : TimedConnection) (retCode : Int) : TimedConnection :=
  (self.delTimer .write).requestFinalize retCode

/-- The loop of `request_write`.  The hooks fail on a dying connection. -/
def requestSend (self : TimedConnection) (retCode : Int) (calls : TimedCalls) : TimedConnection :=
  if self.flagDying then self.requestWritten coError
  else
    match calls.written with
    | none => { self with point := .requestWrite retCode }
    | some ret => self.requestWritten (if ret ≠ coOk then coError else retCode)

def requestWrite (self : TimedConnection) (retCode : Int) (calls : TimedCalls) : TimedConnection :=
  let self := self.addTimer .write
  if !calls.writeAdd then self.requestWritten coError else self.requestSend retCode calls

/-- `request_read` from the end of its loop. -/
def requestReceived (self : TimedConnection) (ret : Int) (calls : TimedCalls) : TimedConnection :=
  let self := self.delTimer .read
  if ret ≠ coOk then self.requestWrite coError calls
  else { self.addTimer .read with point := .userProcess }

/-- The loop of `request_read`. -/
def requestRecv (self : TimedConnection) (calls : TimedCalls) : TimedConnection :=
  if self.flagDying then self.requestReceived coError calls
  else
    match calls.read with
    | none => { self with point := .requestRead }
    | some ret => self.requestReceived ret calls

/-- `request_init` and `request_read`. -/
def requestInit (self : TimedConnection) (calls : TimedCalls) : TimedConnection :=
  let self := { self.delTimer .read with owner := .request }.addTimer .read
  if !calls.readAdd then self.requestReceived coError calls else self.requestRecv calls

/-- `request_process` behind `m_userProcess`. -/
def requestProcessed (self : TimedConnection) (ret : Int) (calls : TimedCalls) : TimedConnection :=
  (self.delTimer .read).requestWrite ret calls

/-! ## `CoCallbackUpstream` -/

def freeUpstream (self : TimedConnection) (retCode : Int) (calls : TimedCalls) : TimedConnection :=
  self.free (decide (retCode = coOk) && calls.keep) .reuse

def upstreamFinalize (self : TimedConnection) (retCode : Int) (calls : TimedCalls) : TimedConnection :=
  if calls.retry && retCode != coOk then { self.freeUpstream retCode calls with point := .retryUpstream }
  else if self.userDestroy then { self with point := .upstreamDestroy retCode }
  else self.freeUpstream retCode calls

/-- `upstream_read` from the end of its loop; sub-requests have no `m_userProcess`. -/
def upstreamReceived (self : TimedConnection) (ret : Int) (calls : TimedCalls) : TimedConnection :=
  (self.delTimer .read).upstreamFinalize ret calls

def upstreamRecv (self : TimedConnection) (calls : TimedCalls) : TimedConnection :=
  if self.flagDying then self.upstreamReceived coError calls
  else
    match calls.read with
    | none => { self with point := .upstreamRead }
    | some ret => self.upstreamReceived ret calls

def upstreamRead (self : TimedConnection) (calls : TimedCalls) : TimedConnection :=
  let self := self.addTimer .read
  if !calls.readAdd then self.upstreamReceived coError calls else self.upstreamRecv calls

/-- `upstream_write` from the end of its loop; that its cleanup succeeds is assumed. -/
def upstreamWritten (self : TimedConnection) (ret : Int) (calls : TimedCalls) : TimedConnection :=
  let self := self.delTimer .write
  if ret ≠ coOk then self.upstreamFinalize coError calls else self.upstreamRead calls

def upstreamSend (self : TimedConnection) (calls : TimedCalls) : TimedConnection :=
  if self.flagDying then self.upstreamWritten coError calls
  else
    match calls.written with
    | none => { self with point := .upstreamWrite }
    | some ret => self.upstreamWritten ret calls

def upstreamWrite (self : TimedConnection) (calls : TimedCalls) : TimedConnection :=
  let self := self.addTimer .write
  if !calls.writeAdd then self.upstreamWritten coError calls else self.upstreamSend calls

/-- `upstream_init` behind `client_connect`. -/
def upstreamConnected (self : TimedConnection) (ret : Int) (calls : TimedCalls) : TimedConnection :=
  let self := self.delTimer .write
  if ret ≠ coOk then self.upstreamFinalize coError calls else self.upstreamWrite calls

def upstreamConnect (self : TimedConnection) (calls : TimedCalls) : TimedConnection :=
  if self.flagDying then self.upstreamConnected coError calls
  else
    match calls.connected with
    | none => { self with point := .clientConnect }
    | some ret => self.upstreamConnected ret calls

def upstreamInit (self : TimedConnection) (calls : TimedCalls) : TimedConnection :=
  if calls.reused then (self.delTimer .read).upstreamWrite calls
  else
    let self := self.addTimer .write
    if !calls.connectAdd then self.upstreamConnected coError calls else self.upstreamConnect calls

/-! ## Dispatches -/

/-- The user's function goes on behind the call it was suspended in. -/
def resumeUser (self : TimedConnection) : TimedConnection :=
  match self.wait with
  | .executing | .yield => { self with wait := .executing }
  | .sleep => { self.delTimer .sleep with wait := .executing, flagThirdFuncBlocking := false }
  | .third half => { (self.setBlock half .delTimer).resetBlock with
      wait := .executing, flagUseBlockConn := false }

/-- The coroutine is swapped in. -/
def swapIn (self : TimedConnection) (calls : TimedCalls) : Option TimedConnection :=
  match self.point with
  | .returned =>
    match self.owner with
    | .client => some (self.requestInit calls)
    | .request => some (self.upstreamInit calls)
    | .pool | .reuse => none
  | .requestRead => some (self.requestRecv calls)
  | .requestWrite retCode => some (self.requestSend retCode calls)
  | .clientConnect => some (self.upstreamConnect calls)
  | .upstreamWrite => some (self.upstreamSend calls)
  | .upstreamRead => some (self.upstreamRecv calls)
  | .userProcess | .requestDestroy _ | .upstreamDestroy _ | .retryDestroy => some self.resumeUser
  | .retryUpstream => none

def eventException (self : TimedConnection) : ExceptionAnswer × TimedConnection :=
  if !(self.flagTimedOut || self.flagPendingEof || self.flagDying) then (.goesOn, self)
  else
    let self := { self with flagDying := true }
    if self.flagThirdFuncBlocking then (.exception, self)
    else if self.flagUseBlockConn then (.goesOn, self)
    else if self.owner ≠ .request then (.frees, self)
    else if self.subRequests ≠ 0 then (.exception, self)
    else (.goesOn, self)

def funcDispatcher (self : TimedConnection) (calls : TimedCalls) : Option TimedConnection :=
  match self.eventException with
  | (.exception, self) => some self
  | (.frees, self) => if self.owner = .pool then none else some (self.free false .pool)
  | (.goesOn, self) => self.swapIn calls

/-- What `process_timer` does to the connection of an event before it is dispatched. -/
def timerExpired (self : TimedConnection) (kind : TimerKind) : TimedConnection :=
  let self := self.setTimers kind .expire
  match kind with
  | .read | .write => { self with flagTimedOut := true }
  | .sleep => { self with flagTimedOut := false, flagThirdFuncBlocking := false }

end TimedConnection

/-! ## The machine -/

/-- What becomes of a request that is retried. -/
inductive Retried where
  /-- it gets no connection -/
  | none
  | other
  /-- it gets the one that it had -/
  | same

inductive TimedEvent where
  | accept (userDestroy : Bool)
  /-- an upstream hands the connection on -/
  | assign (userDestroy : Bool)
  /-- the same, but the protocol cannot be created -/
  | drop
  /-- its parent is dying -/
  | markDying
  /-- the connection's entry in `m_delayConnections` is popped -/
  | popDelay (calls : TimedCalls)
  /-- any other dispatch; `eof` is set by a report with EPOLLRDHUP -/
  | dispatch (eof : Bool) (calls : TimedCalls)
  | expire (kind : TimerKind) (calls : TimedCalls)
  | expireBlock (half : Half) (calls : TimedCalls)
  /-- epoll reports the third-party socket -/
  | blockEvent (calls : TimedCalls)
  /-- the user's function calls something -/
  | yield
  | sleep
  | third (half : Half)
  | addUpstream
  | returns (ret : Int) (calls : TimedCalls)
  | subRequestEnds
  | retryUpstream (retried : Retried)

namespace TimedConnection

/-- The connection's own code has the thread. -/
def running (self : TimedConnection) : Bool :=
  decide (self.point = .retryUpstream) || self.point.User && decide (self.wait = .executing)

/-- The user's function has the thread. -/
def userRuns (self : TimedConnection) : Bool := self.point.User && decide (self.wait = .executing)

/-- The user's function returns. -/
def userReturns (self : TimedConnection) (ret : Int) (calls : TimedCalls) : TimedConnection :=
  match self.point with
  | .userProcess => self.requestProcessed ret calls
  | .requestDestroy retCode => self.freeRequest retCode
  | .upstreamDestroy retCode => self.freeUpstream retCode calls
  | _ => { self with point := .returned }

def step (self : TimedConnection) : TimedEvent → Option TimedConnection
  | .accept userDestroy =>
    if self.owner = .pool ∧ self.point = .returned then
      some { self with owner := .client, userDestroy, queued := true }
    else none
  | .assign userDestroy =>
    if (self.owner = .pool ∨ self.owner = .reuse) ∧ self.point = .returned then
      some { self with owner := .request, userDestroy, queued := true }
    else none
  | .drop =>
    if (self.owner = .pool ∨ self.owner = .reuse) ∧ self.point = .returned then some (self.free false .pool)
    else none
  | .markDying =>
    if self.owner = .request then some { self with flagDying := true, queued := true } else none
  | .popDelay calls =>
    if self.queued && !self.running then { self with queued := false }.funcDispatcher calls else none
  | .dispatch eof calls =>
    if self.owner ≠ .pool ∧ self.running = false then
      { self with flagPendingEof := self.flagPendingEof || eof }.funcDispatcher calls
    else none
  | .expire kind calls =>
    if 0 < (self.timers kind).entries ∧ self.running = false then
      (self.timerExpired kind).funcDispatcher calls
    else none
  -- `event_exception` of a block connection always goes on
  | .expireBlock half calls =>
    if 0 < (self.blockTimers half).entries ∧ self.running = false ∧ self.point ≠ .returned then
      (self.setBlock half .expire).swapIn calls
    else none
  | .blockEvent calls =>
    match self.wait with
    | .third _ => if self.point.User then self.swapIn calls else none
    | _ => none
  | .yield => if self.userRuns then some { self with wait := .yield } else none
  | .sleep =>
    if self.userRuns then
      some { self.addTimer .sleep with wait := .sleep, flagThirdFuncBlocking := true }
    else none
  | .third half =>
    if self.userRuns && !self.flagDying then
      some { self.setBlock half .addTimer with wait := .third half, flagUseBlockConn := true }
    else none
  | .addUpstream =>
    if self.userRuns ∧ self.owner = .request then some { self with subRequests := self.subRequests + 1 }
    else none
  | .returns ret calls => if self.userRuns then some (self.userReturns ret calls) else none
  | .subRequestEnds =>
    if 0 < self.subRequests then
      some { self with subRequests := self.subRequests - 1, queued := self.queued || decide (self.subRequests = 1) }
    else none
  | .retryUpstream retried =>
    if self.point = .retryUpstream then
      match retried with
      | .none => some { self with point := if self.userDestroy then .retryDestroy else .returned }
      | .other => some { self with point := .returned }
      | .same => some { self with point := .returned, owner := .request, queued := true }
    else none

end TimedConnection

end CoServer
