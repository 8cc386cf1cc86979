import CoServer.Core.ThirdSocket

/-! # `m_curConnection`

The hooks of a thread find the connection they suspend in `m_curConnection`.
`func_dispatcher` writes it, and writes the block connection when an event of that
one is dispatched; `yield_thirdsocket` writes the connection of the request again
after it was swapped in, the other two suspensions do not. -/

namespace CoServer

/-- Where a coroutine was swapped out. -/
inductive Suspension where
  | yield
  | yieldTimer
  | yieldThirdsocket (eventOP : EpollEvents)
deriving DecidableEq

namespace CoCycle

/-- `m_handlerException`; those of the inner connections only write logs. -/
def handlerException (self : CoCycle) (connection timestamp : Nat) : Int × CoCycle :=
  match (self.objects connection).handlerException with
  | .eventException => self.eventException connection timestamp
  | .listen | .resumeRead => (coOk, self)

/-- `yield_timer` up to the point where the coroutine is swapped out. -/
def yieldTimer (self : CoCycle) (connection : Nat) : CoCycle :=
  self.modifyObject connection fun object =>
    { object with flagThirdFuncBlocking := true }.setTimer .sleep true

/-- `yield_timer` from the point where the coroutine is swapped in. -/
def resumeTimer (self : CoCycle) (connection : Nat) : CoCycle :=
  self.modifyObject connection fun object =>
    { object with flagThirdFuncBlocking := false }.setTimer .sleep false

/-- The status of the coroutine of a connection. -/
def setStatus (self : CoCycle) (connection : Nat) (coroutineStatus : CoroutineStatus) : CoCycle :=
  self.modifyObject connection fun object => { object with coroutineStatus }

/-- Any other cycle with the same connections; block connections and coroutines are left alone,
    the addresses that are not in use too, and servers keep their listening connections. -/
def replaceOthers (self cycle : CoCycle) : CoCycle :=
  { cycle with
    allocated := self.allocated
    objects := fun connection =>
      let object := self.objects connection
      if object.flagBlockConn || decide (self.allocated ≤ connection) then object
      else { cycle.objects connection with
        connId := object.connId
        blockConn := object.blockConn
        blockOriginConn := object.blockOriginConn
        flagBlockConn := object.flagBlockConn
        coroutineStatus := object.coroutineStatus }
    serverControls := fun server => { cycle.serverControls server with
      listenConnection := (self.serverControls server).listenConnection } }

end CoCycle

/-- A worker thread. -/
structure ThreadRun where
  cycle : CoCycle
  curConnection : Option Nat := none
  /-- the connection whose coroutine is executing -/
  running : Option Nat := none
  /-- the coroutines that were swapped out while a handler was running -/
  suspended : Nat → Option Suspension := fun _ => none

inductive ThreadEvent where
  /-- the read half of a report -/
  | readHalf (connection : Nat) (revents : EpollEvents) (timestamp : Nat)
  | writeHalf (connection : Nat) (revents : EpollEvents) (timestamp : Nat)
  | timer (connection : Nat) (kind : TimerKind) (timestamp : Nat)
  /-- `m_delayConnections`, `m_waitResumes` or `m_waitSingles`, in which no block connections are -/
  | queued (connection : Nat) (timestamp : Nat)
  | yield
  | yieldTimer
  | yieldThirdsocket (calls : OpenCalls) (socketFd : Int) (eventOP : EpollEvents)
  /-- the handler returns -/
  | complete
  /-- the code that runs gives a connection back or keeps it alive -/
  | reset (connection : Nat) (keepalive : Bool)
  /-- the pool is expanded by one pair -/
  | createPair
  /-- whatever else the thread does -/
  | others (cycle : CoCycle)

namespace ThreadRun

/-- `swap_in` -/
def swapIn (self : ThreadRun) (connection : Nat) : Option ThreadRun :=
  let running := { self with
    running := some connection, suspended := Function.update self.suspended connection none }
  match self.suspended connection with
  | none => none
  | some .yield => some running
  | some .yieldTimer => some { running with cycle := self.cycle.resumeTimer connection }
  | some (.yieldThirdsocket eventOP) =>
    match (self.cycle.objects connection).blockConn with
    | none => none
    | some blockConn => some { running with
        curConnection := some connection
        cycle := (self.cycle.resumeThirdsocket connection blockConn eventOP).2 }

/-- `func_dispatcher` to the point where the coroutine runs. -/
def funcDispatcher (self : ThreadRun) (connection timestamp : Nat) : Option ThreadRun :=
  let self := { self with curConnection := some connection }
  let (ret, cycle) := self.cycle.handlerException connection timestamp
  let self := { self with cycle }
  if ret = coException then some self
  else
    let object := self.cycle.objects connection
    -- a block connection has no coroutine of its own
    let origin := if object.flagBlockConn then object.blockOriginConn else some connection
    origin.bind fun origin =>
      match (self.cycle.objects origin).coroutineStatus with
      | .ready => some { self with
          cycle := self.cycle.setStatus origin .suspend
          running := some origin
          suspended := Function.update self.suspended origin none }
      | .suspend => self.swapIn origin

/-- `swap_out`, and the end of `func_dispatcher`. -/
def swapOut (self : ThreadRun) (connection : Nat) (cycle : CoCycle) (suspension : Option Suspension) :
    ThreadRun :=
  { cycle, curConnection := none, running := none
    suspended := Function.update self.suspended connection suspension }

/-- The dispatcher has the thread, and the connection is one of the pool. -/
def dispatches (self : ThreadRun) (connection : Nat) : Bool :=
  self.running.isNone && decide (connection < self.cycle.allocated)

def step (self : ThreadRun) : ThreadEvent → Option ThreadRun
  | .readHalf connection revents timestamp =>
    if self.dispatches connection then
      (self.cycle.readHalf connection revents).bind fun cycle =>
        { self with cycle }.funcDispatcher connection timestamp
    else none
  | .writeHalf connection revents timestamp =>
    if self.dispatches connection && self.cycle.writeHalf connection revents then
      self.funcDispatcher connection timestamp
    else none
  | .timer connection kind timestamp =>
    if self.dispatches connection && ((self.cycle.objects connection).timerEvent kind).flagTimerSet then
      let cycle := self.cycle.modifyObject connection fun object => object.timerExpired kind
      { self with cycle }.funcDispatcher connection timestamp
    else none
  | .queued connection timestamp =>
    if self.dispatches connection && !(self.cycle.objects connection).flagBlockConn then
      self.funcDispatcher connection timestamp
    else none
  | .yield => self.running.map fun connection => self.swapOut connection self.cycle (some .yield)
  | .yieldTimer => self.running.map fun connection =>
    self.swapOut connection (self.cycle.yieldTimer connection) (some .yieldTimer)
  | .yieldThirdsocket calls socketFd eventOP => self.running.bind fun connection =>
    (self.cycle.objects connection).blockConn.map fun blockConn =>
      self.swapOut connection (self.cycle.yieldThirdsocket connection blockConn calls socketFd eventOP)
        (some (.yieldThirdsocket eventOP))
  | .complete => self.running.map fun connection =>
    self.swapOut connection (self.cycle.setStatus connection .ready) none
  | .reset connection keepalive =>
    if self.running.isSome && decide (connection < self.cycle.allocated) &&
        !(self.cycle.objects connection).flagBlockConn then
      some { self with cycle := self.cycle.reset connection keepalive }
    else none
  | .createPair => some { self with cycle := self.cycle.createPair self.cycle.allocated }
  | .others cycle => some { self with cycle := self.cycle.replaceOthers cycle }

/-- Code of a coroutine runs under the connection that has the coroutine. -/
def Attributed (run : ThreadRun) : Prop :=
  ∀ connection, run.running = some connection → run.curConnection = some connection

end ThreadRun

end CoServer
