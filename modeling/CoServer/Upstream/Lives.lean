import CoServer.Lib.Run
import CoServer.Core.Dispatcher

/-! # Connections over their lives

A connection is reset when a request on it has come to its end, and then serves
another one: the next request of the same client, or, after it was given back,
whoever gets it.  What refers to a connection from outside, an entry of a queue or a
registration with the kernel, carries the `m_version` it was made under.

A life of a connection is the time between two of its resets.  Entries and
registrations are marked here with the life they were made in, and every call of
`func_dispatcher` is written down with the life it falls in. -/

namespace CoServer

/-- `epoll_ctl` on one descriptor: what it is registered for afterwards, unless the call is
    rejected. -/
def EpollOp.apply : EpollOp → Option Registration → Registration → Option (Option Registration)
  | .add, none, registration | .mod, some _, registration => some (some registration)
  | .del, some _, _ => some none
  | .add, some _, _ | .mod, none, _ | .del, none, _ => none

/-- This is what the kernel does. -/
theorem Kernel.epollCtl_apply (kernel : Kernel) (op : EpollOp) (fd : Int) (registration : Registration) :
    kernel.epollCtl op fd registration = match op.apply (kernel.interest fd) registration with
      | none => (-1, kernel)
      | some interest => (0, { kernel with interest := Function.update kernel.interest fd interest }) := by
  unfold Kernel.epollCtl EpollOp.apply
  cases op <;> cases kernel.interest fd <;> rfl

/-! ## One connection -/

/-- The call that the coroutine of a connection is in. -/
inductive ChainPoint where
  /-- no handler, or the handler has returned -/
  | returned
  | requestRead
  | userProcess
  | requestWrite (retCode : Int)
  /-- in `m_userDestroy`; the connection is freed with `retCode` next -/
  | requestDestroy (retCode : Int)
  | clientConnect
  | upstreamWrite
  | upstreamRead
  | upstreamDestroy (retCode : Int)
  /-- in `retry_upstream` -/
  | retryUpstream
  /-- in the `m_userDestroy` of a retry that got no connection -/
  | retryDestroy
deriving DecidableEq

/-- Who has a connection; only one that a request has has a `m_request`. -/
inductive ConnOwner where
  | pool
  /-- open for a client whose next request has not come -/
  | client
  /-- in the reuse list of an upstream -/
  | reuse
  | request
deriving DecidableEq

structure ConnLife where
  object : CoConnection := {}
  /-- what its descriptor is registered for -/
  interest : Option Registration := none
  /-- the life in which that was registered -/
  since : Nat := 0
  /-- the number of resets -/
  life : Nat := 0
  owner : ConnOwner := .pool
  point : ChainPoint := .returned
  /-- its requests have a `m_userDestroy` -/
  userDestroy : Bool := false
  /-- `m_upstreamRequests` of its request is not empty -/
  subRequests : Bool := false

/-- What a handler finds on its way. -/
structure ChainCalls where
  /-- the message to be sent is not empty -/
  sends : Bool := true
  /-- the limits of the upstream allow the connection to be kept -/
  keep : Bool := true
  /-- the parent is not dying, and the request may be retried -/
  retry : Bool := false

/-- The answer of `event_exception`. -/
inductive ExceptionAnswer where
  | goesOn
  | exception
  /-- the connection is freed -/
  | frees
deriving DecidableEq

namespace ConnLife

def modifyConnection (self : ConnLife) (eventType : EventType) (eventOP : EpollEvents) : Int × ConnLife :=
  let epollPreEvents := self.object.epollCurEvents
  let epollCurEvents := eventType.change epollPreEvents eventOP
  if epollCurEvents = epollPreEvents ∧ self.object.epollCurVersion = self.object.version then (coOk, self)
  else
    match (EpollOp.choose epollPreEvents epollCurEvents).apply self.interest
      ⟨epollCurEvents, self.object.connId, self.object.version⟩ with
    | none => (coError, self)
    | some interest => (coOk, { self with
        object := CoCycle.registered epollCurEvents self.object.version (epollCurEvents.meets coEventRead)
          (epollCurEvents.meets coEventOut) self.object
        interest
        since := self.life })

def delConnection (self : ConnLife) : ConnLife :=
  if self.object.epollCurEvents = .zero then self
  else
    match EpollOp.del.apply self.interest ⟨.zero, 0, 0⟩ with
    | none => self
    | some interest => { self with
        object := CoCycle.registered .zero 0 false false self.object, interest }

/-- `reset(true)` -/
def reset (self : ConnLife) : ConnLife :=
  { self with object := self.object.resetRequest, life := self.life + 1 }

/-- The connection goes back to the pool; its descriptor is closed, and no longer registered then. -/
def close (self : ConnLife) : ConnLife :=
  let self := self.delConnection.reset
  { self with object := self.object.resetOwner, interest := none, owner := .pool }

/-! ### `CoCallbackRequest` -/

/-- `free_request_connection` -/
def freeRequest (self : ConnLife) (retCode : Int) : ConnLife :=
  if retCode ≠ coOk then { self.close with point := .returned }
  else
    let self := (self.reset.modifyConnection .add coEventIn).2
    let self := (self.modifyConnection .del coEventOut).2
    { self with
      object := { self.object with handler := some .requestInit }, owner := .client, point := .returned }

def requestFinalize (self : ConnLife) (retCode : Int) : ConnLife :=
  if self.userDestroy then { self with point := .requestDestroy retCode } else self.freeRequest retCode

/-- `request_write` from the end of its loop. -/
def requestWritten (self : ConnLife) (retCode : Int) : ConnLife :=
  (self.modifyConnection .del coEventOut).2.requestFinalize retCode

/-- `request_write` to its first `tcp_write`. -/
def requestWrite (self : ConnLife) (retCode : Int) (calls : ChainCalls) : ConnLife :=
  let (added, self) := self.modifyConnection .add coEventOut
  if added ≠ coOk then self.requestWritten coError
  else if calls.sends then { self with point := .requestWrite retCode }
  else self.requestWritten retCode

/-- `request_read` from the end of its loop. -/
def requestReceived (self : ConnLife) (ret : Int) (calls : ChainCalls) : ConnLife :=
  let self := (self.modifyConnection .del coEventIn).2
  if ret ≠ coOk then self.requestWrite coError calls else { self with point := .userProcess }

/-- `request_init` and `request_read` to the first `tcp_read`. -/
def requestInit (self : ConnLife) (calls : ChainCalls) : ConnLife :=
  let (added, self) := { self with owner := .request }.modifyConnection .add coEventRead
  if added ≠ coOk then self.requestReceived coError calls else { self with point := .requestRead }

/-! ### `CoCallbackUpstream` -/

/-- `CoUpstream::free_connection` -/
def freeUpstream (self : ConnLife) (retCode : Int) (calls : ChainCalls) : ConnLife :=
  if retCode ≠ coOk ∨ calls.keep = false then { self.close with point := .returned }
  else
    let self := (self.reset.modifyConnection .del (coEventIn.union coEventOut)).2
    { self with owner := .reuse, point := .returned }

def upstreamFinalize (self : ConnLife) (retCode : Int) (calls : ChainCalls) : ConnLife :=
  if calls.retry && retCode != coOk then { self.freeUpstream retCode calls with point := .retryUpstream }
  else if self.userDestroy then { self with point := .upstreamDestroy retCode }
  else self.freeUpstream retCode calls

/-- `upstream_read` from the end of its loop; sub-requests have no `m_userProcess`. -/
def upstreamReceived (self : ConnLife) (ret : Int) (calls : ChainCalls) : ConnLife :=
  (self.modifyConnection .del coEventIn).2.upstreamFinalize ret calls

/-- `upstream_read` to its first `tcp_read`. -/
def upstreamRead (self : ConnLife) (calls : ChainCalls) : ConnLife :=
  let (added, self) := self.modifyConnection .add coEventIn
  if added ≠ coOk then self.upstreamReceived coError calls else { self with point := .upstreamRead }

/-- `upstream_write` from the end of its loop.  If its cleanup fails, the attempt is finalized
    twice, and nothing is defined. -/
def upstreamWritten (self : ConnLife) (ret : Int) (calls : ChainCalls) : Option ConnLife :=
  let (deleted, self) := self.modifyConnection .del coEventOut
  if deleted ≠ coOk then none
  else if ret ≠ coOk then some (self.upstreamFinalize coError calls)
  else some (self.upstreamRead calls)

/-- `upstream_write` to its first `tcp_write`. -/
def upstreamWrite (self : ConnLife) (calls : ChainCalls) : Option ConnLife :=
  let (added, self) := self.modifyConnection .add coEventOut
  if added ≠ coOk then self.upstreamWritten coError calls
  else if calls.sends then some { self with point := .upstreamWrite }
  else self.upstreamWritten coOk calls

/-- `upstream_init` to its `client_connect`. -/
def upstreamInit (self : ConnLife) (calls : ChainCalls) : Option ConnLife :=
  if self.object.readEvent.flagActive then self.upstreamWrite calls
  else
    let (added, self) := self.modifyConnection .add coEventWrite
    if added ≠ coOk then some (self.upstreamFinalize coError calls)
    else some { self with point := .clientConnect }

/-! ### Its coroutine -/

def setStatus (self : ConnLife) (coroutineStatus : CoroutineStatus) : ConnLife :=
  { self with object := { self.object with coroutineStatus } }

/-- The handler is called; a connection without one of these two cannot be dispatched. -/
def start (self : ConnLife) (calls : ChainCalls) : Option ConnLife :=
  match self.object.handler with
  | some .requestInit => some (self.requestInit calls)
  | some .upstreamInit => self.upstreamInit calls
  | some .listen | some .resumeRead | none => none

/-- The call that the coroutine is in returns, or the loop around it ends, with `ret`. -/
def returns (self : ConnLife) (ret : Int) (calls : ChainCalls) : Option ConnLife :=
  match self.point with
  | .returned | .retryUpstream => none
  | .requestRead => some (self.requestReceived ret calls)
  | .userProcess => some (self.requestWrite ret calls)
  | .requestWrite retCode => some (self.requestWritten (if ret ≠ coOk then coError else retCode))
  | .requestDestroy retCode => some (self.freeRequest retCode)
  | .clientConnect =>
    if ret ≠ coOk then some (self.upstreamFinalize coError calls) else self.upstreamWrite calls
  | .upstreamWrite => self.upstreamWritten ret calls
  | .upstreamRead => some (self.upstreamReceived ret calls)
  | .upstreamDestroy retCode => some (self.freeUpstream retCode calls)
  | .retryDestroy => some { self with point := .returned }

/-- `event_exception`, and the connection if it is in trouble. -/
def eventException (self : ConnLife) : ExceptionAnswer × ConnLife :=
  if !(self.object.flagTimedOut || self.object.flagPendingEof || self.object.flagDying) then (.goesOn, self)
  else
    let self := { self with object := { self.object with flagDying := true } }
    if self.object.flagThirdFuncBlocking then (.exception, self)
    else if self.object.flagUseBlockConn then (.goesOn, self)
    else if self.owner ≠ .request then (.frees, self)
    else if self.subRequests then (.exception, self)
    else (.goesOn, self)

end ConnLife

/-! ## The thread -/

/-- `m_delayConnections`, `m_waitResumes` and `m_waitSingles` -/
inductive WorkQueue where
  | delayConnections
  | waitResumes
  | waitSingles
deriving DecidableEq

/-- A connection with its version, as it is pushed to a queue. -/
structure QueueEntry where
  connection : Nat
  version : Nat
  /-- the life in which the version was read -/
  life : Nat

/-- An element of the array of `epoll_wait`. -/
structure BatchEntry where
  connection : Nat
  report : EpollReport
  /-- the life in which the report's registration was made -/
  life : Nat

/-- A call of `func_dispatcher`. -/
structure DispatchCall where
  connection : Nat
  /-- the life of the entry or the registration it was called for, if for one of these -/
  since : Option Nat
  /-- the life of the connection at the call -/
  life : Nat

/-- Everything about a connection that others may set: its flags, and whether its request has
    sub-requests. -/
structure ConnMarks where
  flagPendingEof : Bool := false
  flagTimedOut : Bool := false
  flagDying : Bool := false
  flagUseBlockConn : Bool := false
  flagThirdFuncBlocking : Bool := false
  subRequests : Bool := false

def ConnLife.mark (self : ConnLife) (marks : ConnMarks) : ConnLife :=
  { self with
    object := { self.object with
      flagPendingEof := marks.flagPendingEof
      flagTimedOut := marks.flagTimedOut
      flagDying := marks.flagDying
      flagUseBlockConn := marks.flagUseBlockConn
      flagThirdFuncBlocking := marks.flagThirdFuncBlocking }
    subRequests := marks.subRequests }

/-- The connection gets an owner, and the handler of its first dispatch. -/
def ConnLife.give (self : ConnLife) (owner : ConnOwner) (handler : Handler) (userDestroy : Bool) : ConnLife :=
  { self with object := { self.object with handler := some handler }, owner, userDestroy }

def ConnLife.pendingEof (self : ConnLife) : ConnLife :=
  { self with object := { self.object with flagPendingEof := true } }

/-- Which half of an element of the batch comes next. -/
inductive Half where
  | read
  | write
deriving DecidableEq

structure LifeRun where
  conns : Nat → ConnLife := fun connection => { object := { connId := connection + 1 } }
  queues : WorkQueue → List QueueEntry := fun _ => []
  /-- every `m_coroutineData` there was -/
  coroutineData : List QueueEntry := []
  batch : List BatchEntry := []
  /-- the element of the batch whose version has been checked -/
  reporting : Option (Half × BatchEntry) := none
  /-- the connection whose coroutine is executing -/
  running : Option Nat := none
  calls : List DispatchCall := []

inductive LifeEvent where
  /-- a client is accepted -/
  | accept (connection : Nat) (userDestroy : Bool)
  /-- the code that runs calls `add_upstream` or `add_upstream_detach`, and gets the connection -/
  | addUpstream (connection : Nat) (userDestroy : Bool)
  /-- the same, but the protocol cannot be created -/
  | dropUpstream (connection : Nat)
  /-- the connection that `retry_upstream` gets, if it gets one -/
  | retryUpstream (retried : Option Nat)
  | mark (connection : Nat) (marks : ConnMarks)
  /-- `m_coroutineData` of a new request -/
  | capture (connection : Nat)
  /-- any `m_coroutineData` is pushed to one of the two queues of `resume_async` -/
  | resume (single : Bool) (entry : Nat)
  /-- a connection with its present version is pushed to `m_delayConnections` -/
  | delay (connection : Nat)
  | pop (queue : WorkQueue) (calls : ChainCalls)
  /-- `epoll_wait` returns reports of connections that are registered -/
  | epollWait (reports : List (Nat × EpollEvents))
  /-- the version of the next element of the batch is checked -/
  | check
  | readHalf (calls : ChainCalls)
  | writeHalf (calls : ChainCalls)
  /-- a timer of the connection expires -/
  | timer (connection : Nat) (calls : ChainCalls)
  /-- an event of the block connection resumes the coroutine of the connection -/
  | blockConn (connection : Nat)
  /-- the coroutine that runs goes on -/
  | returns (ret : Int) (calls : ChainCalls)
  /-- the coroutine that runs is swapped out -/
  | suspend

namespace LifeRun

def put (self : LifeRun) (connection : Nat) (conn : ConnLife) : LifeRun :=
  { self with conns := Function.update self.conns connection conn }

/-- The entry of a connection under its present version. -/
def entry (self : LifeRun) (connection : Nat) : QueueEntry :=
  ⟨connection, (self.conns connection).object.version, (self.conns connection).life⟩

def push (self : LifeRun) (queue : WorkQueue) (entry : QueueEntry) : LifeRun :=
  { self with queues := Function.update self.queues queue (self.queues queue ++ [entry]) }

/-- The coroutine of a connection has the thread, until its handler returns. -/
def enter (self : LifeRun) (connection : Nat) (conn : ConnLife) : LifeRun :=
  if conn.point = .returned then { self.put connection (conn.setStatus .ready) with running := none }
  else { self.put connection conn with running := some connection }

/-- `func_dispatcher` on a main connection. -/
def funcDispatcher (self : LifeRun) (connection : Nat) (since : Option Nat) (calls : ChainCalls) :
    Option LifeRun :=
  let self : LifeRun := { self with
    calls := self.calls ++ [⟨connection, since, (self.conns connection).life⟩] }
  match (self.conns connection).eventException with
  | (.exception, conn) => some (self.put connection conn)
  | (.frees, conn) => if conn.owner = .pool then none else some (self.put connection conn.close)
  | (.goesOn, conn) =>
    match conn.object.coroutineStatus with
    | .suspend => some { self.put connection conn with running := some connection }
    | .ready =>
      ((conn.setStatus .suspend).start calls).map fun conn => self.enter connection conn

/-- The dispatcher has the thread. -/
def idle (self : LifeRun) : Bool := self.running.isNone && self.reporting.isNone

/-- A connection is assigned to a sub-request and pushed. -/
def assign (self : LifeRun) (connection : Nat) (userDestroy : Bool) : LifeRun :=
  let self := self.put connection ((self.conns connection).give .request .upstreamInit userDestroy)
  self.push .delayConnections (self.entry connection)

def available (self : LifeRun) (connection : Nat) : Bool :=
  decide ((self.conns connection).owner = .pool) || decide ((self.conns connection).owner = .reuse)

def step (self : LifeRun) : LifeEvent → Option LifeRun
  | .accept connection userDestroy =>
    if (self.conns connection).owner = .pool then
      let self := self.put connection ((self.conns connection).give .client .requestInit userDestroy)
      some (self.push .delayConnections (self.entry connection))
    else none
  | .addUpstream connection userDestroy =>
    if self.running.isSome && self.available connection then some (self.assign connection userDestroy)
    else none
  | .dropUpstream connection =>
    if self.running.isSome && self.available connection then
      some (self.put connection (self.conns connection).close)
    else none
  | .retryUpstream retried => self.running.bind fun connection =>
    let conn := self.conns connection
    if conn.point = .retryUpstream then
      match retried with
      | none => some (self.enter connection
          { conn with point := if conn.userDestroy then .retryDestroy else .returned })
      | some other =>
        if self.available other then
          let self := self.assign other conn.userDestroy
          some (self.enter connection { self.conns connection with point := .returned })
        else none
    else none
  | .mark connection marks => some (self.put connection ((self.conns connection).mark marks))
  | .capture connection => some { self with coroutineData := self.coroutineData ++ [self.entry connection] }
  | .resume single entry => self.coroutineData[entry]?.map fun entry =>
    self.push (if single then .waitSingles else .waitResumes) entry
  | .delay connection => some (self.push .delayConnections (self.entry connection))
  | .pop queue calls =>
    match self.queues queue with
    | [] => none
    | entry :: rest =>
      if self.idle && self.batch.isEmpty then
        let self := { self with queues := Function.update self.queues queue rest }
        if (self.conns entry.connection).object.version ≠ entry.version then some self
        else self.funcDispatcher entry.connection (some entry.life) calls
      else none
  | .epollWait reports =>
    if self.idle && self.batch.isEmpty then
      some { self with batch := reports.filterMap fun (connection, events) =>
        let conn := self.conns connection
        conn.interest.map fun registration =>
          ⟨connection, ⟨events, registration.connId, registration.version⟩, conn.since⟩ }
    else none
  | .check =>
    match self.batch with
    | [] => none
    | entry :: batch =>
      if self.idle then
        if (self.conns entry.connection).object.version ≠ entry.report.version then some { self with batch }
        else some { self with batch, reporting := some (.read, entry) }
      else none
  | .readHalf calls =>
    match self.reporting with
    | some (.read, entry) =>
      let self := { self with reporting := some (.write, entry) }
      let revents := entry.report.revents
      let conn := self.conns entry.connection
      if (revents.epollin || revents.epollrdhup) && conn.object.readEvent.flagActive then
        let self := if revents.epollrdhup then self.put entry.connection conn.pendingEof else self
        self.funcDispatcher entry.connection (some entry.life) calls
      else some self
    | some (.write, _) | none => none
  | .writeHalf calls =>
    match self.reporting with
    | some (.write, entry) =>
      if self.running.isNone then
        let self := { self with reporting := none }
        if entry.report.revents.epollout &&
            (self.conns entry.connection).object.writeEvent.flagActive then
          self.funcDispatcher entry.connection (some entry.life) calls
        else some self
      else none
    | some (.read, _) | none => none
  | .timer connection calls =>
    if self.idle && self.batch.isEmpty then self.funcDispatcher connection none calls else none
  | .blockConn connection =>
    if self.idle && (self.conns connection).object.coroutineStatus = .suspend then
      some { self with running := some connection }
    else none
  | .returns ret calls => self.running.bind fun connection =>
    ((self.conns connection).returns ret calls).map fun conn => self.enter connection conn
  | .suspend => self.running.bind fun connection =>
    if (self.conns connection).point = .retryUpstream then none else some { self with running := none }

end LifeRun

end CoServer
