import CoServer.Core.CallbackRequest

/-! # `CoServerControl`: accepting connections up to a limit

The handler of the listening connection is a coroutine.  It is modelled step by
step: where it stands is a `ListenState`, and it can be suspended inside every
`accept`.  The steps of several servers and of everyone else who uses the pool
may come in any order. -/

namespace CoServer

namespace CoCycle

/-! ## The functions -/

def limit (control : CoServerControl) : Int :=
  if control.curConnectionSize ≥ control.confServer.maxConnections then 0
  else
    let maxNewConnectionSize := control.confServer.maxConnections - control.curConnectionSize
    if maxNewConnectionSize < 64 then maxNewConnectionSize else 64

/-- What `init_connection` does with the connection it got. -/
def acceptClient (self : CoCycle) (server : Nat) (connection : Nat) : CoCycle :=
  let self := self.modifyObject connection fun object => { object with
    serverControl := some server
    handler := some .requestInit
    handlerCleanups := object.handlerCleanups ++ [.funcCleanup] }
  let self := self.modifyServer server fun control =>
    { control with curConnectionSize := control.curConnectionSize + 1 }
  self.pushDelay connection

/-- `init_connection` on the descriptor that `accept` returned. -/
def initConnection (self : CoCycle) (server : Nat) (calls : OpenCalls) (now : Nat) (socketFd : Int) :
    (Int × CoCycle) × Option Nat :=
  match self.getConnectionFd calls now socketFd with
  | (self, none) => ((coError, self), none)
  | (self, some connection) => ((coOk, self.acceptClient server connection), some connection)

/-- What `init` does with the listening connection it got. -/
def listenOn (self : CoCycle) (server : Nat) (connection : Nat) : CoCycle :=
  let self := self.modifyServer server fun control => { control with listenConnection := connection }
  let self := self.modifyObject connection fun object => { object with
    handler := some .listen, handlerException := .listen }
  self.modifyListening server

/-- `CoServerControl::init`, after the handler functions were found. -/
def initServer (self : CoCycle) (server : Nat) (calls : OpenCalls) (now : Nat) :
    (Int × CoCycle) × Option Nat :=
  let conf := (self.serverControls server).confServer
  match self.getConnectionIp calls now conf.listenIP conf.listenPort true with
  | (self, none) => ((coError, self), none)
  | (self, some connection) => ((coOk, self.listenOn server connection), some connection)

/-! ## The listening coroutine -/

/-- Where the handler of the listening connection stands. -/
inductive ListenState where
  /-- before `CoServerControl::init` -/
  | created
  /-- the handler returned; the next event starts it again -/
  | finished
  /-- at the call of `limit` -/
  | looping
  /-- at the call of `accept` in turn `i` of `maxAcceptSize` -/
  | accepting (i maxAcceptSize : Int)
  /-- suspended inside that call -/
  | suspended (i maxAcceptSize : Int)
deriving DecidableEq

/-- The turn after turn `i`; behind the last one the handler loops. -/
def ListenState.nextTurn (i maxAcceptSize : Int) : ListenState :=
  if i + 1 < maxAcceptSize then .accepting (i + 1) maxAcceptSize else .looping

inductive AcceptResult where
  /-- an error, or `EAGAIN` again after the coroutine was resumed -/
  | failed
  | client (calls : OpenCalls) (now : Nat) (socketFd : Int)

/-- A worker thread: the pool users, where each listening coroutine stands, and
    the client connections each server has accepted and that are not freed. -/
structure AcceptRun where
  cycle : CoCycle
  inUse : List Nat
  coroutine : Nat → ListenState
  clients : Nat → List Nat

inductive AcceptEvent where
  | initServer (server : Nat) (calls : OpenCalls) (now : Nat)
  /-- an epoll event on the listening socket while no handler runs -/
  | start (server : Nat)
  | limit (server : Nat)
  /-- `accept` would block -/
  | suspend (server : Nat)
  /-- `accept` returns, at once or after the coroutine was resumed -/
  | accept (server : Nat) (result : AcceptResult)
  | freeConnection (connection : Nat)
  /-- a request on the connection ends with `retCode` -/
  | freeRequestConnection (connection : Nat) (retCode : Int)
  /-- another user of the pool asks for a connection -/
  | getConnection (calls : OpenCalls) (now : Nat) (ip : Bytes) (port : Nat)

namespace AcceptRun

def moveTo (self : AcceptRun) (server : Nat) (state : ListenState) : AcceptRun :=
  { self with coroutine := Function.update self.coroutine server state }

/-- A connection that `init_connection` accepted. -/
def addClient (self : AcceptRun) (server : Nat) (connection : Nat) : AcceptRun :=
  { self with
    inUse := connection :: self.inUse
    clients := Function.update self.clients server (connection :: self.clients server) }

/-- The connection is freed, whoever had it. -/
def drop (self : AcceptRun) (connection : Nat) : AcceptRun :=
  { self with
    inUse := self.inUse.erase connection
    clients := fun server => (self.clients server).erase connection }

/-- The end of turn `i`: the outcome of `accept`, and of `init_connection` on
    the new client. -/
def acceptTurn (self : AcceptRun) (server : Nat) (i maxAcceptSize : Int) :
    AcceptResult → Option AcceptRun
  | .failed => some (self.moveTo server (.nextTurn i maxAcceptSize))
  | .client calls now socketFd =>
    if Unopened self.cycle.kernel socketFd then
      let cycle := { self.cycle with kernel := self.cycle.kernel.open socketFd }
      match cycle.initConnection server calls now socketFd with
      | ((_, cycle), none) => some ({ self with cycle }.moveTo server .looping)
      | ((_, cycle), some connection) =>
        some (({ self with cycle }.addClient server connection).moveTo server
          (.nextTurn i maxAcceptSize))
    else none

def step (self : AcceptRun) : AcceptEvent → Option AcceptRun
  | .initServer server calls now =>
    if self.coroutine server = .created ∧
        (calls.socket = -1 ∨ Unopened self.cycle.kernel calls.socket) then
      match self.cycle.initServer server calls now with
      | ((_, cycle), none) => some { self with cycle }
      | ((_, cycle), some connection) =>
        some ({ self with cycle, inUse := connection :: self.inUse }.moveTo server .finished)
    else none
  | .start server =>
    if self.coroutine server = .finished then some (self.moveTo server .looping) else none
  | .limit server =>
    if self.coroutine server = .looping then
      let maxAcceptSize := CoCycle.limit (self.cycle.serverControls server)
      if maxAcceptSize ≠ 0 then some (self.moveTo server (.accepting 0 maxAcceptSize))
      else some ({ self with cycle := self.cycle.modifyListening server }.moveTo server .finished)
    else none
  | .suspend server =>
    match self.coroutine server with
    | .accepting i maxAcceptSize => some (self.moveTo server (.suspended i maxAcceptSize))
    | _ => none
  | .accept server result =>
    match self.coroutine server with
    | .accepting i maxAcceptSize | .suspended i maxAcceptSize =>
      self.acceptTurn server i maxAcceptSize result
    | _ => none
  | .freeConnection connection =>
    if connection ∈ self.inUse then
      some ({ self with cycle := self.cycle.freeConnection connection }.drop connection)
    else none
  | .freeRequestConnection connection retCode =>
    if connection ∈ self.inUse then
      let next := { self with cycle := self.cycle.freeRequestConnection connection retCode }
      some (if retCode ≠ coOk then next.drop connection else next)
    else none
  | .getConnection calls now ip port =>
    if calls.socket = -1 ∨ Unopened self.cycle.kernel calls.socket then
      let outcome := self.cycle.getConnectionIp calls now ip port
      some { self with cycle := outcome.1, inUse := outcome.2.toList ++ self.inUse }
    else none

end AcceptRun

end CoCycle

end CoServer
