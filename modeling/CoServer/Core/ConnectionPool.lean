import CoServer.Core.Epoll

/-! # `CoConnectionPool`: expanding, handing out and taking back connections

`free_connection` runs the cleanups of a connection, and the one cleanup there
is belongs to its server, so the listening state of a server comes first. -/

namespace CoServer

namespace CoCycle

/-! ## The listening state of a server -/

def modifyListening (self : CoCycle) (server : Nat) : CoCycle :=
  let control := self.serverControls server
  if control.curConnectionSize ≥ control.confServer.maxConnections then
    if control.listening then
      ((self.modifyServer server fun control => { control with listening := false }).modifyConnection
        control.listenConnection .del coEventRead).2
    else self
  else if !control.listening then
    ((self.modifyServer server fun control => { control with listening := true }).modifyConnection
      control.listenConnection .add coEventRead).2
  else self

/-- Either nothing is to do, or `m_listening` and the registration of the listening
    connection change together. -/
theorem modifyListening_cases (self : CoCycle) (server : Nat) :
    self.modifyListening server = self ∨ ∃ eventType listening, self.modifyListening server =
      ((self.modifyServer server fun control => { control with listening }).modifyConnection
        (self.serverControls server).listenConnection eventType coEventRead).2 := by
  unfold modifyListening
  dsimp only
  split
  · split
    · exact .inr ⟨.del, false, rfl⟩
    · exact .inl rfl
  · split
    · exact .inr ⟨.add, true, rfl⟩
    · exact .inl rfl

/-- The server is below its limit of connections. -/
def hasRoom (control : CoServerControl) : Bool :=
  decide (control.curConnectionSize < control.confServer.maxConnections)

/-- `modify_listening` leaves the server listening exactly if it has room. -/
theorem modifyListening_servers (self : CoCycle) (server : Nat) :
    (self.modifyListening server).serverControls = (self.modifyServer server fun control =>
      { control with listening := hasRoom control }).serverControls := by
  have same : ∀ listening, (self.serverControls server).listening = listening →
      self.serverControls = Function.update self.serverControls server
        { self.serverControls server with listening } := by
    rintro _ rfl
    exact (Function.update_eq_self server self.serverControls).symm
  unfold modifyListening
  dsimp only
  split
  · rename_i full
    have noRoom : hasRoom (self.serverControls server) = false := by
      simpa [hasRoom] using full
    split
    · rw [(modifyConnection_reregistered _ _ _ _).servers]
      simp only [modifyServer, noRoom]
    · rename_i deaf
      simp only [modifyServer, noRoom]
      exact same false (by simpa using deaf)
  · rename_i room
    have someRoom : hasRoom (self.serverControls server) = true := by
      simpa [hasRoom] using room
    split
    · rw [(modifyConnection_reregistered _ _ _ _).servers]
      simp only [modifyServer, someRoom]
    · rename_i hears
      simp only [modifyServer, someRoom]
      exact same true (by simpa using hears)

/-- `func_cleanup`.  A connection gets it together with its server, so there is
    always a server to call. -/
def funcCleanup (self : CoCycle) (connection : Nat) : CoCycle :=
  match (self.objects connection).serverControl with
  | none => self
  | some server =>
    (self.modifyServer server fun control =>
      { control with curConnectionSize := control.curConnectionSize - 1 }).modifyListening server

/-- What `func_cleanup` does to the server of the connection. -/
def leave (control : CoServerControl) : CoServerControl :=
  let control := { control with curConnectionSize := control.curConnectionSize - 1 }
  { control with listening := hasRoom control }

theorem funcCleanup_servers (self : CoCycle) {connection server : Nat}
    (owner : (self.objects connection).serverControl = some server) :
    (self.funcCleanup connection).serverControls = (self.modifyServer server leave).serverControls := by
  unfold funcCleanup
  rw [owner]
  dsimp only
  rw [modifyListening_servers]
  simp only [modifyServer, Function.update_self, Function.update_idem, leave]

def runCleanup (connection : Nat) (self : CoCycle) : Cleanup → CoCycle
  | .funcCleanup => self.funcCleanup connection

/-! ## Expanding the pool -/

/-- `std::vector::resize`; new elements are `NULL`. -/
def resize (connections : List (Option Nat)) (size : Nat) : List (Option Nat) :=
  connections.take size ++ List.replicate (size - connections.length) none

/-- The connection and the block connection that one turn of the loop of
    `expand_connections` makes. -/
def createPair (self : CoCycle) (i : Nat) : CoCycle :=
  let connection := self.allocated
  let blockConn := self.allocated + 1
  { self with
    objects := Function.update
      (Function.update self.objects connection { connId := i + 1, blockConn := some blockConn })
      blockConn { connId := i + 2, flagBlockConn := true, blockOriginConn := some connection }
    allocated := self.allocated + 2
    connectionPool := { self.connectionPool with
      connections := (self.connectionPool.connections.set i (some connection)).set (i + 1)
        (some blockConn)
      freeConnections := self.connectionPool.freeConnections ++ [connection] } }

/-- The loop of `expand_connections` from `i` on; `turns` turns are left. -/
def createPairs : (turns i : Nat) → CoCycle → CoCycle
  | 0, _, self => self
  | turns + 1, i, self => createPairs turns (i + 2) (self.createPair i)

def expandConnections (self : CoCycle) (expandSize : Int := 16) : Int × CoCycle :=
  let pool := self.connectionPool
  if pool.curConnectionSize ≥ pool.maxConnectionSize then (coError, self)
  else
    let startPos := pool.curConnectionSize * 2
    let size := pool.curConnectionSize + expandSize
    let size := if size > pool.maxConnectionSize then pool.maxConnectionSize else size
    let self := { self with connectionPool := { pool with
      curConnectionSize := size, connections := resize pool.connections (size * 2).toNat } }
    (coOk, createPairs (size - pool.curConnectionSize).toNat startPos.toNat self)

/-- `CoConnectionPool::init` -/
def initPool (self : CoCycle) (minConnectionSize maxConnectionSize : Int) : Int × CoCycle :=
  let min := if minConnectionSize < 4 then 4 else minConnectionSize
  let max := if maxConnectionSize > 65535 then 65535 else maxConnectionSize
  let max := max + 3
  let self := { self with connectionPool := { self.connectionPool with
    minConnectionSize := min, maxConnectionSize := max } }
  self.expandConnections (int32 (min + 3))

/-! ## Handing out and taking back -/

/-- `if (m_freeConnections.empty()) expand_connections()` -/
def refill (self : CoCycle) : CoCycle :=
  if self.connectionPool.freeConnections.isEmpty then self.expandConnections.2 else self

/-- The front of the free list is handed out with the socket it has by now. -/
def popFree (self : CoCycle) (connection : Nat) (socketFd : Int) (now : Nat) : CoCycle :=
  { self.modifyObject connection fun object => { object with startTimestamp := now } with
    connectionPool := { self.connectionPool with
      freeConnections := self.connectionPool.freeConnections.tail
      innerSockets := insert socketFd self.connectionPool.innerSockets } }

/-- The object's socket and the kernel after a call on that socket. -/
def setTcp (self : CoCycle) (connection : Nat) (called : CoTCP × Kernel) : CoCycle :=
  { self.modifyObject connection fun object => { object with coTcp := called.1 } with
    kernel := called.2 }

/-- The checks of a listening socket. -/
def listenReady (calls : OpenCalls) (coTcp : CoTCP) : Bool :=
  CoTCP.setReused calls == coOk && coTcp.serverBind calls == coOk &&
    CoTCP.serverListen calls == coOk

/-- `get_connection(ip, port, listen)` -/
def getConnectionIp (self : CoCycle) (calls : OpenCalls) (now : Nat) (ip : Bytes) (port : Nat)
    (listen : Bool := false) : CoCycle × Option Nat :=
  let self := self.refill
  match self.connectionPool.freeConnections with
  | [] => (self, none)
  | connection :: _ =>
    let (ret, called) := (self.objects connection).coTcp.initIpport self.kernel calls ip port
    -- the descriptor stays with the free connection when a later call fails
    let self := self.setTcp connection called
    if ret ≠ coOk then (self, none)
    else if CoTCP.setNonblock calls ≠ coOk then (self, none)
    else if listen && !listenReady calls called.1 then (self, none)
    else (self.popFree connection called.1.socketfd now, some connection)

/-- `get_connection(socketFd)` -/
def getConnectionFd (self : CoCycle) (calls : OpenCalls) (now : Nat) (socketFd : Int) :
    CoCycle × Option Nat :=
  let self := self.refill
  match self.connectionPool.freeConnections with
  | [] => (self, none)
  | connection :: _ =>
    let (ret, called) := (self.objects connection).coTcp.initClientSocketfd self.kernel calls socketFd
    let self := self.setTcp connection called
    if ret ≠ coOk then (self, none)
    else if CoTCP.setNonblock calls ≠ coOk then (self, none)
    else (self.popFree connection socketFd now, some connection)

/-- `free_connection` of the pool. -/
def freeConnection (self : CoCycle) (connection : Nat) : CoCycle :=
  let socketFd := (self.objects connection).coTcp.socketfd
  let self := { self with connectionPool := { self.connectionPool with
    innerSockets := self.connectionPool.innerSockets.erase socketFd } }
  let self := if socketFd > 0 then self.closeSocket connection else self
  let self := (self.objects connection).handlerCleanups.foldl (runCleanup connection) self
  let self := self.modifyObject connection fun object => { object with handlerCleanups := [] }
  let self := self.reset connection
  { self with connectionPool := { self.connectionPool with
    freeConnections := connection :: self.connectionPool.freeConnections } }

/-- `m_connections[connId - 1]`; the index is not checked. -/
def getConnectionAccordId (self : CoCycle) (connId : Nat) : Option Nat :=
  if connId = 0 then none else self.connectionPool.connections[connId - 1]?.join

end CoCycle

end CoServer
