import CoServer.Core.Request
import CoServer.Upstream.Backend

/-! # `CoCycle`: the state of one worker thread

The objects of the thread are found by their addresses.  Only the pool makes
connections, so the addresses in use are those below `allocated`. -/

namespace CoServer

/-! ## The components -/

structure CoConnectionPool where
  minConnectionSize : Int := 1
  maxConnectionSize : Int := 4
  curConnectionSize : Int := 0
  connections : List (Option Nat) := []
  freeConnections : List Nat := []
  innerSockets : Finset Int := ∅

structure CoConfServer where
  listenIP : Bytes := []
  listenPort : Nat := 15678
  maxConnections : Int := 65536

structure CoServerControl where
  confServer : CoConfServer := {}
  listening : Bool := false
  listenConnection : Nat := 0
  curConnectionSize : Int := 0

/-- The settings of an upstream that bound the use of its connections. -/
structure CoConfUpstreamLimits extends CoConfUpstream where
  maxConnections : Int := 65535
  connectionMaxRequest : Int := 10240
  connectionMaxTime : Int := 60000
  retryMaxnum : Int := 3

structure CoUpstream where
  confUpstream : CoConfUpstreamLimits := {}
  /-- the backends of the strategy -/
  backends : List CoBackendWRR := []
  curConnectionSize : Int := 0
  reuseConnections : Bytes → List Nat := fun _ => []

structure CoCycle where
  objects : Nat → CoConnection := fun _ => {}
  allocated : Nat := 0
  kernel : Kernel := {}
  connectionPool : CoConnectionPool := {}
  serverControls : Nat → CoServerControl := fun _ => {}
  upstreams : Nat → CoUpstream := fun _ => {}
  /-- `m_dispatcher->m_delayConnections` -/
  delayConnections : List (Nat × Nat) := []
  requests : Nat → CoRequest := fun _ => {}
  allocatedRequests : Nat := 0
  /-- `g_requestId` -/
  requestId : Nat := 0

namespace CoCycle

/-! ## Writing to an object -/

/-- Assignments to the fields of one connection. -/
def modifyObject (self : CoCycle) (connection : Nat) (f : CoConnection → CoConnection) : CoCycle :=
  { self with objects := Function.update self.objects connection (f (self.objects connection)) }

/-- Assignments to the fields of one server control. -/
def modifyServer (self : CoCycle) (server : Nat) (f : CoServerControl → CoServerControl) : CoCycle :=
  { self with serverControls := Function.update self.serverControls server (f (self.serverControls server)) }

/-- Assignments to the fields of one upstream. -/
def modifyUpstream (self : CoCycle) (upstream : Nat) (f : CoUpstream → CoUpstream) : CoCycle :=
  { self with upstreams := Function.update self.upstreams upstream (f (self.upstreams upstream)) }

/-- Assignments to the fields of one request. -/
def modifyRequest (self : CoCycle) (request : Nat) (f : CoRequest → CoRequest) : CoCycle :=
  { self with requests := Function.update self.requests request (f (self.requests request)) }

/-- `m_delayConnections.push(std::make_pair(connection, connection->m_version))` -/
def pushDelay (self : CoCycle) (connection : Nat) : CoCycle :=
  { self with delayConnections :=
      self.delayConnections ++ [(connection, (self.objects connection).version)] }

section
variable (self : CoCycle) (connection other server upstream : Nat)
  (f : CoConnection → CoConnection) (g : CoServerControl → CoServerControl)
  (h : CoUpstream → CoUpstream)

theorem modifyObject_objects :
    (self.modifyObject connection f).objects other =
      if other = connection then f (self.objects connection) else self.objects other := by
  simp [modifyObject, Function.update_apply]

@[simp] theorem modifyObject_same :
    (self.modifyObject connection f).objects connection = f (self.objects connection) := by
  simp [modifyObject]

theorem modifyObject_other (apart : other ≠ connection) :
    (self.modifyObject connection f).objects other = self.objects other := by
  simp [modifyObject, apart]

theorem modifyObject_id : self.modifyObject connection id = self := by
  simp [modifyObject]

@[simp] theorem modifyObject_allocated :
    (self.modifyObject connection f).allocated = self.allocated := rfl
@[simp] theorem modifyObject_kernel : (self.modifyObject connection f).kernel = self.kernel := rfl
@[simp] theorem modifyObject_pool :
    (self.modifyObject connection f).connectionPool = self.connectionPool := rfl
@[simp] theorem modifyObject_servers :
    (self.modifyObject connection f).serverControls = self.serverControls := rfl
@[simp] theorem modifyObject_upstreams :
    (self.modifyObject connection f).upstreams = self.upstreams := rfl
@[simp] theorem modifyObject_delay :
    (self.modifyObject connection f).delayConnections = self.delayConnections := rfl

@[simp] theorem modifyServer_same :
    (self.modifyServer server g).serverControls server = g (self.serverControls server) := by
  simp [modifyServer]

theorem modifyServer_other (apart : other ≠ server) :
    (self.modifyServer server g).serverControls other = self.serverControls other := by
  simp [modifyServer, apart]

@[simp] theorem modifyServer_objects : (self.modifyServer server g).objects = self.objects := rfl
@[simp] theorem modifyServer_allocated :
    (self.modifyServer server g).allocated = self.allocated := rfl
@[simp] theorem modifyServer_kernel : (self.modifyServer server g).kernel = self.kernel := rfl
@[simp] theorem modifyServer_pool :
    (self.modifyServer server g).connectionPool = self.connectionPool := rfl
@[simp] theorem modifyServer_upstreams :
    (self.modifyServer server g).upstreams = self.upstreams := rfl

@[simp] theorem modifyUpstream_same :
    (self.modifyUpstream upstream h).upstreams upstream = h (self.upstreams upstream) := by
  simp [modifyUpstream]

theorem modifyUpstream_other (apart : other ≠ upstream) :
    (self.modifyUpstream upstream h).upstreams other = self.upstreams other := by
  simp [modifyUpstream, apart]

/-- What holds between an upstream and its next version holds between any upstream and its next. -/
theorem modifyUpstream_rel {R : CoUpstream → CoUpstream → Prop} (refl : ∀ upstream, R upstream upstream)
    (changed : R (self.upstreams upstream) (h (self.upstreams upstream))) (other : Nat) :
    R (self.upstreams other) ((self.modifyUpstream upstream h).upstreams other) := by
  by_cases same : other = upstream
  · subst same
    rw [modifyUpstream_same]
    exact changed
  · rw [modifyUpstream_other _ _ _ _ same]
    exact refl _

theorem modifyUpstream_id : self.modifyUpstream upstream id = self := by
  simp [modifyUpstream]

@[simp] theorem modifyUpstream_objects :
    (self.modifyUpstream upstream h).objects = self.objects := rfl
@[simp] theorem modifyUpstream_allocated :
    (self.modifyUpstream upstream h).allocated = self.allocated := rfl
@[simp] theorem modifyUpstream_kernel :
    (self.modifyUpstream upstream h).kernel = self.kernel := rfl
@[simp] theorem modifyUpstream_pool :
    (self.modifyUpstream upstream h).connectionPool = self.connectionPool := rfl

@[simp] theorem pushDelay_objects : (self.pushDelay connection).objects = self.objects := rfl
@[simp] theorem pushDelay_allocated : (self.pushDelay connection).allocated = self.allocated := rfl
@[simp] theorem pushDelay_kernel : (self.pushDelay connection).kernel = self.kernel := rfl
@[simp] theorem pushDelay_pool :
    (self.pushDelay connection).connectionPool = self.connectionPool := rfl
@[simp] theorem pushDelay_servers :
    (self.pushDelay connection).serverControls = self.serverControls := rfl
@[simp] theorem pushDelay_upstreams :
    (self.pushDelay connection).upstreams = self.upstreams := rfl

end

/-! ## `CoConnection::reset` -/

/-- `tcp_close` on the socket of a connection. -/
def closeSocket (self : CoCycle) (connection : Nat) : CoCycle :=
  let closed := (self.objects connection).coTcp.tcpClose self.kernel
  { self.modifyObject connection fun object => { object with coTcp := closed.1 } with
    kernel := closed.2 }

/-- `reset_block`; a connection without a block connection is not reset. -/
def resetBlock (self : CoCycle) (connection : Nat) : CoCycle :=
  match (self.objects connection).blockConn with
  | none => self
  | some blockConn => self.modifyObject blockConn CoConnection.resetBlock

theorem resetBlock_owned {self : CoCycle} {connection blockConn : Nat}
    (owner : (self.objects connection).blockConn = some blockConn) :
    self.resetBlock connection = self.modifyObject blockConn CoConnection.resetBlock := by
  unfold resetBlock
  rw [owner]

def reset (self : CoCycle) (connection : Nat) (keepalive : Bool := false) : CoCycle :=
  let self := self.modifyObject connection CoConnection.resetRequest
  let self := if keepalive then self else
    let self := if (self.objects connection).coTcp.socketfd > 0 then self.closeSocket connection
      else self
    self.modifyObject connection CoConnection.resetOwner
  self.resetBlock connection

end CoCycle

end CoServer
