import CoServer.Core.Dispatcher

/-! # `CoCallbackUpstream` and `CoUpstreamPool`: sub-requests

A handler adds sub-requests to its request and is woken by the last one that is
finished.  An attempt that failed may be retried on another connection. -/

namespace CoServer

namespace CoCycle

/-! ## Requests -/

/-- `new CoRequest(requestType)` at the next address. -/
def newRequest (self : CoCycle) (detach : Bool) : CoCycle :=
  { self.modifyRequest self.allocatedRequests fun _ => { detach } with
    allocatedRequests := self.allocatedRequests + 1 }

/-- `CoRequest::init` with a protocol. -/
def initRequest (self : CoCycle) (request connection : Nat) : CoCycle :=
  let self := self.bindRequest connection request
  let self := { self with requestId := sizeT (self.requestId + 1) }
  self.modifyRequest request fun object =>
    { object with
      connection := some connection
      requestId := uint32 self.requestId
      count := object.count + 1 }

/-- `CoRequest::reset_connection` -/
def resetConnection (self : CoCycle) (request connection : Nat) : CoCycle :=
  (self.bindRequest connection request).modifyRequest request fun object =>
    { object with connection := some connection }

/-! ## Adding and running -/

/-- What the system calls, the clock and the strategy of an upstream decide for one
    `get_connection`. -/
structure GetCalls where
  backend : Option Nat
  calls : OpenCalls
  now : Nat
  started : Nat

/-- `get_upstream_connection` of the upstream that the name was found to belong to. -/
def getUpstreamConnection (self : CoCycle) (upstream : Option Nat) (get : GetCalls) :
    CoCycle × Option Nat :=
  match upstream with
  | none => (self, none)
  | some upstream =>
    match self.upstreamGetConnection upstream get.backend get.calls get.now get.started with
    | (self, none) => (self, none)
    | (self, some connection) =>
      (self.modifyObject connection fun object => { object with handler := some .upstreamInit },
        some connection)

/-- What `add_upstream` does with the connection it got. -/
def addRequest (self : CoCycle) (request upstreamConnection : Nat) : CoCycle :=
  let self := self.modifyRequest request fun object =>
    { object with upstreamInfos := object.upstreamInfos + 1 }
  let upstreamRequest := self.allocatedRequests
  let self := (self.newRequest false).initRequest upstreamRequest upstreamConnection
  let self := self.modifyRequest upstreamRequest fun object => { object with parent := some request }
  let self := self.modifyRequest request fun object =>
    object.gain (self.requests upstreamRequest).requestId upstreamRequest
  self.pushDelay upstreamConnection

/-- `add_upstream` for a request; `protocol` says that the protocol could be created. -/
def addUpstream (self : CoCycle) (request : Nat) (upstream : Option Nat) (get : GetCalls)
    (protocol : Bool) (timestamp : Nat) : Int × CoCycle :=
  match self.getUpstreamConnection upstream get with
  | (self, none) => (coError, self)
  | (self, some upstreamConnection) =>
    if !protocol then (coError, self.freeUpstreamConnection upstreamConnection coError timestamp)
    else (coOk, self.addRequest request upstreamConnection)

/-! ## The end of an attempt -/

/-- The parent loses a sub-request, and is woken by the last one. -/
def leaveParent (self : CoCycle) (parent requestId : Nat) : CoCycle :=
  let self := self.modifyRequest parent fun object => object.lose requestId
  if (self.requests parent).count = 1 then
    match (self.requests parent).connection with
    | none => self
    | some connection => self.pushDelay connection
  else self

def destroyRequest (self : CoCycle) (request : Nat) : CoCycle :=
  self.modifyRequest request fun object => { object with destroyed := true }

/-- `upstream_finalize_request`; only a detached sub-request has no parent. -/
def upstreamFinalizeRequest (self : CoCycle) (request : Nat) : CoCycle :=
  let object := self.requests request
  let self :=
    match object.detach, object.parent with
    | false, some parent => self.leaveParent parent object.requestId
    | _, _ => self
  self.destroyRequest request

/-- `retry_upstream` -/
def retryUpstream (self : CoCycle) (request upstream : Nat) (get : GetCalls) : CoCycle :=
  let self := self.modifyRequest request fun object =>
    { object with retryTimes := object.retryTimes + 1 }
  match self.getUpstreamConnection (some upstream) get with
  | (self, none) =>
    (self.modifyRequest request fun object => { object with connection := none }).upstreamFinalizeRequest
      request
  | (self, some upstreamConnection) =>
    (self.resetConnection request upstreamConnection).pushDelay upstreamConnection

/-- `needRetry` of `upstream_finalize` -/
def needRetry (self : CoCycle) (request connection upstream : Nat) (retCode : Int) : Bool :=
  !(self.objects connection).flagParentDying && retCode != coOk &&
    decide ((self.upstreams upstream).confUpstream.retryMaxnum > (self.requests request).retryTimes)

/-- `upstream_finalize` of a sub-request and of the upstream its connection came from. -/
def upstreamFinalize (self : CoCycle) (request connection upstream : Nat) (retCode : Int)
    (timestamp : Nat) (get : GetCalls) : CoCycle :=
  if self.needRetry request connection upstream retCode then
    (self.freeUpstreamConnection connection retCode timestamp).retryUpstream request upstream get
  else
    (self.upstreamFinalizeRequest request).freeUpstreamConnection connection retCode timestamp

/-! ## What happens to the requests -/

section
variable {self : CoCycle} {request parent connection : Nat}

@[simp] theorem modifyRequest_same (self : CoCycle) (request : Nat) (f : CoRequest → CoRequest) :
    (self.modifyRequest request f).requests request = f (self.requests request) := by
  simp [modifyRequest]

/-- The entry that wakes the parent, if the last sub-request is gone. -/
def wakeParent (self : CoCycle) (parent connection : Nat) : List (Nat × Nat) :=
  if (self.requests parent).count = 2 then [(connection, (self.objects connection).version)] else []

theorem leaveParent_eq (connected : (self.requests parent).connection = some connection)
    (requestId : Nat) : self.leaveParent parent requestId =
      { self with
        requests := Function.update self.requests parent ((self.requests parent).lose requestId)
        delayConnections := self.delayConnections ++ self.wakeParent parent connection } := by
  have connectedAfter : ((self.requests parent).lose requestId).connection = some connection :=
    connected
  unfold leaveParent wakeParent
  dsimp only
  rw [modifyRequest_same, connectedAfter]
  by_cases last : (self.requests parent).count = 2
  · have one : ((self.requests parent).lose requestId).count = 1 := by
      show (self.requests parent).count - 1 = 1
      omega
    rw [if_pos one, if_pos last]
    rfl
  · have notOne : ¬ ((self.requests parent).lose requestId).count = 1 := by
      show ¬ (self.requests parent).count - 1 = 1
      omega
    rw [if_neg notOne, if_neg last, List.append_nil]
    rfl

theorem upstreamFinalizeRequest_eq (attached : (self.requests request).detach = false)
    (parented : (self.requests request).parent = some parent) (apart : parent ≠ request)
    (connected : (self.requests parent).connection = some connection) :
    self.upstreamFinalizeRequest request =
      { self with
        requests := Function.update (Function.update self.requests parent
            ((self.requests parent).lose (self.requests request).requestId))
          request { self.requests request with destroyed := true }
        delayConnections := self.delayConnections ++ self.wakeParent parent connection } := by
  have left : self.upstreamFinalizeRequest request =
      (self.leaveParent parent (self.requests request).requestId).destroyRequest request := by
    unfold upstreamFinalizeRequest
    simp only [attached, parented]
  rw [left, leaveParent_eq connected]
  unfold destroyRequest modifyRequest
  dsimp only
  rw [Function.update_of_ne apart.symm]

/-- The record of a sub-request that was just added. -/
def newUpstream (self : CoCycle) (request upstreamConnection : Nat) : CoRequest :=
  { connection := some upstreamConnection
    requestId := uint32 (sizeT (self.requestId + 1))
    count := 1
    parent := some request }

/-- The record of its parent. -/
def newParent (self : CoCycle) (request : Nat) : CoRequest :=
  { self.requests request with upstreamInfos := (self.requests request).upstreamInfos + 1 }.gain
    (uint32 (sizeT (self.requestId + 1))) self.allocatedRequests

theorem addRequest_eq (below : request < self.allocatedRequests) (upstreamConnection : Nat) :
    self.addRequest request upstreamConnection =
      { self.bindRequest upstreamConnection self.allocatedRequests with
        requests := Function.update (Function.update self.requests self.allocatedRequests
            (self.newUpstream request upstreamConnection))
          request (self.newParent request)
        allocatedRequests := self.allocatedRequests + 1
        requestId := sizeT (self.requestId + 1)
        delayConnections := self.delayConnections ++
          [(upstreamConnection, (self.objects upstreamConnection).version)] } := by
  have apart : request ≠ self.allocatedRequests := by omega
  unfold addRequest newRequest initRequest modifyRequest pushDelay newUpstream newParent
  simp only [bindRequest, modifyObject]
  congr 1
  · simp
  · funext other
    by_cases isParent : other = request
    · subst isParent
      simp [apart]
    · by_cases isNew : other = self.allocatedRequests
      · subst isNew
        simp [isParent, apart]
      · simp [isParent, isNew]

end

end CoCycle

end CoServer
