import CoServer.Core.Connection

/-! # `CoRequest`

A request of a client, or a sub-request to an upstream.  Requests are found by
their addresses; a destroyed one keeps its address, so that a pointer to it can
be told from others. -/

namespace CoServer

structure CoRequest where
  destroyed : Bool := false
  connection : Option Nat := none
  /-- the reference count -/
  count : Int := 0
  parent : Option Nat := none
  /-- the map from request ids to sub-requests; its order is not relied on -/
  upstreamRequests : List (Nat × Nat) := []
  /-- `CO_REQUEST_DETACH` in `m_requestType` -/
  detach : Bool := false
  requestId : Nat := 0
  retryTimes : Int := 0
  /-- the size of `m_userData->m_upstreamInfos` -/
  upstreamInfos : Nat := 0

namespace CoRequest

/-- `m_upstreamRequests[requestId] = upstreamRequest` -/
def insertUpstream (self : CoRequest) (requestId upstreamRequest : Nat) : CoRequest :=
  { self with upstreamRequests :=
      self.upstreamRequests.filter (fun entry => entry.1 != requestId) ++ [(requestId, upstreamRequest)] }

/-- `m_upstreamRequests.erase` of an id that may be missing. -/
def eraseUpstream (self : CoRequest) (requestId : Nat) : CoRequest :=
  { self with upstreamRequests := self.upstreamRequests.filter fun entry => entry.1 != requestId }

/-- The parent after a sub-request was added. -/
def gain (self : CoRequest) (requestId upstreamRequest : Nat) : CoRequest :=
  { self.insertUpstream requestId upstreamRequest with count := self.count + 1 }

/-- The parent after a sub-request was finished. -/
def lose (self : CoRequest) (requestId : Nat) : CoRequest :=
  { self.eraseUpstream requestId with count := self.count - 1 }

end CoRequest

end CoServer
