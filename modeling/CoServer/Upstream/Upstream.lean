import CoServer.Core.CallbackRequest

/-! # `CoUpstream`: connections to the backends of one upstream

A connection that is given back in order is kept for the next request to a
backend of the same `m_serverkey`; the reuse lists are used from the front. -/

namespace CoServer

/-- `std::list::erase` of the match that a reverse iteration meets first. -/
def eraseLast (p : Nat → Bool) (connections : List Nat) : List Nat :=
  (connections.reverse.eraseP p).reverse

theorem eraseP_eq_erase {p : Nat → Bool} {connections : List Nat} {connection : Nat}
    (only : ∀ other ∈ connections, p other = (other == connection)) :
    connections.eraseP p = connections.erase connection := by
  induction connections with
  | nil => rfl
  | cons other rest ih =>
    have head := only other List.mem_cons_self
    have tail := ih fun next mem => only next (List.mem_cons_of_mem _ mem)
    rw [List.eraseP_cons, List.erase_cons, head, tail, Bool.cond_eq_ite]

section
variable {p : Nat → Bool} {connections : List Nat} {connection : Nat} (nodup : connections.Nodup)
include nodup

theorem nodup_eraseLast : (eraseLast p connections).Nodup :=
  List.nodup_reverse.2 ((List.nodup_reverse.2 nodup).sublist List.eraseP_sublist)

theorem mem_eraseLast (only : ∀ other ∈ connections, p other = (other == connection)) (other : Nat) :
    other ∈ eraseLast p connections ↔ other ∈ connections ∧ other ≠ connection := by
  have backwards : ∀ other ∈ connections.reverse, p other = (other == connection) :=
    fun other mem => only other (List.mem_reverse.1 mem)
  rw [eraseLast, List.mem_reverse, eraseP_eq_erase backwards,
    (List.nodup_reverse.2 nodup).mem_erase_iff, List.mem_reverse, and_comm]

end

namespace CoUpstream

/-- `backend->m_confUpstreamServer` of the backend at an index. -/
def server (self : CoUpstream) (backend : Nat) : CoConfUpstreamServer :=
  match self.backends[backend]? with
  | none => { serverkey := [] }
  | some backend => backend.confUpstreamServer

/-- `m_reuseConnections[serverkey] = connections` -/
def setReuse (serverkey : Bytes) (connections : List Nat) (self : CoUpstream) : CoUpstream :=
  { self with reuseConnections := Function.update self.reuseConnections serverkey connections }

/-- The counter after one more connection came or one left. -/
def resizeBy (change : Int) (self : CoUpstream) : CoUpstream :=
  { self with curConnectionSize := self.curConnectionSize + change }

def failBackend (backend : Nat) (timestamp : Nat) (self : CoUpstream) : CoUpstream :=
  { self with backends := self.backends.modify backend (·.commFailed timestamp) }

end CoUpstream

namespace CoCycle

/-! ## `get_connection` -/

/-- The connection belongs to the upstream and to one of its backends. -/
def assignUpstream (self : CoCycle) (connection upstream backend : Nat) : CoCycle :=
  self.modifyObject connection fun object =>
    { object with upstream := some upstream, backend := some backend }

/-- `get_connection` after the strategy chose a backend, or none.  The clock is
    read by the pool and again after it. -/
def upstreamGetConnection (self : CoCycle) (upstream : Nat) (backend : Option Nat)
    (calls : OpenCalls) (now started : Nat) : CoCycle × Option Nat :=
  match backend with
  | none => (self, none)
  | some backend =>
    let control := self.upstreams upstream
    let server := control.server backend
    match control.reuseConnections server.serverkey with
    | connection :: rest =>
      let self := self.modifyUpstream upstream (.setReuse server.serverkey rest)
      (self.assignUpstream connection upstream backend, some connection)
    | [] =>
      if control.curConnectionSize ≥ control.confUpstream.maxConnections then (self, none)
      else
        match self.getConnectionIp calls now server.host server.port with
        | (self, none) => (self, none)
        | (self, some connection) =>
          let self := self.modifyUpstream upstream (.resizeBy 1)
          let self := self.modifyObject connection fun object =>
            { object with startTimestamp := started }
          (self.assignUpstream connection upstream backend, some connection)

/-! ## `free_connection` -/

/-- The exception of a connection that waits in its reuse list. -/
def waitsForReuse (self : CoCycle) (reuse : List Nat) (connection : Nat) (retCode : Int) : Bool :=
  retCode == coException &&
    reuse.any fun other => (self.objects other).connId == (self.objects connection).connId

/-- `m_connectionMaxRequest` is reached. -/
def requestsUsed (conf : CoConfUpstreamLimits) (object : CoConnection) : Bool :=
  conf.connectionMaxRequest ≠ 0 && int32 object.requestCount ≥ conf.connectionMaxRequest

/-- `m_connectionMaxTime` is over. -/
def timeUsed (conf : CoConfUpstreamLimits) (object : CoConnection) (timestamp : Nat) : Bool :=
  conf.connectionMaxTime ≠ 0 &&
    int32 (sizeSub timestamp object.startTimestamp) ≥ conf.connectionMaxTime

/-- The connection is closed and goes back to the pool. -/
def closeUpstream (self : CoCycle) (upstream connection : Nat) : CoCycle :=
  let self := self.modifyUpstream upstream (.resizeBy (-1))
  (self.delConnection connection).2.freeConnection connection

/-- The connection is kept at the front of its reuse list. -/
def keepUpstream (self : CoCycle) (upstream connection : Nat) (serverkey : Bytes) : CoCycle :=
  let self := self.reset connection true
  let self := (self.modifyConnection connection .del (coEventIn.union coEventOut)).2
  self.modifyUpstream upstream fun control =>
    control.setReuse serverkey (connection :: control.reuseConnections serverkey)

/-- `free_connection`; the connection has an upstream and a backend since
    `get_connection`. -/
def upstreamFreeConnection (self : CoCycle) (upstream backend connection : Nat) (retCode : Int)
    (timestamp : Nat) : CoCycle :=
  let control := self.upstreams upstream
  let object := self.objects connection
  let serverkey := (control.server backend).serverkey
  let reuse := control.reuseConnections serverkey
  if self.waitsForReuse reuse connection retCode then
    -- no request was sent on it: the backend did not fail
    let self := self.modifyUpstream upstream (.setReuse serverkey
      (eraseLast (fun other => (self.objects other).connId == object.connId) reuse))
    self.closeUpstream upstream connection
  else if retCode ≠ coOk then
    (self.modifyUpstream upstream (.failBackend backend timestamp)).closeUpstream upstream connection
  else if requestsUsed control.confUpstream object || timeUsed control.confUpstream object timestamp then
    self.closeUpstream upstream connection
  else self.keepUpstream upstream connection serverkey

/-- `free_upstream_connection` -/
def freeUpstreamConnection (self : CoCycle) (connection : Nat) (retCode : Int) (timestamp : Nat) :
    CoCycle :=
  match (self.objects connection).upstream, (self.objects connection).backend with
  | some upstream, some backend =>
    self.upstreamFreeConnection upstream backend connection retCode timestamp
  | _, _ => self

/-- The part of `CoRequest::init` and `CoRequest::reset_connection` that the connection
    sees. -/
def bindRequest (self : CoCycle) (connection request : Nat) : CoCycle :=
  self.modifyObject connection fun object =>
    { object with request := some request, requestCount := uint32 (object.requestCount + 1) }

/-! ## Frames -/

section
variable (self : CoCycle) (connection upstream backend request : Nat)

theorem bindRequest_same : (self.bindRequest connection request).objects connection =
    { self.objects connection with
      request := some request
      requestCount := uint32 ((self.objects connection).requestCount + 1) } := by
  unfold bindRequest
  exact modifyObject_same _ _ _

theorem bindRequest_other {other : Nat} (apart : other ≠ connection) :
    (self.bindRequest connection request).objects other = self.objects other := by
  unfold bindRequest
  exact modifyObject_other _ _ _ _ apart

theorem keepsPool_bindRequest {inUse : List Nat} (used : connection ∈ inUse) :
    KeepsPool inUse self (self.bindRequest connection request) := by
  unfold bindRequest
  exact keepsPool_modifyObject inUse self connection _ ⟨rfl, rfl, rfl, rfl⟩ (fun _ => rfl)
    fun notUsed => absurd used notUsed

theorem keepsPool_assignUpstream {inUse : List Nat} (used : connection ∈ inUse) :
    KeepsPool inUse self (self.assignUpstream connection upstream backend) := by
  unfold assignUpstream
  exact keepsPool_modifyObject inUse self connection _ ⟨rfl, rfl, rfl, rfl⟩ (fun _ => rfl)
    fun notUsed => absurd used notUsed

theorem assignUpstream_same : (self.assignUpstream connection upstream backend).objects connection =
    { self.objects connection with upstream := some upstream, backend := some backend } := by
  unfold assignUpstream
  exact modifyObject_same _ _ _

theorem assignUpstream_other {other : Nat} (apart : other ≠ connection) :
    (self.assignUpstream connection upstream backend).objects other = self.objects other := by
  unfold assignUpstream
  exact modifyObject_other _ _ _ _ apart

end

/-! ## What giving back does -/

section
variable {self : CoCycle} {pairs : Nat} {inUse : List Nat} {connection : Nat}

theorem PoolInv.closeUpstream (inv : PoolInv self pairs inUse) (used : connection ∈ inUse)
    (upstream : Nat) :
    PoolInv (self.closeUpstream upstream connection) pairs (inUse.erase connection) ∧
    connection ∈ (self.closeUpstream upstream connection).connectionPool.freeConnections ∧
    (self.closeUpstream upstream connection).upstreams =
      Function.update self.upstreams upstream ((self.upstreams upstream).resizeBy (-1)) ∧
    ∀ other ∈ inUse, other ≠ connection →
      SameOwner (self.objects other) ((self.closeUpstream upstream connection).objects other) := by
  have deleted := delConnection_reregistered (self.modifyUpstream upstream (.resizeBy (-1))) connection
  have counted := inv.keep ((keepsPool_modifyUpstream inUse self upstream (.resizeBy (-1))).trans
    (deleted.keepsPool inUse))
  obtain ⟨after, released⟩ := counted.freeConnection used
  refine ⟨after, ?_, released.upstreams.trans deleted.upstreams, ?_⟩
  · unfold CoCycle.closeUpstream
    dsimp only
    rw [released.free]
    exact List.mem_cons_self
  · intro other mem apart
    obtain ⟨j, -, rfl⟩ := inv.used_main used
    obtain ⟨k, -, rfl⟩ := inv.used_main mem
    obtain ⟨_, _, _, _, same⟩ := released.others (2 * k) apart (by omega)
    unfold CoCycle.closeUpstream
    dsimp only
    rw [same]
    exact (deleted.keepsOwners.objects _).trans (sameOwner_registered _ _ _ _ _)

theorem PoolInv.keepUpstream (inv : PoolInv self pairs inUse) (used : connection ∈ inUse)
    (upstream : Nat) (serverkey : Bytes) :
    PoolInv (self.keepUpstream upstream connection serverkey) pairs inUse ∧
    (self.keepUpstream upstream connection serverkey).upstreams =
      Function.update self.upstreams upstream ((self.upstreams upstream).setReuse serverkey
        (connection :: (self.upstreams upstream).reuseConnections serverkey)) ∧
    ∀ other, SameOwner (self.objects other)
      ((self.keepUpstream upstream connection serverkey).objects other) := by
  have registering := modifyConnection_reregistered (self.reset connection true) connection .del
    (coEventIn.union coEventOut)
  have owners := (keepsOwners_reset self connection).trans registering.keepsOwners
  refine ⟨inv.keep ?_, ?_, owners.objects⟩
  · exact ((inv.keepsPool_reset used).trans (registering.keepsPool inUse)).trans
      (keepsPool_modifyUpstream inUse _ upstream _)
  · unfold CoCycle.keepUpstream
    simp only [modifyUpstream, owners.upstreams]

end

end CoCycle

end CoServer
