import CoServer.Core.PoolRuns

/-! # `CoCallbackRequest`: the end of a request

`free_request_connection` closes the client connection or keeps it alive for
the next request.  Either way the pool stays sound; a kept connection keeps its
server and its cleanups. -/

namespace CoServer

namespace CoCycle

/-- The keep-alive branch: the socket stays, and the next request is read. -/
def keepRequestConnection (self : CoCycle) (connection : Nat) : CoCycle :=
  let self := self.reset connection true
  let self := (self.modifyConnection connection .add coEventIn).2
  let self := (self.modifyConnection connection .del coEventOut).2
  self.modifyObject connection fun object => { object with handler := some .requestInit }

def freeRequestConnection (self : CoCycle) (connection : Nat) (retCode : Int) : CoCycle :=
  if retCode ≠ coOk then (self.delConnection connection).2.freeConnection connection
  else self.keepRequestConnection connection

/-! ## A kept connection -/

/-- Whom a connection belongs to. -/
structure SameOwner (a b : CoConnection) : Prop where
  serverControl : b.serverControl = a.serverControl
  handlerCleanups : b.handlerCleanups = a.handlerCleanups
  upstream : b.upstream = a.upstream
  backend : b.backend = a.backend
  requestCount : b.requestCount = a.requestCount

theorem SameOwner.refl (a : CoConnection) : SameOwner a a := ⟨rfl, rfl, rfl, rfl, rfl⟩

theorem SameOwner.trans {a b c : CoConnection} (first : SameOwner a b) (second : SameOwner b c) :
    SameOwner a c :=
  ⟨second.serverControl.trans first.serverControl,
    second.handlerCleanups.trans first.handlerCleanups, second.upstream.trans first.upstream,
    second.backend.trans first.backend, second.requestCount.trans first.requestCount⟩

theorem sameOwner_registered (events : EpollEvents) (version : Nat) (readActive writeActive : Bool)
    (connection : CoConnection) :
    SameOwner connection (registered events version readActive writeActive connection) :=
  ⟨rfl, rfl, rfl, rfl, rfl⟩

/-- A step of a connection's owner: servers and upstreams stay as they are, and every
    connection stays with its owner. -/
structure KeepsOwners (before after : CoCycle) : Prop where
  servers : after.serverControls = before.serverControls
  upstreams : after.upstreams = before.upstreams
  objects : ∀ other, SameOwner (before.objects other) (after.objects other)

theorem KeepsOwners.refl (cycle : CoCycle) : KeepsOwners cycle cycle :=
  ⟨rfl, rfl, fun _ => .refl _⟩

theorem KeepsOwners.trans {a b c : CoCycle} (first : KeepsOwners a b) (second : KeepsOwners b c) :
    KeepsOwners a c :=
  ⟨second.servers.trans first.servers, second.upstreams.trans first.upstreams,
    fun other => (first.objects other).trans (second.objects other)⟩

theorem Reregistered.keepsOwners {before after : CoCycle} {connection : Nat}
    (changed : Reregistered before connection after) : KeepsOwners before after where
  servers := changed.servers
  upstreams := changed.upstreams
  objects other := by
    obtain ⟨_, _, _, _, same⟩ := changed.object other
    rw [same]
    exact sameOwner_registered _ _ _ _ _

section
variable (inUse : List Nat) (self : CoCycle) (connection : Nat)

theorem keepsOwners_modifyObject (f : CoConnection → CoConnection)
    (owner : SameOwner (self.objects connection) (f (self.objects connection))) :
    KeepsOwners self (self.modifyObject connection f) where
  servers := rfl
  upstreams := rfl
  objects other := by
    by_cases same : other = connection
    · subst same
      rw [modifyObject_same]
      exact owner
    · rw [modifyObject_other _ _ _ _ same]
      exact .refl _

theorem keepsOwners_resetBlock : KeepsOwners self (self.resetBlock connection) := by
  unfold resetBlock
  split
  · exact .refl self
  · exact keepsOwners_modifyObject self _ _ ⟨rfl, rfl, rfl, rfl, rfl⟩

theorem keepsPool_resetBlock (block : ∀ blockConn ∈ (self.objects connection).blockConn,
    (self.objects blockConn).flagBlockConn = true) :
    KeepsPool inUse self (self.resetBlock connection) := by
  unfold resetBlock
  split
  · exact .refl inUse self
  · rename_i blockConn found
    refine keepsPool_modifyObject inUse self _ _ (CoConnection.samePlace_resetBlock _) ?_ ?_
    · intro main
      cases main.symm.trans (block blockConn found)
    · intro _ unowned
      exact ⟨unowned.serverControl, unowned.upstream, unowned.requestCount, unowned.handlerCleanups⟩

theorem keepsOwners_reset : KeepsOwners self (self.reset connection true) :=
  (keepsOwners_modifyObject self connection CoConnection.resetRequest
    ⟨rfl, rfl, rfl, rfl, rfl⟩).trans (keepsOwners_resetBlock _ connection)

theorem keepsOwners_keepalive : KeepsOwners self (self.keepRequestConnection connection) := by
  have added := (modifyConnection_reregistered (self.reset connection true) connection .add
    coEventIn).keepsOwners
  have deleted := (modifyConnection_reregistered
    ((self.reset connection true).modifyConnection connection .add coEventIn).2 connection .del
    coEventOut).keepsOwners
  unfold keepRequestConnection
  exact (((keepsOwners_reset self connection).trans added).trans deleted).trans
    (keepsOwners_modifyObject _ connection _ ⟨rfl, rfl, rfl, rfl, rfl⟩)

end

/-- A kept alive connection is reset, but not taken from its owner. -/
theorem PoolInv.keepsPool_reset {self : CoCycle} {pairs : Nat} {inUse : List Nat} {connection : Nat}
    (inv : PoolInv self pairs inUse) (used : connection ∈ inUse) :
    KeepsPool inUse self (self.reset connection true) := by
  obtain ⟨k, below, rfl⟩ := inv.used_main used
  have main := inv.layout.main k below
  have block := inv.layout.block k below
  refine (keepsPool_modifyObject inUse self (2 * k) CoConnection.resetRequest
    (CoConnection.samePlace_resetRequest _) (fun _ => rfl) fun notUsed => absurd used notUsed).trans
    (keepsPool_resetBlock inUse _ (2 * k) ?_)
  intro blockConn found
  rw [modifyObject_same] at found
  cases found.symm.trans main.blockConn
  rw [modifyObject_other _ _ _ _ (by omega)]
  exact block.flagBlockConn

theorem PoolInv.keepsPool_keepalive {self : CoCycle} {pairs : Nat} {inUse : List Nat} {connection : Nat}
    (inv : PoolInv self pairs inUse) (used : connection ∈ inUse) :
    KeepsPool inUse self (self.keepRequestConnection connection) := by
  have added := (modifyConnection_reregistered (self.reset connection true) connection .add
    coEventIn).keepsPool inUse
  have deleted := (modifyConnection_reregistered
    ((self.reset connection true).modifyConnection connection .add coEventIn).2 connection .del
    coEventOut).keepsPool inUse
  unfold keepRequestConnection
  exact (((inv.keepsPool_reset used).trans added).trans deleted).trans
    (keepsPool_modifyObject inUse _ connection _ ⟨rfl, rfl, rfl, rfl⟩ (fun _ => rfl)
      fun notUsed => absurd used notUsed)

theorem PoolInv.keepalive {self : CoCycle} {pairs : Nat} {inUse : List Nat} {connection : Nat}
    (inv : PoolInv self pairs inUse) (used : connection ∈ inUse) :
    PoolInv (self.keepRequestConnection connection) pairs inUse :=
  inv.keep (inv.keepsPool_keepalive used)

end CoCycle

end CoServer
