import CoServer.Upstream.Accounting
import CoServer.Upstream.CallbackUpstream

/-! # What the connections leave alone

Handing out and taking back connections changes no request and no queue, and of
the other connections in use at most what they are registered for. -/

namespace CoServer

namespace CoCycle

/-! ## Requests and queues -/

/-- No request is touched, and nothing is queued. -/
structure KeepsRequests (before after : CoCycle) : Prop where
  requests : after.requests = before.requests
  allocated : after.allocatedRequests = before.allocatedRequests
  requestId : after.requestId = before.requestId
  delay : after.delayConnections = before.delayConnections

theorem KeepsRequests.refl (cycle : CoCycle) : KeepsRequests cycle cycle := ⟨rfl, rfl, rfl, rfl⟩

theorem KeepsRequests.trans {a b c : CoCycle} (first : KeepsRequests a b)
    (second : KeepsRequests b c) : KeepsRequests a c :=
  ⟨second.requests.trans first.requests, second.allocated.trans first.allocated,
    second.requestId.trans first.requestId, second.delay.trans first.delay⟩

theorem Reregistered.keepsRequests {before after : CoCycle} {connection : Nat}
    (changed : Reregistered before connection after) : KeepsRequests before after := by
  cases changed with
  | kernel => exact ⟨rfl, rfl, rfl, rfl⟩
  | mirrored => exact ⟨rfl, rfl, rfl, rfl⟩

section
variable (self : CoCycle) (connection server upstream : Nat)

theorem keepsRequests_modifyObject (f : CoConnection → CoConnection) :
    KeepsRequests self (self.modifyObject connection f) := ⟨rfl, rfl, rfl, rfl⟩

theorem keepsRequests_modifyUpstream (f : CoUpstream → CoUpstream) :
    KeepsRequests self (self.modifyUpstream upstream f) := ⟨rfl, rfl, rfl, rfl⟩

theorem keepsRequests_modifyServer (f : CoServerControl → CoServerControl) :
    KeepsRequests self (self.modifyServer server f) := ⟨rfl, rfl, rfl, rfl⟩

theorem keepsRequests_pool (connectionPool : CoConnectionPool) :
    KeepsRequests self { self with connectionPool } := ⟨rfl, rfl, rfl, rfl⟩

theorem keepsRequests_modifyListening : KeepsRequests self (self.modifyListening server) := by
  obtain same | ⟨eventType, listening, same⟩ := self.modifyListening_cases server
  · rw [same]
    exact .refl self
  · rw [same]
    exact (keepsRequests_modifyServer self server _).trans
      (modifyConnection_reregistered _ _ _ _).keepsRequests

theorem keepsRequests_runCleanup (cleanup : Cleanup) :
    KeepsRequests self (self.runCleanup connection cleanup) := by
  cases cleanup
  unfold runCleanup funcCleanup
  dsimp only
  split
  · exact .refl self
  · exact (keepsRequests_modifyServer self _ _).trans (keepsRequests_modifyListening _ _)

theorem keepsRequests_cleanups (cleanups : List Cleanup) :
    KeepsRequests self (cleanups.foldl (runCleanup connection) self) := by
  induction cleanups generalizing self with
  | nil => exact .refl self
  | cons cleanup rest ih => exact (keepsRequests_runCleanup self connection cleanup).trans (ih _)

theorem keepsRequests_closeSocket : KeepsRequests self (self.closeSocket connection) :=
  ⟨rfl, rfl, rfl, rfl⟩

theorem keepsRequests_resetBlock : KeepsRequests self (self.resetBlock connection) := by
  unfold resetBlock
  split
  · exact .refl self
  · exact keepsRequests_modifyObject _ _ _

theorem keepsRequests_reset (keepalive : Bool) :
    KeepsRequests self (self.reset connection keepalive) := by
  have requested := keepsRequests_modifyObject self connection CoConnection.resetRequest
  unfold reset
  dsimp only
  split
  · exact requested.trans (keepsRequests_resetBlock _ _)
  · split
    · exact requested.trans (((keepsRequests_closeSocket _ _).trans
        (keepsRequests_modifyObject _ _ _)).trans (keepsRequests_resetBlock _ _))
    · exact requested.trans ((keepsRequests_modifyObject _ _ _).trans
        (keepsRequests_resetBlock _ _))

theorem keepsRequests_freeConnection : KeepsRequests self (self.freeConnection connection) := by
  have closed : ∀ cycle : CoCycle, KeepsRequests cycle
      (if (self.objects connection).coTcp.socketfd > 0 then cycle.closeSocket connection
      else cycle) := by
    intro cycle
    split
    · exact keepsRequests_closeSocket _ _
    · exact .refl _
  unfold freeConnection
  exact (((((keepsRequests_pool self _).trans (closed _)).trans (keepsRequests_cleanups _ _ _)).trans
    (keepsRequests_modifyObject _ _ _)).trans (keepsRequests_reset _ _ _)).trans
      (keepsRequests_pool _ _)

theorem keepsRequests_createPair (i : Nat) : KeepsRequests self (self.createPair i) :=
  ⟨rfl, rfl, rfl, rfl⟩

theorem keepsRequests_createPairs (turns i : Nat) : KeepsRequests self (createPairs turns i self) := by
  induction turns generalizing i self with
  | zero => exact .refl self
  | succ turns ih => exact (keepsRequests_createPair self i).trans (ih (self.createPair i) (i + 2))

theorem keepsRequests_refill : KeepsRequests self self.refill := by
  unfold refill
  split
  · unfold expandConnections
    dsimp only
    split
    · exact .refl self
    · exact (keepsRequests_pool self _).trans (keepsRequests_createPairs _ _ _)
  · exact .refl self

theorem keepsRequests_setTcp (called : CoTCP × Kernel) :
    KeepsRequests self (self.setTcp connection called) := ⟨rfl, rfl, rfl, rfl⟩

theorem keepsRequests_popFree (socketFd : Int) (now : Nat) :
    KeepsRequests self (self.popFree connection socketFd now) := ⟨rfl, rfl, rfl, rfl⟩

theorem keepsRequests_getConnectionIp (calls : OpenCalls) (now : Nat) (ip : Bytes) (port : Nat)
    (listen : Bool) : KeepsRequests self (self.getConnectionIp calls now ip port listen).1 := by
  have refilled := keepsRequests_refill self
  have set : ∀ connection called, KeepsRequests self (self.refill.setTcp connection called) :=
    fun _ _ => refilled.trans (keepsRequests_setTcp _ _ _)
  unfold getConnectionIp
  dsimp only
  split
  · exact refilled
  · split
    · exact set _ _
    · split
      · exact set _ _
      · split
        · exact set _ _
        · exact (set _ _).trans (keepsRequests_popFree _ _ _ _)

theorem keepsRequests_assignUpstream (backend : Nat) :
    KeepsRequests self (self.assignUpstream connection upstream backend) := ⟨rfl, rfl, rfl, rfl⟩

theorem keepsRequests_bindRequest (request : Nat) :
    KeepsRequests self (self.bindRequest connection request) := ⟨rfl, rfl, rfl, rfl⟩

theorem keepsRequests_upstreamGetConnection (backend : Option Nat) (calls : OpenCalls)
    (now started : Nat) : KeepsRequests self
      (self.upstreamGetConnection upstream backend calls now started).1 := by
  unfold upstreamGetConnection
  cases backend with
  | none => exact .refl self
  | some backend =>
    dsimp only
    split
    · exact (keepsRequests_modifyUpstream self _ _).trans (keepsRequests_assignUpstream _ _ _ _)
    · have got := keepsRequests_getConnectionIp self calls now
        ((self.upstreams upstream).server backend).host ((self.upstreams upstream).server backend).port
        false
      split
      · exact .refl self
      · generalize self.getConnectionIp calls now _ _ = outcome at got ⊢
        obtain ⟨cycle, result⟩ := outcome
        cases result with
        | none => exact got
        | some connection =>
          exact ((got.trans (keepsRequests_modifyUpstream _ _ _)).trans
            (keepsRequests_modifyObject _ _ _)).trans (keepsRequests_assignUpstream _ _ _ _)

theorem keepsRequests_getUpstreamConnection (upstream : Option Nat) (get : GetCalls) :
    KeepsRequests self (self.getUpstreamConnection upstream get).1 := by
  unfold getUpstreamConnection
  cases upstream with
  | none => exact .refl self
  | some upstream =>
    have got := keepsRequests_upstreamGetConnection self upstream get.backend get.calls get.now
      get.started
    dsimp only
    generalize self.upstreamGetConnection upstream get.backend get.calls get.now get.started =
      outcome at got ⊢
    obtain ⟨cycle, result⟩ := outcome
    cases result with
    | none => exact got
    | some connection =>
      dsimp only at got ⊢
      exact got.trans (keepsRequests_modifyObject cycle connection _)

theorem keepsRequests_delConnection : KeepsRequests self (self.delConnection connection).2 :=
  (delConnection_reregistered self connection).keepsRequests

theorem keepsRequests_closeUpstream :
    KeepsRequests self (self.closeUpstream upstream connection) :=
  ((keepsRequests_modifyUpstream self _ _).trans (keepsRequests_delConnection _ _)).trans
    (keepsRequests_freeConnection _ _)

theorem keepsRequests_keepUpstream (serverkey : Bytes) :
    KeepsRequests self (self.keepUpstream upstream connection serverkey) :=
  ((keepsRequests_reset self connection true).trans
    (modifyConnection_reregistered _ _ _ _).keepsRequests).trans (keepsRequests_modifyUpstream _ _ _)

theorem keepsRequests_freeUpstreamConnection (retCode : Int) (timestamp : Nat) :
    KeepsRequests self (self.freeUpstreamConnection connection retCode timestamp) := by
  unfold freeUpstreamConnection
  split
  · unfold upstreamFreeConnection
    dsimp only
    split
    · exact (keepsRequests_modifyUpstream self _ _).trans (keepsRequests_closeUpstream _ _ _)
    · split
      · exact (keepsRequests_modifyUpstream self _ _).trans (keepsRequests_closeUpstream _ _ _)
      · split
        · exact keepsRequests_closeUpstream _ _ _
        · exact keepsRequests_keepUpstream _ _ _ _
  · exact .refl self

theorem keepsRequests_keepRequestConnection :
    KeepsRequests self (self.keepRequestConnection connection) := by
  unfold keepRequestConnection
  exact (((keepsRequests_reset self connection true).trans
    (modifyConnection_reregistered _ _ _ _).keepsRequests).trans
      (modifyConnection_reregistered _ _ _ _).keepsRequests).trans (keepsRequests_modifyObject _ _ _)

theorem keepsRequests_freeRequestConnection (retCode : Int) :
    KeepsRequests self (self.freeRequestConnection connection retCode) := by
  unfold freeRequestConnection
  split
  · exact (keepsRequests_delConnection self connection).trans (keepsRequests_freeConnection _ _)
  · exact keepsRequests_keepRequestConnection self connection

end

end CoCycle

/-! ## Other connections -/

/-- At most what the connection is registered for changed. -/
def CoConnection.UpToRegistration (a b : CoConnection) : Prop :=
  ∃ events version readActive writeActive,
    b = CoCycle.registered events version readActive writeActive a

namespace CoConnection.UpToRegistration

variable {a b c : CoConnection}

theorem refl (a : CoConnection) : UpToRegistration a a :=
  ⟨a.epollCurEvents, a.epollCurVersion, a.readEvent.flagActive, a.writeEvent.flagActive, rfl⟩

theorem of_eq (same : b = a) : UpToRegistration a b := same ▸ refl a

theorem trans (first : UpToRegistration a b) (second : UpToRegistration b c) :
    UpToRegistration a c := by
  obtain ⟨_, _, _, _, rfl⟩ := first
  obtain ⟨events, version, readActive, writeActive, rfl⟩ := second
  exact ⟨events, version, readActive, writeActive, rfl⟩

theorem version (same : UpToRegistration a b) : b.version = a.version := by
  obtain ⟨_, _, _, _, rfl⟩ := same
  rfl

theorem upstream (same : UpToRegistration a b) : b.upstream = a.upstream := by
  obtain ⟨_, _, _, _, rfl⟩ := same
  rfl

theorem blocking (same : UpToRegistration a b) :
    b.flagThirdFuncBlocking = a.flagThirdFuncBlocking := by
  obtain ⟨_, _, _, _, rfl⟩ := same
  rfl

end CoConnection.UpToRegistration

namespace CoCycle

open CoConnection (UpToRegistration)

section
variable {self : CoCycle} {pairs : Nat} {inUse : List Nat} {connection other : Nat}

theorem Reregistered.upToRegistration {before after : CoCycle}
    (changed : Reregistered before connection after) (other : Nat) :
    UpToRegistration (before.objects other) (after.objects other) :=
  changed.object other

theorem PoolInv.freeConnection_other (inv : PoolInv self pairs inUse) (used : connection ∈ inUse)
    (otherUsed : other ∈ inUse) (apart : other ≠ connection) :
    UpToRegistration (self.objects other) ((self.freeConnection connection).objects other) := by
  obtain ⟨-, released⟩ := inv.freeConnection used
  obtain ⟨j, -, rfl⟩ := inv.used_main used
  obtain ⟨k, -, rfl⟩ := inv.used_main otherUsed
  exact released.others (2 * k) apart (by omega)

theorem PoolInv.closeUpstream_other (inv : PoolInv self pairs inUse) (used : connection ∈ inUse)
    (otherUsed : other ∈ inUse) (apart : other ≠ connection) (upstream : Nat) :
    UpToRegistration (self.objects other)
      ((self.closeUpstream upstream connection).objects other) := by
  have deleted := delConnection_reregistered (self.modifyUpstream upstream (.resizeBy (-1))) connection
  have counted := inv.keep ((keepsPool_modifyUpstream inUse self upstream (.resizeBy (-1))).trans
    (deleted.keepsPool inUse))
  exact (deleted.upToRegistration other).trans (counted.freeConnection_other used otherUsed apart)

/-- A reset of a main connection touches nothing else but its block connection. -/
theorem PoolInv.reset_other (inv : PoolInv self pairs inUse) (used : connection ∈ inUse)
    (otherUsed : other ∈ inUse) (apart : other ≠ connection) :
    (self.reset connection true).objects other = self.objects other := by
  obtain ⟨j, below, rfl⟩ := inv.used_main used
  obtain ⟨k, -, rfl⟩ := inv.used_main otherUsed
  have paired : ((self.modifyObject (2 * j) CoConnection.resetRequest).objects (2 * j)).blockConn =
      some (2 * j + 1) := by
    rw [modifyObject_same]
    exact (inv.layout.main j below).blockConn
  unfold reset
  dsimp only
  rw [if_pos rfl, resetBlock_owned paired, modifyObject_other _ _ _ _ (by omega),
    modifyObject_other _ _ _ _ apart]

theorem PoolInv.keepUpstream_other (inv : PoolInv self pairs inUse) (used : connection ∈ inUse)
    (otherUsed : other ∈ inUse) (apart : other ≠ connection) (upstream : Nat) (serverkey : Bytes) :
    UpToRegistration (self.objects other)
      ((self.keepUpstream upstream connection serverkey).objects other) :=
  (UpToRegistration.of_eq (inv.reset_other used otherUsed apart)).trans
    ((modifyConnection_reregistered _ _ _ _).upToRegistration other)

theorem PoolInv.freeUpstreamConnection_other (inv : PoolInv self pairs inUse)
    (used : connection ∈ inUse) (otherUsed : other ∈ inUse) (apart : other ≠ connection)
    (retCode : Int) (timestamp : Nat) :
    UpToRegistration (self.objects other)
      ((self.freeUpstreamConnection connection retCode timestamp).objects other) := by
  have closed : ∀ upstream (f : CoUpstream → CoUpstream), UpToRegistration (self.objects other)
      (((self.modifyUpstream upstream f).closeUpstream upstream connection).objects other) :=
    fun upstream f => (inv.keep (keepsPool_modifyUpstream inUse self upstream f)).closeUpstream_other
      used otherUsed apart upstream
  unfold freeUpstreamConnection
  split
  · unfold upstreamFreeConnection
    dsimp only
    split
    · exact closed _ _
    · split
      · exact closed _ _
      · split
        · exact inv.closeUpstream_other used otherUsed apart _
        · exact inv.keepUpstream_other used otherUsed apart _ _
  · exact .refl _

end

/-! ## Steps in a run -/

section
variable {conf : Nat → CoConfUpstreamLimits} {run : UpstreamRun} {connection other : Nat}

/-- What connections are accounted by stays, whatever else a step does. -/
theorem UpstreamInv.keep (inv : UpstreamInv conf run) {cycle : CoCycle}
    (pool : KeepsPool run.inUse run.cycle cycle) (owners : KeepsOwners run.cycle cycle) :
    UpstreamInv conf { run with cycle } := by
  obtain ⟨pairs, before⟩ := inv.pool
  refine ⟨?_, ⟨pairs, before.keep pool⟩, ?_, inv.heldNodup, ?_, ?_, ?_⟩
  · intro upstream
    dsimp only
    rw [owners.upstreams]
    exact inv.configured upstream
  · intro connection
    refine (inv.accounted connection).keep ⟨fun _ => owners.objects connection, Iff.rfl, Iff.rfl, ?_,
      rfl⟩ ?_
    · dsimp only
      rw [owners.upstreams]
      exact fun _ _ => Iff.rfl
    · dsimp only
      rw [owners.upstreams]
      exact fun _ => .refl _
  · dsimp only
    rw [owners.upstreams]
    exact inv.reuseNodup
  · intro upstream
    dsimp only
    rw [owners.upstreams, countP_owned upstream fun other _ => (owners.objects other).upstream]
    exact inv.counted upstream
  · dsimp only
    rw [owners.upstreams]
    exact inv.bounded

/-- A client's connection belongs to no upstream, whichever request it is bound to. -/
theorem UpstreamInv.bindClient (inv : UpstreamInv conf run) (used : connection ∈ run.inUse)
    (client : (run.cycle.objects connection).upstream = none) (request : Nat) :
    UpstreamInv conf { run with cycle := run.cycle.bindRequest connection request } := by
  obtain ⟨pairs, pool⟩ := inv.pool
  have unowned : ((run.cycle.bindRequest connection request).objects connection).upstream = none := by
    rw [bindRequest_same]
    exact client
  refine ⟨inv.configured, ⟨pairs, pool.keep (keepsPool_bindRequest _ connection request used)⟩, ?_,
    inv.heldNodup, inv.reuseNodup, fun upstream => ?_, inv.bounded⟩
  · intro other
    by_cases same : other = connection
    · subst same
      refine ⟨fun held => ?_, fun _ _ upstream owner => ?_, fun upstream serverkey mem => ?_,
        fun _ upstream owner => ?_⟩
      · obtain ⟨-, _, _, owner, -⟩ := (inv.accounted other).held held
        cases client.symm.trans owner
      · cases unowned.symm.trans owner
      · obtain ⟨-, -, owner, -⟩ := (inv.accounted other).reuse upstream serverkey mem
        cases client.symm.trans owner
      · cases unowned.symm.trans owner
    · refine (inv.accounted other).keep ⟨fun _ => ?_, Iff.rfl, Iff.rfl, fun _ _ => Iff.rfl, rfl⟩
        fun _ => .refl _
      rw [bindRequest_other _ _ _ same]
      exact .refl _
  · refine (inv.counted upstream).trans (congrArg Nat.cast ?_)
    refine countP_owned upstream fun other _ => ?_
    by_cases same : other = connection
    · rw [same, unowned, client]
    · rw [bindRequest_other _ _ _ same]

theorem HasLife.keep (life : HasLife conf run connection) {cycle : CoCycle}
    (same : SameOwner (run.cycle.objects connection) (cycle.objects connection)) :
    HasLife conf { run with cycle } connection := by
  intro upstream owner positive small
  have left := life upstream (same.upstream.symm.trans owner) positive small
  exact same.requestCount ▸ left

/-- The run after a held connection was given back; the cycle is what is left. -/
def UpstreamRun.gaveBack (self : UpstreamRun) (cycle : CoCycle) (connection : Nat) : UpstreamRun :=
  { self with
    cycle
    inUse := if connection ∈ cycle.connectionPool.freeConnections then
      self.inUse.erase connection else self.inUse
    held := self.held.erase connection }

theorem UpstreamInv.giveBack (inv : UpstreamInv conf run) (held : connection ∈ run.held)
    (retCode : Int) (timestamp : Nat) :
    UpstreamInv conf (run.gaveBack (run.cycle.freeUpstreamConnection connection retCode timestamp)
      connection) := by
  have stepped : run.step (.freeConnection connection retCode timestamp) = some (run.gaveBack
      (run.cycle.freeUpstreamConnection connection retCode timestamp) connection) :=
    if_pos (.inl held)
  exact inv.freeConnection stepped

/-- The environment keeps to what the strategy and the kernel promise. -/
def GetCalls.Allowed (get : GetCalls) (cycle : CoCycle) (upstream : Nat) : Prop :=
  (∀ index ∈ get.backend, index < (cycle.upstreams upstream).backends.length) ∧
    (get.calls.socket = -1 ∨ Unopened cycle.kernel get.calls.socket)

instance (get : GetCalls) (cycle : CoCycle) (upstream : Nat) : Decidable (get.Allowed cycle upstream) :=
  inferInstanceAs (Decidable (_ ∧ _))

/-- What a caller of `get_upstream_connection` relies on. -/
structure Got (conf : Nat → CoConfUpstreamLimits) (run : UpstreamRun) (upstream : Nat)
    (cycle : CoCycle) (connection : Nat) : Prop where
  inv : UpstreamInv conf ({ run with cycle }.take connection)
  life : HasLife conf ({ run with cycle }.take connection) connection
  unbusy : connection ∈ run.inUse → run.Idle connection
  owner : (cycle.objects connection).upstream = some upstream
  others : ∀ other ∈ run.inUse, other ≠ connection → cycle.objects other = run.cycle.objects other

theorem UpstreamInv.upstreamGet (inv : UpstreamInv conf run) {upstream : Nat} {get : GetCalls}
    (allowed : get.Allowed run.cycle upstream) {cycle : CoCycle} {result : Option Nat}
    (got : run.cycle.upstreamGetConnection upstream get.backend get.calls get.now get.started =
      (cycle, result)) :
    (result = none → UpstreamInv conf { run with cycle } ∧
      ∀ other ∈ run.inUse, cycle.objects other = run.cycle.objects other) ∧
    ∀ connection, result = some connection → Got conf run upstream cycle connection := by
  obtain ⟨inside, unopened⟩ := allowed
  obtain ⟨backend, calls, now, started⟩ := get
  dsimp only at got inside unopened
  unfold upstreamGetConnection at got
  cases backend with
  | none =>
    cases got
    exact ⟨fun _ => ⟨inv, fun _ _ => rfl⟩, fun _ none => nomatch none⟩
  | some backend =>
    have below := inside backend rfl
    dsimp only at got
    cases front : (run.cycle.upstreams upstream).reuseConnections
        ((run.cycle.upstreams upstream).server backend).serverkey with
    | cons connection rest =>
      rw [front] at got
      cases got
      refine ⟨fun none => (nomatch none), ?_⟩
      rintro _ ⟨⟩
      obtain ⟨taken, life⟩ := inv.takeReuse below front
      have mem : connection ∈ (run.cycle.upstreams upstream).reuseConnections
          ((run.cycle.upstreams upstream).server backend).serverkey := by
        rw [front]
        exact List.mem_cons_self
      obtain ⟨used, notHeld, owner, -⟩ := (inv.accounted connection).reuse upstream _ mem
      refine ⟨taken, life, fun _ => ⟨used, notHeld, Option.isSome_of_eq_some owner⟩, ?_, ?_⟩
      · rw [assignUpstream_same]
      · exact fun other _ apart => assignUpstream_other _ _ _ _ apart
    | nil =>
      rw [front] at got
      dsimp only at got
      by_cases full : (run.cycle.upstreams upstream).curConnectionSize ≥
          (run.cycle.upstreams upstream).confUpstream.maxConnections
      · rw [if_pos full] at got
        cases got
        exact ⟨fun _ => ⟨inv, fun _ _ => rfl⟩, fun _ none => nomatch none⟩
      · rw [if_neg full] at got
        obtain ⟨pairs, pool⟩ := inv.pool
        have out := pool.getConnectionIp calls now
          ((run.cycle.upstreams upstream).server backend).host
          ((run.cycle.upstreams upstream).server backend).port false unopened
        generalize run.cycle.getConnectionIp calls now _ _ = outcome at out got
        obtain ⟨cycle, result⟩ := outcome
        cases result with
        | none =>
          cases got
          exact ⟨fun _ => ⟨inv.handOther out, out.used⟩, fun _ none => nomatch none⟩
        | some connection =>
          cases got
          refine ⟨fun none => (nomatch none), ?_⟩
          rintro _ ⟨⟩
          obtain ⟨taken, life⟩ := inv.takeNew below (not_le.1 full) out started
          obtain ⟨unused, -⟩ := out.new connection rfl
          refine ⟨taken, life, fun used => absurd used unused, ?_, ?_⟩
          · rw [assignUpstream_same]
          · intro other used apart
            rw [assignUpstream_other _ _ _ _ apart, modifyObject_other _ _ _ _ apart]
            exact out.used other used

theorem UpstreamInv.getNone (inv : UpstreamInv conf run) {upstream : Nat} {get : GetCalls}
    (allowed : get.Allowed run.cycle upstream) {cycle : CoCycle}
    (got : run.cycle.getUpstreamConnection (some upstream) get = (cycle, none)) :
    UpstreamInv conf { run with cycle } ∧
      ∀ other ∈ run.inUse, cycle.objects other = run.cycle.objects other := by
  unfold getUpstreamConnection at got
  dsimp only at got
  split at got
  · rename_i outcome
    cases got
    exact (inv.upstreamGet allowed outcome).1 rfl
  · cases got

theorem UpstreamInv.getSome (inv : UpstreamInv conf run) {upstream : Nat} {get : GetCalls}
    (allowed : get.Allowed run.cycle upstream) {cycle : CoCycle}
    (got : run.cycle.getUpstreamConnection (some upstream) get = (cycle, some connection)) :
    Got conf run upstream cycle connection := by
  unfold getUpstreamConnection at got
  dsimp only at got
  split at got
  · cases got
  · rename_i handed connection outcome
    cases got
    have before := (inv.upstreamGet allowed outcome).2 connection rfl
    have used : connection ∈ ({ run with cycle := handed }.take connection).inUse :=
      List.mem_insert_self
    have owners := keepsOwners_modifyObject handed connection
      (fun object => { object with handler := some .upstreamInit }) ⟨rfl, rfl, rfl, rfl, rfl⟩
    have pool := keepsPool_modifyObject ({ run with cycle := handed }.take connection).inUse handed
      connection (fun object => { object with handler := some .upstreamInit }) ⟨rfl, rfl, rfl, rfl⟩
      (fun _ => rfl) fun notUsed => absurd used notUsed
    refine ⟨before.inv.keep pool owners, ?_, before.unbusy, ?_, ?_⟩
    · exact before.life.keep (owners.objects connection)
    · rw [modifyObject_same]
      exact before.owner
    · intro other mem apart
      rw [modifyObject_other _ _ _ _ apart]
      exact before.others other mem apart

/-- The connection that an event gives back. -/
def UpstreamEvent.freed : UpstreamEvent → Option Nat
  | .freeConnection connection _ _ | .freeOther connection => some connection
  | .getConnection .. | .getOther .. => none

/-- The run after a connection was handed on for a request. -/
def UpstreamRun.hand (self : UpstreamRun) (cycle : CoCycle) (connection : Nat) :
    UpstreamRun :=
  let taken := self.take connection
  { taken with
    cycle
    requests := Function.update taken.requests connection (taken.requests connection + 1) }

/-! ## A connection that somebody else holds -/

/-- The connection stays in use and held, and keeps all but what it is registered for. -/
structure Spared (before after : UpstreamRun) (connection : Nat) : Prop where
  used : connection ∈ before.inUse → connection ∈ after.inUse
  held : connection ∈ before.held → connection ∈ after.held
  same : UpToRegistration (before.cycle.objects connection) (after.cycle.objects connection)

theorem Spared.trans {a b c : UpstreamRun} (first : Spared a b connection)
    (second : Spared b c connection) : Spared a c connection :=
  ⟨fun used => second.used (first.used used), fun held => second.held (first.held held),
    first.same.trans second.same⟩

/-- A cycle in which the object is the same. -/
theorem Spared.of_object {cycle : CoCycle}
    (same : cycle.objects connection = run.cycle.objects connection) :
    Spared run { run with cycle } connection :=
  ⟨id, id, .of_eq same⟩

theorem Got.spared {upstream : Nat} {cycle : CoCycle} (got : Got conf run upstream cycle connection)
    (used : other ∈ run.inUse) (apart : other ≠ connection) :
    Spared run ({ run with cycle }.take connection) other :=
  ⟨fun used => List.mem_insert_of_mem used, fun held => List.mem_cons_of_mem connection held,
    .of_eq (got.others other used apart)⟩

/-- A connection that is held is not handed on. -/
theorem Got.apart {upstream : Nat} {cycle : CoCycle} (got : Got conf run upstream cycle connection)
    (inv : UpstreamInv conf run) (held : other ∈ run.held) : other ≠ connection := by
  rintro rfl
  obtain ⟨used, -⟩ := (inv.accounted other).held held
  exact (got.unbusy used).2.1 held

theorem UpstreamInv.giveBack_spared (inv : UpstreamInv conf run) (leaves : connection ∈ run.inUse)
    (used : other ∈ run.inUse) (apart : other ≠ connection) (retCode : Int) (timestamp : Nat) :
    Spared run (run.gaveBack (run.cycle.freeUpstreamConnection connection retCode timestamp)
      connection) other := by
  obtain ⟨pairs, pool⟩ := inv.pool
  refine ⟨fun used => ?_, fun mem => (List.mem_erase_of_ne apart).2 mem, ?_⟩
  · dsimp only [UpstreamRun.gaveBack]
    split
    · exact (List.mem_erase_of_ne apart).2 used
    · exact used
  · exact pool.freeUpstreamConnection_other leaves used apart retCode timestamp

theorem spared_handOut {request : Option Nat} (apart : other ≠ connection) :
    Spared (run.take connection) (run.handOut connection request) other := by
  cases request with
  | none => exact ⟨id, id, .refl _⟩
  | some request => exact ⟨id, id, .of_eq (bindRequest_other _ _ _ apart)⟩

/-- Nothing but requests and queues changed. -/
def RequestsOnly (before after : CoCycle) : Prop :=
  ∃ requests allocatedRequests requestId delayConnections,
    after = { before with requests, allocatedRequests, requestId, delayConnections }

theorem RequestsOnly.objects {before after : CoCycle} (only : RequestsOnly before after) :
    after.objects = before.objects := by
  obtain ⟨_, _, _, _, rfl⟩ := only
  rfl

theorem RequestsOnly.trans {a b c : CoCycle} (first : RequestsOnly a b) (second : RequestsOnly b c) :
    RequestsOnly a c := by
  obtain ⟨_, _, _, _, rfl⟩ := first
  obtain ⟨requests, allocatedRequests, requestId, delayConnections, rfl⟩ := second
  exact ⟨requests, allocatedRequests, requestId, delayConnections, rfl⟩

theorem RequestsOnly.keepsPool {before after : CoCycle} (only : RequestsOnly before after)
    (inUse : List Nat) : KeepsPool inUse before after := by
  obtain ⟨_, _, _, _, rfl⟩ := only
  exact ⟨rfl, rfl, rfl, fun _ => .refl _, fun _ _ => rfl, fun _ _ unowned => unowned⟩

theorem RequestsOnly.keepsOwners {before after : CoCycle} (only : RequestsOnly before after) :
    KeepsOwners before after := by
  obtain ⟨_, _, _, _, rfl⟩ := only
  exact ⟨rfl, rfl, fun _ => .refl _⟩

/-- The connection got is handed on for a request. -/
theorem Got.hand {upstream request : Nat} {cycle after : CoCycle}
    (got : Got conf run upstream cycle connection)
    (only : RequestsOnly (cycle.bindRequest connection request) after) :
    UpstreamInv conf (run.hand after connection) :=
  (got.inv.bind List.mem_cons_self got.life request).keep (only.keepsPool _) only.keepsOwners

theorem Got.hand_spared {upstream request : Nat} {cycle after : CoCycle}
    (got : Got conf run upstream cycle connection)
    (only : RequestsOnly (cycle.bindRequest connection request) after)
    (used : other ∈ run.inUse) (apart : other ≠ connection) :
    Spared run (run.hand after connection) other := by
  obtain ⟨stays, holds, same⟩ := got.spared used apart
  refine ⟨stays, holds, ?_⟩
  have unchanged : (run.hand after connection).cycle.objects other = cycle.objects other := by
    show after.objects other = _
    rw [only.objects]
    exact bindRequest_other _ _ _ apart
  rw [unchanged]
  exact same

theorem Got.hand_owner {upstream request : Nat} {cycle after : CoCycle}
    (got : Got conf run upstream cycle connection)
    (only : RequestsOnly (cycle.bindRequest connection request) after) :
    (after.objects connection).upstream = some upstream := by
  rw [only.objects, bindRequest_same]
  exact got.owner

/-- Whatever the other users of the thread do, who holds a connection keeps it. -/
theorem UpstreamInv.step_spared (inv : UpstreamInv conf run) {event : UpstreamEvent}
    {next : UpstreamRun} (stepped : run.step event = some next) (used : other ∈ run.inUse)
    (busy : ¬ run.Idle other) (kept : event.freed ≠ some other) : Spared run next other := by
  cases event with
  | getConnection upstream backend calls now started request =>
    obtain ⟨allowed, stepped⟩ := Option.ite_none_right_eq_some.1 stepped
    have outcome : ∀ cycle result, run.cycle.upstreamGetConnection upstream backend calls now started =
        (cycle, result) → _ := fun cycle result got =>
      @UpstreamInv.upstreamGet conf run inv upstream ⟨backend, calls, now, started⟩ allowed cycle
        result got
    split at stepped
    · rename_i cycle got
      cases stepped
      exact .of_object (((outcome _ _ got).1 rfl).2 other used)
    · rename_i cycle connection got
      cases stepped
      have handed := (outcome _ _ got).2 connection rfl
      have apart : other ≠ connection := fun same => busy (same ▸ handed.unbusy (same ▸ used))
      exact (handed.spared used apart).trans (spared_handOut apart)
  | freeConnection connection retCode timestamp =>
    obtain ⟨allowed, stepped⟩ := Option.ite_none_right_eq_some.1 stepped
    cases stepped
    have leaves : connection ∈ run.inUse := by
      obtain held | ⟨-, idle⟩ := allowed
      · exact ((inv.accounted connection).held held).1
      · exact idle.1
    exact inv.giveBack_spared leaves used (fun same => kept (same ▸ rfl)) retCode timestamp
  | getOther calls now ip port listen =>
    obtain ⟨unopened, stepped⟩ := Option.ite_none_right_eq_some.1 stepped
    cases stepped
    obtain ⟨pairs, pool⟩ := inv.pool
    have out := pool.getConnectionIp calls now ip port listen unopened
    exact ⟨fun used => List.mem_append_right _ used, id, .of_eq (out.used other used)⟩
  | freeOther connection =>
    obtain ⟨⟨leaves, -⟩, stepped⟩ := Option.ite_none_right_eq_some.1 stepped
    cases stepped
    obtain ⟨pairs, pool⟩ := inv.pool
    have apart : other ≠ connection := fun same => kept (same ▸ rfl)
    exact ⟨fun used => (List.mem_erase_of_ne apart).2 used, id,
      pool.freeConnection_other leaves used apart⟩

/-- Nor do they touch a request. -/
theorem keepsRequests_step {event : UpstreamEvent} {next : UpstreamRun}
    (stepped : run.step event = some next) : KeepsRequests run.cycle next.cycle := by
  cases event with
  | getConnection upstream backend calls now started request =>
    obtain ⟨-, stepped⟩ := Option.ite_none_right_eq_some.1 stepped
    have kept := keepsRequests_upstreamGetConnection run.cycle upstream backend calls now started
    split at stepped
    · rename_i cycle got
      cases stepped
      rw [got] at kept
      exact kept
    · rename_i cycle connection got
      cases stepped
      rw [got] at kept
      cases request with
      | none => exact kept
      | some request => exact kept.trans (keepsRequests_bindRequest cycle connection request)
  | freeConnection connection retCode timestamp =>
    obtain ⟨-, stepped⟩ := Option.ite_none_right_eq_some.1 stepped
    cases stepped
    exact keepsRequests_freeUpstreamConnection _ _ _ _
  | getOther calls now ip port listen =>
    obtain ⟨-, stepped⟩ := Option.ite_none_right_eq_some.1 stepped
    cases stepped
    exact keepsRequests_getConnectionIp _ _ _ _ _ _
  | freeOther connection =>
    obtain ⟨-, stepped⟩ := Option.ite_none_right_eq_some.1 stepped
    cases stepped
    exact keepsRequests_freeConnection _ _

end

end CoCycle

end CoServer
