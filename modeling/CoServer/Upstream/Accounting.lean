import CoServer.Upstream.Upstream

/-! # The connections of an upstream are accounted for

Whoever got a connection of an upstream holds it until it is given back; then
it is idle in a reuse list, or closed.  Other users of the pool take part in
every run. -/

namespace CoServer

namespace CoCycle

/-! ## Runs -/

/-- The cycle, the connections the pool handed out, those of them that an upstream
    handed on, and for how many requests each was handed on since it was made. -/
structure UpstreamRun where
  cycle : CoCycle
  inUse : List Nat
  held : List Nat
  requests : Nat → Nat

inductive UpstreamEvent where
  /-- `get_connection`, for a request unless its protocol could not be created -/
  | getConnection (upstream : Nat) (backend : Option Nat) (calls : OpenCalls) (now started : Nat)
      (request : Option Nat)
  | freeConnection (connection : Nat) (retCode : Int) (timestamp : Nat)
  /-- another user of the pool asks for a connection -/
  | getOther (calls : OpenCalls) (now : Nat) (ip : Bytes) (port : Nat) (listen : Bool)
  | freeOther (connection : Nat)

namespace UpstreamRun

/-- The connection waits in a reuse list. -/
def Idle (self : UpstreamRun) (connection : Nat) : Prop :=
  connection ∈ self.inUse ∧ connection ∉ self.held ∧
    (self.cycle.objects connection).upstream.isSome

instance (self : UpstreamRun) (connection : Nat) : Decidable (self.Idle connection) :=
  inferInstanceAs (Decidable (_ ∧ _ ∧ _))

/-- The connection is handed on; a new one starts its life. -/
def take (self : UpstreamRun) (connection : Nat) : UpstreamRun :=
  { self with
    inUse := self.inUse.insert connection
    held := connection :: self.held
    requests := if connection ∈ self.inUse then self.requests
      else Function.update self.requests connection 0 }

def bind (self : UpstreamRun) (connection request : Nat) : UpstreamRun :=
  { self with
    cycle := self.cycle.bindRequest connection request
    requests := Function.update self.requests connection (self.requests connection + 1) }

def handOut (self : UpstreamRun) (connection : Nat) : Option Nat → UpstreamRun
  | none => self.take connection
  | some request => (self.take connection).bind connection request

def step (self : UpstreamRun) : UpstreamEvent → Option UpstreamRun
  | .getConnection upstream backend calls now started request =>
    if (∀ index ∈ backend, index < (self.cycle.upstreams upstream).backends.length) ∧
        (calls.socket = -1 ∨ Unopened self.cycle.kernel calls.socket) then
      match self.cycle.upstreamGetConnection upstream backend calls now started with
      | (cycle, none) => some { self with cycle }
      | (cycle, some connection) => some ({ self with cycle }.handOut connection request)
    else none
  | .freeConnection connection retCode timestamp =>
    if connection ∈ self.held ∨ retCode = coException ∧ self.Idle connection then
      let cycle := self.cycle.freeUpstreamConnection connection retCode timestamp
      some { self with
        cycle
        inUse := if connection ∈ cycle.connectionPool.freeConnections then
          self.inUse.erase connection else self.inUse
        held := self.held.erase connection }
    else none
  | .getOther calls now ip port listen =>
    if calls.socket = -1 ∨ Unopened self.cycle.kernel calls.socket then
      let outcome := self.cycle.getConnectionIp calls now ip port listen
      some { self with cycle := outcome.1, inUse := outcome.2.toList ++ self.inUse }
    else none
  | .freeOther connection =>
    if connection ∈ self.inUse ∧ (self.cycle.objects connection).upstream = none then
      some { self with
        cycle := self.cycle.freeConnection connection
        inUse := self.inUse.erase connection }
    else none

end UpstreamRun

/-! ## The invariant -/

/-- The connection belongs to the upstream. -/
def owned (self : CoCycle) (upstream connection : Nat) : Bool :=
  (self.objects connection).upstream == some upstream

/-- The serverkey of the connection's own backend. -/
def Keyed (self : CoCycle) (upstream connection : Nat) (serverkey : Bytes) : Prop :=
  ∃ backend < (self.upstreams upstream).backends.length,
    (self.objects connection).backend = some backend ∧
    ((self.upstreams upstream).server backend).serverkey = serverkey

/-- What holds of one connection, wherever it is. -/
structure Accounted (conf : Nat → CoConfUpstreamLimits) (run : UpstreamRun) (connection : Nat) :
    Prop where
  held : connection ∈ run.held → connection ∈ run.inUse ∧ ∃ upstream serverkey,
    (run.cycle.objects connection).upstream = some upstream ∧
    run.cycle.Keyed upstream connection serverkey
  idle : connection ∈ run.inUse → connection ∉ run.held → ∀ upstream,
    (run.cycle.objects connection).upstream = some upstream → ∃ serverkey,
      connection ∈ (run.cycle.upstreams upstream).reuseConnections serverkey
  reuse : ∀ upstream serverkey,
    connection ∈ (run.cycle.upstreams upstream).reuseConnections serverkey →
    connection ∈ run.inUse ∧ connection ∉ run.held ∧
    (run.cycle.objects connection).upstream = some upstream ∧
    run.cycle.Keyed upstream connection serverkey
  requests : connection ∈ run.inUse → ∀ upstream,
    (run.cycle.objects connection).upstream = some upstream →
    0 < (conf upstream).connectionMaxRequest → (conf upstream).connectionMaxRequest ≤ 2147483647 →
      run.requests connection = (run.cycle.objects connection).requestCount ∧
      (run.cycle.objects connection).requestCount ≤ (conf upstream).connectionMaxRequest ∧
      (connection ∉ run.held →
        (run.cycle.objects connection).requestCount < (conf upstream).connectionMaxRequest)

structure UpstreamInv (conf : Nat → CoConfUpstreamLimits) (run : UpstreamRun) : Prop where
  configured : ∀ upstream, (run.cycle.upstreams upstream).confUpstream = conf upstream
  pool : ∃ pairs, PoolInv run.cycle pairs run.inUse
  accounted : ∀ connection, Accounted conf run connection
  heldNodup : run.held.Nodup
  reuseNodup : ∀ upstream serverkey,
    ((run.cycle.upstreams upstream).reuseConnections serverkey).Nodup
  counted : ∀ upstream, (run.cycle.upstreams upstream).curConnectionSize =
    run.inUse.countP (run.cycle.owned upstream)
  bounded : ∀ upstream, 0 ≤ (conf upstream).maxConnections →
    (run.cycle.upstreams upstream).curConnectionSize ≤ (conf upstream).maxConnections

/-! ## What a step does not touch -/

/-- Backends fail and recover; the servers behind them stay. -/
structure SameServers (a b : CoUpstream) : Prop where
  confUpstream : b.confUpstream = a.confUpstream
  length : b.backends.length = a.backends.length
  server : ∀ backend, b.server backend = a.server backend

theorem SameServers.refl (a : CoUpstream) : SameServers a a := ⟨rfl, rfl, fun _ => rfl⟩

theorem SameServers.trans {a b c : CoUpstream} (first : SameServers a b) (second : SameServers b c) :
    SameServers a c :=
  ⟨second.confUpstream.trans first.confUpstream, second.length.trans first.length,
    fun backend => (second.server backend).trans (first.server backend)⟩

theorem sameServers_setReuse (serverkey : Bytes) (connections : List Nat) (a : CoUpstream) :
    SameServers a (a.setReuse serverkey connections) := ⟨rfl, rfl, fun _ => rfl⟩

theorem sameServers_resizeBy (change : Int) (a : CoUpstream) : SameServers a (a.resizeBy change) :=
  ⟨rfl, rfl, fun _ => rfl⟩

theorem sameServers_failBackend (backend timestamp : Nat) (a : CoUpstream) :
    SameServers a (a.failBackend backend timestamp) where
  confUpstream := rfl
  length := List.length_modify _ _ _
  server other := by
    unfold CoUpstream.server CoUpstream.failBackend
    dsimp only
    rw [List.getElem?_modify]
    cases found : a.backends[other]? with
    | none => rfl
    | some failed =>
      by_cases same : backend = other
      · simp [same, CoBackendWRR.commFailed_server]
      · simp [same]

/-- The step concerns other connections. -/
structure Untouched (before after : UpstreamRun) (connection : Nat) : Prop where
  owner : connection ∈ before.inUse →
    SameOwner (before.cycle.objects connection) (after.cycle.objects connection)
  inUse : connection ∈ after.inUse ↔ connection ∈ before.inUse
  held : connection ∈ after.held ↔ connection ∈ before.held
  reuse : ∀ upstream serverkey,
    connection ∈ (after.cycle.upstreams upstream).reuseConnections serverkey ↔
      connection ∈ (before.cycle.upstreams upstream).reuseConnections serverkey
  requests : after.requests connection = before.requests connection

theorem Keyed.keep {before after : CoCycle} {upstream connection : Nat} {serverkey : Bytes}
    (keyed : before.Keyed upstream connection serverkey)
    (owner : SameOwner (before.objects connection) (after.objects connection))
    (servers : SameServers (before.upstreams upstream) (after.upstreams upstream)) :
    after.Keyed upstream connection serverkey := by
  obtain ⟨backend, below, chosen, same⟩ := keyed
  exact ⟨backend, servers.length ▸ below, owner.backend.trans chosen,
    (congrArg _ (servers.server backend)).trans same⟩

theorem Accounted.keep {conf : Nat → CoConfUpstreamLimits} {before after : UpstreamRun}
    {connection : Nat} (accounted : Accounted conf before connection)
    (untouched : Untouched before after connection)
    (servers : ∀ upstream,
      SameServers (before.cycle.upstreams upstream) (after.cycle.upstreams upstream)) :
    Accounted conf after connection where
  held mem := by
    obtain ⟨used, upstream, serverkey, owner, keyed⟩ := accounted.held (untouched.held.1 mem)
    have same := untouched.owner used
    exact ⟨untouched.inUse.2 used, upstream, serverkey, same.upstream.trans owner,
      keyed.keep same (servers upstream)⟩
  idle used notHeld upstream owner := by
    have used := untouched.inUse.1 used
    rw [(untouched.owner used).upstream] at owner
    obtain ⟨serverkey, mem⟩ := accounted.idle used (fun mem => notHeld (untouched.held.2 mem))
      upstream owner
    exact ⟨serverkey, (untouched.reuse upstream serverkey).2 mem⟩
  reuse upstream serverkey mem := by
    obtain ⟨used, notHeld, owner, keyed⟩ :=
      accounted.reuse upstream serverkey ((untouched.reuse upstream serverkey).1 mem)
    have same := untouched.owner used
    exact ⟨untouched.inUse.2 used, fun mem => notHeld (untouched.held.1 mem),
      same.upstream.trans owner, keyed.keep same (servers upstream)⟩
  requests used upstream owner positive small := by
    have used := untouched.inUse.1 used
    have same := untouched.owner used
    rw [same.upstream] at owner
    obtain ⟨counted, bounded, idle⟩ := accounted.requests used upstream owner positive small
    rw [same.requestCount, untouched.requests]
    exact ⟨counted, bounded, fun notHeld => idle fun mem => notHeld (untouched.held.2 mem)⟩

/-! ## The steps -/

section
variable {conf : Nat → CoConfUpstreamLimits} {run after : UpstreamRun} {connection upstream : Nat}

theorem UpstreamInv.usedNodup (inv : UpstreamInv conf run) : run.inUse.Nodup := by
  obtain ⟨pairs, pool⟩ := inv.pool
  exact (List.nodup_append.1 (pool.shared.nodup_iff.2 (nodup_mains pairs))).2.1

theorem countP_owned {before after : CoCycle} {inUse : List Nat} (upstream : Nat)
    (owners : ∀ other ∈ inUse, (after.objects other).upstream = (before.objects other).upstream) :
    inUse.countP (after.owned upstream) = inUse.countP (before.owned upstream) := by
  refine List.countP_congr fun other mem => ?_
  simp only [owned, owners other mem]

/-- Another user of the pool got a connection. -/
theorem UpstreamInv.handOther (inv : UpstreamInv conf run) {cycle : CoCycle} {result : Option Nat}
    (out : HandsOut run.cycle run.inUse cycle result) :
    UpstreamInv conf { run with cycle, inUse := result.toList ++ run.inUse } := by
  have old : ∀ other ∈ run.inUse, SameOwner (run.cycle.objects other) (cycle.objects other) := by
    intro other mem
    rw [out.used other mem]
    exact .refl _
  refine ⟨?_, out.inv, ?_, inv.heldNodup, ?_, ?_, ?_⟩
  · show ∀ upstream, (cycle.upstreams upstream).confUpstream = _
    rw [out.upstreams]
    exact inv.configured
  · intro other
    by_cases new : other ∈ result
    · obtain ⟨unused, unowned⟩ := out.new other new
      have noOwner : (cycle.objects other).upstream = none := unowned.upstream
      refine ⟨?_, ?_, ?_, ?_⟩
      · exact fun mem => absurd ((inv.accounted other).held mem).1 unused
      · exact fun _ _ _ owner => nomatch noOwner.symm.trans owner
      · show ∀ upstream serverkey, other ∈ (cycle.upstreams upstream).reuseConnections serverkey → _
        rw [out.upstreams]
        exact fun upstream serverkey mem =>
          absurd ((inv.accounted other).reuse upstream serverkey mem).1 unused
      · exact fun _ _ owner => nomatch noOwner.symm.trans owner
    · refine (inv.accounted other).keep ⟨old other, ?_, Iff.rfl, ?_, rfl⟩ ?_
      · show other ∈ result.toList ++ run.inUse ↔ _
        rw [List.mem_append, Option.mem_toList]
        exact or_iff_right new
      · show ∀ upstream serverkey, other ∈ (cycle.upstreams upstream).reuseConnections serverkey ↔ _
        rw [out.upstreams]
        exact fun _ _ => Iff.rfl
      · show ∀ upstream, SameServers _ (cycle.upstreams upstream)
        rw [out.upstreams]
        exact fun _ => .refl _
  · show ∀ upstream serverkey, ((cycle.upstreams upstream).reuseConnections serverkey).Nodup
    rw [out.upstreams]
    exact inv.reuseNodup
  · intro upstream
    show (cycle.upstreams upstream).curConnectionSize = _
    have none : result.toList.countP (cycle.owned upstream) = 0 := by
      refine List.countP_eq_zero.2 fun other mem => ?_
      simp [owned, (out.new other (by simpa using mem)).2.upstream]
    rw [out.upstreams, inv.counted, List.countP_append, none,
      countP_owned upstream fun other mem => (old other mem).upstream, Nat.zero_add]
  · show ∀ upstream, _ → (cycle.upstreams upstream).curConnectionSize ≤ _
    rw [out.upstreams]
    exact inv.bounded

/-- A connection goes back to the pool. -/
theorem UpstreamInv.leave (inv : UpstreamInv conf run) (used : connection ∈ run.inUse)
    (pool : ∃ pairs, PoolInv after.cycle pairs after.inUse)
    (inUse : after.inUse = run.inUse.erase connection)
    (held : after.held = run.held.erase connection) (requests : after.requests = run.requests)
    (owners : ∀ other ∈ run.inUse, other ≠ connection →
      SameOwner (run.cycle.objects other) (after.cycle.objects other))
    (servers : ∀ upstream,
      SameServers (run.cycle.upstreams upstream) (after.cycle.upstreams upstream))
    (reuse : ∀ upstream serverkey other,
      other ∈ (after.cycle.upstreams upstream).reuseConnections serverkey ↔
        other ∈ (run.cycle.upstreams upstream).reuseConnections serverkey ∧ other ≠ connection)
    (nodup : ∀ upstream serverkey,
      ((after.cycle.upstreams upstream).reuseConnections serverkey).Nodup)
    (size : ∀ upstream, (after.cycle.upstreams upstream).curConnectionSize =
      (run.cycle.upstreams upstream).curConnectionSize -
        if run.cycle.owned upstream connection then 1 else 0) :
    UpstreamInv conf after := by
  have notUsed : connection ∉ after.inUse := by
    rw [inUse]
    exact inv.usedNodup.not_mem_erase
  have notHeld : connection ∉ after.held := by
    rw [held]
    exact inv.heldNodup.not_mem_erase
  refine ⟨?_, pool, ?_, held ▸ inv.heldNodup.erase connection, nodup, ?_, ?_⟩
  · exact fun upstream => (servers upstream).confUpstream.trans (inv.configured upstream)
  · intro other
    by_cases same : other = connection
    · subst same
      exact ⟨fun mem => absurd mem notHeld, fun mem => absurd mem notUsed,
        fun upstream serverkey mem => absurd rfl ((reuse upstream serverkey other).1 mem).2,
        fun mem => absurd mem notUsed⟩
    · refine (inv.accounted other).keep ⟨fun mem => owners other mem same, ?_, ?_, ?_, ?_⟩ servers
      · rw [inUse, List.mem_erase_of_ne same]
      · rw [held, List.mem_erase_of_ne same]
      · exact fun upstream serverkey =>
          (reuse upstream serverkey other).trans (and_iff_left same)
      · rw [requests]
  · intro upstream
    have left := (List.perm_cons_erase used).countP_eq (run.cycle.owned upstream)
    have kept : after.inUse.countP (after.cycle.owned upstream) =
        (run.inUse.erase connection).countP (run.cycle.owned upstream) := by
      rw [inUse]
      refine countP_owned upstream fun other mem => ?_
      obtain ⟨apart, mem⟩ := inv.usedNodup.mem_erase_iff.1 mem
      exact (owners other mem apart).upstream
    rw [size, inv.counted, kept, left, List.countP_cons]
    split
    · omega
    · omega
  · intro upstream positive
    have before := inv.bounded upstream positive
    rw [size]
    split
    · omega
    · omega

/-- A connection that nobody held is handed on. -/
theorem UpstreamInv.taken (inv : UpstreamInv conf run) (used : connection ∈ run.inUse)
    (notHeld : connection ∉ run.held) (pool : ∃ pairs, PoolInv after.cycle pairs after.inUse)
    (inUse : after.inUse = run.inUse) (held : after.held = connection :: run.held)
    (requests : ∀ other, other ≠ connection → after.requests other = run.requests other)
    (owners : ∀ other ∈ run.inUse, other ≠ connection →
      SameOwner (run.cycle.objects other) (after.cycle.objects other))
    (owner : (after.cycle.objects connection).upstream = some upstream)
    (keyed : ∃ serverkey, after.cycle.Keyed upstream connection serverkey)
    (servers : ∀ upstream,
      SameServers (run.cycle.upstreams upstream) (after.cycle.upstreams upstream))
    (reuse : ∀ upstream serverkey other,
      other ∈ (after.cycle.upstreams upstream).reuseConnections serverkey ↔
        other ∈ (run.cycle.upstreams upstream).reuseConnections serverkey ∧ other ≠ connection)
    (nodup : ∀ upstream serverkey,
      ((after.cycle.upstreams upstream).reuseConnections serverkey).Nodup)
    (size : ∀ upstream, (after.cycle.upstreams upstream).curConnectionSize =
      after.inUse.countP (after.cycle.owned upstream))
    (bounded : ∀ upstream, 0 ≤ (conf upstream).maxConnections →
      (after.cycle.upstreams upstream).curConnectionSize ≤ (conf upstream).maxConnections)
    (life : 0 < (conf upstream).connectionMaxRequest →
      (conf upstream).connectionMaxRequest ≤ 2147483647 →
      after.requests connection = (after.cycle.objects connection).requestCount ∧
      (after.cycle.objects connection).requestCount < (conf upstream).connectionMaxRequest) :
    UpstreamInv conf after := by
  refine ⟨?_, pool, ?_, held ▸ List.nodup_cons.2 ⟨notHeld, inv.heldNodup⟩, nodup, size, bounded⟩
  · exact fun upstream => (servers upstream).confUpstream.trans (inv.configured upstream)
  · intro other
    by_cases same : other = connection
    · subst same
      have nowHeld : other ∈ after.held := held ▸ List.mem_cons_self
      refine ⟨?_, ?_, ?_, ?_⟩
      · obtain ⟨serverkey, keyed⟩ := keyed
        exact fun _ => ⟨inUse ▸ used, upstream, serverkey, owner, keyed⟩
      · exact fun _ idle => absurd nowHeld idle
      · exact fun upstream serverkey mem => absurd rfl ((reuse upstream serverkey other).1 mem).2
      · intro _ another owned positive small
        cases owner.symm.trans owned
        obtain ⟨counted, below⟩ := life positive small
        exact ⟨counted, below.le, fun _ => below⟩
    · refine (inv.accounted other).keep ⟨fun mem => owners other mem same, ?_, ?_, ?_, ?_⟩ servers
      · rw [inUse]
      · rw [held, List.mem_cons, or_iff_right same]
      · exact fun upstream serverkey =>
          (reuse upstream serverkey other).trans (and_iff_left same)
      · exact requests other same

/-- One more request fits in the life of the connection. -/
def HasLife (conf : Nat → CoConfUpstreamLimits) (run : UpstreamRun) (connection : Nat) : Prop :=
  ∀ upstream, (run.cycle.objects connection).upstream = some upstream →
    0 < (conf upstream).connectionMaxRequest → (conf upstream).connectionMaxRequest ≤ 2147483647 →
    (run.cycle.objects connection).requestCount < (conf upstream).connectionMaxRequest

/-- The request of a connection that was just handed on. -/
theorem UpstreamInv.bind (inv : UpstreamInv conf run) (held : connection ∈ run.held)
    (life : HasLife conf run connection) (request : Nat) : UpstreamInv conf (run.bind connection request) := by
  obtain ⟨pairs, pool⟩ := inv.pool
  obtain ⟨used, -⟩ := (inv.accounted connection).held held
  have others : ∀ other, other ≠ connection →
      (run.bind connection request).cycle.objects other = run.cycle.objects other :=
    fun other apart => bindRequest_other run.cycle connection request apart
  have bound := bindRequest_same run.cycle connection request
  have otherRequests : ∀ other, other ≠ connection →
      (run.bind connection request).requests other = run.requests other :=
    fun other apart => Function.update_of_ne apart _ _
  have counts : ∀ upstream, run.inUse.countP ((run.cycle.bindRequest connection request).owned upstream) =
      run.inUse.countP (run.cycle.owned upstream) := by
    intro upstream
    refine countP_owned upstream fun other _ => ?_
    by_cases same : other = connection
    · subst same
      rw [bound]
    · rw [bindRequest_other run.cycle connection request same]
  refine ⟨inv.configured, ⟨pairs, pool.keep (keepsPool_bindRequest _ connection request used)⟩, ?_,
    inv.heldNodup, inv.reuseNodup, ?_, inv.bounded⟩
  · intro other
    by_cases same : other = connection
    · subst same
      obtain ⟨-, upstream, serverkey, owner, keyed⟩ := (inv.accounted other).held held
      have owner' : ((run.bind other request).cycle.objects other).upstream = some upstream := by
        show ((run.cycle.bindRequest other request).objects other).upstream = some upstream
        rw [bound]
        exact owner
      refine ⟨fun _ => ⟨used, upstream, serverkey, owner', ?_⟩, fun _ idle => absurd held idle, ?_, ?_⟩
      · obtain ⟨backend, below, chosen, same⟩ := keyed
        refine ⟨backend, below, ?_, same⟩
        show ((run.cycle.bindRequest other request).objects other).backend = some backend
        rw [bound]
        exact chosen
      · exact fun upstream serverkey mem =>
          absurd held ((inv.accounted other).reuse upstream serverkey mem).2.1
      · intro _ another owned positive small
        cases owner'.symm.trans owned
        have below := life upstream owner positive small
        have counted := ((inv.accounted other).requests used upstream owner positive small).1
        have stepped : ((run.bind other request).cycle.objects other).requestCount =
            (run.cycle.objects other).requestCount + 1 := by
          show ((run.cycle.bindRequest other request).objects other).requestCount = _
          rw [bound]
          exact uint32_of_lt (by omega)
        have counting : (run.bind other request).requests other = run.requests other + 1 :=
          Function.update_self _ _ _
        rw [stepped, counting, counted]
        refine ⟨rfl, ?_, fun idle => absurd held idle⟩
        push_cast
        omega
    · refine (inv.accounted other).keep ⟨fun _ => ?_, Iff.rfl, Iff.rfl, fun _ _ => Iff.rfl,
        otherRequests other same⟩ fun _ => .refl _
      rw [others other same]
      exact .refl _
  · exact fun upstream => (inv.counted upstream).trans (by rw [← counts]; rfl)

/-- The connection is in no list but the one of its own upstream. -/
theorem UpstreamInv.not_reuse_other (inv : UpstreamInv conf run)
    (owner : (run.cycle.objects connection).upstream = some upstream) {other : Nat}
    (apart : other ≠ upstream) (serverkey : Bytes) :
    connection ∉ (run.cycle.upstreams other).reuseConnections serverkey := by
  intro mem
  obtain ⟨-, -, owned, -⟩ := (inv.accounted connection).reuse other serverkey mem
  cases owner.symm.trans owned
  exact apart rfl

/-- The three ways to close: `f` is what happens to the upstream before. -/
theorem UpstreamInv.close (inv : UpstreamInv conf run) (used : connection ∈ run.inUse)
    (owner : (run.cycle.objects connection).upstream = some upstream)
    (f : CoUpstream → CoUpstream)
    (servers : SameServers (run.cycle.upstreams upstream) (f (run.cycle.upstreams upstream)))
    (size : (f (run.cycle.upstreams upstream)).curConnectionSize =
      (run.cycle.upstreams upstream).curConnectionSize)
    (reuse : ∀ serverkey other, other ∈ (f (run.cycle.upstreams upstream)).reuseConnections serverkey ↔
      other ∈ (run.cycle.upstreams upstream).reuseConnections serverkey ∧ other ≠ connection)
    (nodup : ∀ serverkey, ((f (run.cycle.upstreams upstream)).reuseConnections serverkey).Nodup) :
    connection ∈ ((run.cycle.modifyUpstream upstream f).closeUpstream upstream
      connection).connectionPool.freeConnections ∧
    UpstreamInv conf { run with
      cycle := (run.cycle.modifyUpstream upstream f).closeUpstream upstream connection
      inUse := run.inUse.erase connection
      held := run.held.erase connection } := by
  obtain ⟨pairs, pool⟩ := inv.pool
  obtain ⟨after, freed, upstreams, owners⟩ :=
    (pool.keep (keepsPool_modifyUpstream run.inUse run.cycle upstream f)).closeUpstream used upstream
  have own : ((run.cycle.modifyUpstream upstream f).closeUpstream upstream
      connection).upstreams upstream = (f (run.cycle.upstreams upstream)).resizeBy (-1) := by
    rw [upstreams, Function.update_self, modifyUpstream_same]
  have others : ∀ other, other ≠ upstream → ((run.cycle.modifyUpstream upstream f).closeUpstream
      upstream connection).upstreams other = run.cycle.upstreams other := by
    intro other apart
    rw [upstreams, Function.update_of_ne apart, modifyUpstream_other _ _ _ _ apart]
  refine ⟨freed, inv.leave used ⟨pairs, after⟩ rfl rfl rfl owners ?_ ?_ ?_ ?_⟩
  · intro other
    dsimp only
    by_cases same : other = upstream
    · subst same
      rw [own]
      exact servers.trans (sameServers_resizeBy _ _)
    · rw [others other same]
      exact .refl _
  · intro other serverkey next
    dsimp only
    by_cases same : other = upstream
    · subst same
      rw [own]
      exact reuse serverkey next
    · rw [others other same]
      have absent := inv.not_reuse_other owner same serverkey
      exact ⟨fun mem => ⟨mem, fun same => absent (same ▸ mem)⟩, And.left⟩
  · intro other serverkey
    dsimp only
    by_cases same : other = upstream
    · subst same
      rw [own]
      exact nodup serverkey
    · rw [others other same]
      exact inv.reuseNodup other serverkey
  · intro other
    dsimp only
    by_cases same : other = upstream
    · subst same
      have owned : run.cycle.owned other connection = true := by simp [CoCycle.owned, owner]
      rw [own, if_pos owned, ← size]
      rfl
    · have notOwned : ¬ run.cycle.owned other connection = true := by
        simp [CoCycle.owned, owner, Ne.symm same]
      rw [others other same, if_neg notOwned, Int.sub_zero]

/-- A connection that is given back in order. -/
theorem UpstreamInv.kept (inv : UpstreamInv conf run) (held : connection ∈ run.held)
    (owner : (run.cycle.objects connection).upstream = some upstream) {serverkey : Bytes}
    (keyed : run.cycle.Keyed upstream connection serverkey)
    (life : 0 < (conf upstream).connectionMaxRequest →
      (conf upstream).connectionMaxRequest ≤ 2147483647 →
      (run.cycle.objects connection).requestCount < (conf upstream).connectionMaxRequest) :
    connection ∉ (run.cycle.keepUpstream upstream connection
      serverkey).connectionPool.freeConnections ∧
    UpstreamInv conf { run with
      cycle := run.cycle.keepUpstream upstream connection serverkey
      held := run.held.erase connection } := by
  obtain ⟨pairs, pool⟩ := inv.pool
  obtain ⟨used, -⟩ := (inv.accounted connection).held held
  obtain ⟨after, upstreams, owners⟩ := pool.keepUpstream used upstream serverkey
  have own : (run.cycle.keepUpstream upstream connection serverkey).upstreams upstream =
      (run.cycle.upstreams upstream).setReuse serverkey
        (connection :: (run.cycle.upstreams upstream).reuseConnections serverkey) := by
    rw [upstreams, Function.update_self]
  have others : ∀ other, other ≠ upstream →
      (run.cycle.keepUpstream upstream connection serverkey).upstreams other =
        run.cycle.upstreams other := by
    intro other apart
    rw [upstreams, Function.update_of_ne apart]
  have servers : ∀ other, SameServers (run.cycle.upstreams other)
      ((run.cycle.keepUpstream upstream connection serverkey).upstreams other) := by
    intro other
    by_cases same : other = upstream
    · subst same
      rw [own]
      exact sameServers_setReuse _ _ _
    · rw [others other same]
      exact .refl _
  -- only the connection itself enters a list, and only the list of its serverkey
  have entered : ∀ other key next,
      next ∈ ((run.cycle.keepUpstream upstream connection serverkey).upstreams
        other).reuseConnections key ↔ next ∈ (run.cycle.upstreams other).reuseConnections key ∨
          other = upstream ∧ key = serverkey ∧ next = connection := by
    intro other key next
    by_cases same : other = upstream
    · subst same
      rw [own]
      by_cases sameKey : key = serverkey
      · subst sameKey
        simp [CoUpstream.setReuse, or_comm]
      · simp [CoUpstream.setReuse, sameKey]
    · rw [others other same]
      simp [same]
  have size : ∀ other, ((run.cycle.keepUpstream upstream connection serverkey).upstreams
      other).curConnectionSize = (run.cycle.upstreams other).curConnectionSize := by
    intro other
    by_cases same : other = upstream
    · subst same
      rw [own]
      rfl
    · rw [others other same]
  have absent : ∀ other key, connection ∉ (run.cycle.upstreams other).reuseConnections key :=
    fun other key mem => ((inv.accounted connection).reuse other key mem).2.1 held
  refine ⟨fun free => after.free_not_used free used, ?_, ⟨pairs, after⟩, ?_,
    inv.heldNodup.erase connection, ?_, ?_, ?_⟩
  · exact fun other => (servers other).confUpstream.trans (inv.configured other)
  · intro other
    by_cases same : other = connection
    · subst same
      -- the connection changes from held to idle
      have notHeld := inv.heldNodup.not_mem_erase (a := other)
      have owner' := (owners other).upstream.trans owner
      refine ⟨fun mem => absurd mem notHeld, ?_, ?_, ?_⟩
      · intro _ _ another owned
        cases owner'.symm.trans owned
        exact ⟨serverkey, (entered _ _ _).2 (.inr ⟨rfl, rfl, rfl⟩)⟩
      · intro another key mem
        obtain ⟨rfl, rfl, -⟩ := ((entered another key other).1 mem).resolve_left (absent another key)
        exact ⟨used, notHeld, owner', keyed.keep (owners other) (servers another)⟩
      · intro _ another owned positive small
        cases owner'.symm.trans owned
        obtain ⟨counted, bounded, -⟩ := (inv.accounted other).requests used upstream owner positive small
        dsimp only
        rw [(owners other).requestCount]
        exact ⟨counted, bounded, fun _ => life positive small⟩
    · refine (inv.accounted other).keep ⟨fun _ => owners other, Iff.rfl, ?_, ?_, rfl⟩ servers
      · exact List.mem_erase_of_ne same
      · intro another key
        refine (entered another key other).trans (or_iff_left ?_)
        exact fun new => same new.2.2
  · intro other key
    dsimp only
    by_cases same : other = upstream
    · subst same
      rw [own]
      by_cases sameKey : key = serverkey
      · subst sameKey
        simpa [CoUpstream.setReuse] using ⟨absent other key, inv.reuseNodup other key⟩
      · simpa [CoUpstream.setReuse, sameKey] using inv.reuseNodup other key
    · rw [others other same]
      exact inv.reuseNodup other key
  · exact fun other => (size other).trans ((inv.counted other).trans
      (congrArg Nat.cast (countP_owned other fun next _ => (owners next).upstream).symm))
  · exact fun other positive => (size other).trans_le (inv.bounded other positive)

/-! ## `free_connection` -/

theorem Keyed.unique {cycle : CoCycle} {first second : Bytes}
    (one : cycle.Keyed upstream connection first) (two : cycle.Keyed upstream connection second) :
    first = second := by
  obtain ⟨backend, -, chosen, rfl⟩ := one
  obtain ⟨other, -, chosenToo, rfl⟩ := two
  cases chosen.symm.trans chosenToo
  rfl

/-- Connections in use are told apart by their ids. -/
theorem PoolInv.connId_inj {cycle : CoCycle} {pairs : Nat} {inUse : List Nat}
    (inv : PoolInv cycle pairs inUse) {a b : Nat} (usedA : a ∈ inUse) (usedB : b ∈ inUse)
    (same : (cycle.objects a).connId = (cycle.objects b).connId) : a = b := by
  obtain ⟨j, belowJ, rfl⟩ := inv.used_main usedA
  obtain ⟨k, belowK, rfl⟩ := inv.used_main usedB
  rw [(inv.layout.main j belowJ).connId, (inv.layout.main k belowK).connId] at same
  have same : 2 * j + 1 = 2 * k + 1 := same
  omega

/-- The reuse list that `free_connection` searches finds the connection if it waits
    there. -/
theorem UpstreamInv.sameId (inv : UpstreamInv conf run) (used : connection ∈ run.inUse)
    {serverkey : Bytes} {other : Nat}
    (mem : other ∈ (run.cycle.upstreams upstream).reuseConnections serverkey) :
    ((run.cycle.objects other).connId == (run.cycle.objects connection).connId) =
      (other == connection) := by
  obtain ⟨pairs, pool⟩ := inv.pool
  obtain ⟨usedOther, -⟩ := (inv.accounted other).reuse upstream serverkey mem
  by_cases same : other = connection
  · simp [same]
  · have differ : (run.cycle.objects other).connId ≠ (run.cycle.objects connection).connId :=
      fun ids => same (pool.connId_inj usedOther used ids)
    simp [same, differ]

theorem UpstreamInv.waits_iff (inv : UpstreamInv conf run) (used : connection ∈ run.inUse)
    (serverkey : Bytes) (retCode : Int) :
    run.cycle.waitsForReuse ((run.cycle.upstreams upstream).reuseConnections serverkey) connection
      retCode = true ↔ retCode = coException ∧
        connection ∈ (run.cycle.upstreams upstream).reuseConnections serverkey := by
  unfold waitsForReuse
  rw [Bool.and_eq_true, beq_iff_eq, List.any_eq_true]
  refine and_congr_right fun _ => ⟨?_, fun mem => ⟨connection, mem, beq_self_eq_true _⟩⟩
  rintro ⟨other, mem, same⟩
  rw [inv.sameId used mem, beq_iff_eq] at same
  exact same ▸ mem

theorem requests_left {limits : CoConfUpstreamLimits} {object : CoConnection}
    (small : limits.connectionMaxRequest ≤ 2147483647)
    (bounded : object.requestCount ≤ limits.connectionMaxRequest)
    (positive : 0 < limits.connectionMaxRequest) (unused : requestsUsed limits object = false) :
    object.requestCount < limits.connectionMaxRequest := by
  have exact32 : int32 object.requestCount = object.requestCount :=
    int32_of_bounds (by omega) (by omega)
  have limited : limits.connectionMaxRequest ≠ 0 := by omega
  simpa [requestsUsed, limited, exact32] using unused

/-- Closing a connection that is in no list. -/
theorem UpstreamInv.closeHeld (inv : UpstreamInv conf run) (held : connection ∈ run.held)
    (owner : (run.cycle.objects connection).upstream = some upstream)
    (f : CoUpstream → CoUpstream)
    (servers : SameServers (run.cycle.upstreams upstream) (f (run.cycle.upstreams upstream)))
    (size : (f (run.cycle.upstreams upstream)).curConnectionSize =
      (run.cycle.upstreams upstream).curConnectionSize)
    (reuse : (f (run.cycle.upstreams upstream)).reuseConnections =
      (run.cycle.upstreams upstream).reuseConnections) :
    connection ∈ ((run.cycle.modifyUpstream upstream f).closeUpstream upstream
      connection).connectionPool.freeConnections ∧
    UpstreamInv conf { run with
      cycle := (run.cycle.modifyUpstream upstream f).closeUpstream upstream connection
      inUse := run.inUse.erase connection
      held := run.held.erase connection } := by
  refine inv.close ((inv.accounted connection).held held).1 owner f servers size ?_ ?_
  · intro serverkey other
    rw [reuse]
    refine ⟨fun mem => ⟨mem, ?_⟩, And.left⟩
    rintro rfl
    exact ((inv.accounted other).reuse upstream serverkey mem).2.1 held
  · intro serverkey
    rw [reuse]
    exact inv.reuseNodup upstream serverkey

/-- Closing a connection that waits in its list. -/
theorem UpstreamInv.closeIdle (inv : UpstreamInv conf run) (used : connection ∈ run.inUse)
    (owner : (run.cycle.objects connection).upstream = some upstream) {serverkey : Bytes}
    (mem : connection ∈ (run.cycle.upstreams upstream).reuseConnections serverkey) :
    let cycle := (run.cycle.modifyUpstream upstream (.setReuse serverkey (eraseLast
      (fun other => (run.cycle.objects other).connId == (run.cycle.objects connection).connId)
      ((run.cycle.upstreams upstream).reuseConnections serverkey)))).closeUpstream upstream connection
    connection ∈ cycle.connectionPool.freeConnections ∧ UpstreamInv conf { run with
      cycle
      inUse := run.inUse.erase connection
      held := run.held.erase connection } := by
  have nodup := inv.reuseNodup upstream serverkey
  refine inv.close used owner (.setReuse _ _) (sameServers_setReuse _ _ _) rfl ?_ ?_
  · intro key other
    by_cases same : key = serverkey
    · subst same
      simpa [CoUpstream.setReuse] using
        mem_eraseLast nodup (fun _ mem => inv.sameId used mem) other
    · simp only [CoUpstream.setReuse, Function.update_of_ne same]
      refine ⟨fun other_mem => ⟨other_mem, ?_⟩, And.left⟩
      rintro rfl
      exact same (((inv.accounted other).reuse upstream key other_mem).2.2.2.unique
        ((inv.accounted other).reuse upstream serverkey mem).2.2.2)
  · intro key
    by_cases same : key = serverkey
    · subst same
      simpa [CoUpstream.setReuse] using nodup_eraseLast nodup
    · simpa [CoUpstream.setReuse, same] using inv.reuseNodup upstream key

theorem UpstreamInv.freeConnection (inv : UpstreamInv conf run) {retCode : Int} {timestamp : Nat}
    {next : UpstreamRun} (stepped : run.step (.freeConnection connection retCode timestamp) =
      some next) : UpstreamInv conf next := by
  obtain ⟨allowed, stepped⟩ := Option.ite_none_right_eq_some.1 stepped
  cases stepped
  have known : connection ∈ run.inUse ∧ ∃ upstream serverkey,
      (run.cycle.objects connection).upstream = some upstream ∧
      run.cycle.Keyed upstream connection serverkey ∧ (connection ∈ run.held ∨
        retCode = coException ∧
          connection ∈ (run.cycle.upstreams upstream).reuseConnections serverkey) := by
    rcases allowed with held | ⟨exception, used, notHeld, owner⟩
    · obtain ⟨used, upstream, serverkey, owner, keyed⟩ := (inv.accounted connection).held held
      exact ⟨used, upstream, serverkey, owner, keyed, .inl held⟩
    · obtain ⟨upstream, owner⟩ := Option.isSome_iff_exists.1 owner
      obtain ⟨serverkey, mem⟩ := (inv.accounted connection).idle used notHeld upstream owner
      exact ⟨used, upstream, serverkey, owner,
        ((inv.accounted connection).reuse upstream serverkey mem).2.2.2, .inr ⟨exception, mem⟩⟩
  obtain ⟨used, upstream, serverkey, owner, keyed, where_⟩ := known
  have unique := keyed
  obtain ⟨backend, below, chosen, rfl⟩ := keyed
  unfold freeUpstreamConnection
  rw [owner, chosen]
  dsimp only
  unfold upstreamFreeConnection
  dsimp only
  split
  · rename_i waits
    obtain ⟨rfl, mem⟩ := (inv.waits_iff used _ retCode).1 waits
    obtain ⟨freed, after⟩ := inv.closeIdle used owner mem
    rw [if_pos freed]
    exact after
  · rename_i notWaiting
    have held : connection ∈ run.held := by
      refine where_.resolve_right fun idle => notWaiting ?_
      exact (inv.waits_iff used _ retCode).2 idle
    split
    · obtain ⟨freed, after⟩ := inv.closeHeld held owner (.failBackend backend timestamp)
        (sameServers_failBackend _ _ _) rfl rfl
      rw [if_pos freed]
      exact after
    · split
      · obtain ⟨freed, after⟩ := inv.closeHeld held owner id (.refl _) rfl rfl
        rw [modifyUpstream_id] at freed after
        rw [if_pos freed]
        exact after
      · rename_i stays
        have unused : requestsUsed (conf upstream) (run.cycle.objects connection) = false := by
          rw [← inv.configured]
          exact Bool.eq_false_iff.2 fun usedUp => stays (by rw [usedUp, Bool.true_or])
        obtain ⟨notFreed, after⟩ := inv.kept held owner unique fun positive small =>
          requests_left small ((inv.accounted connection).requests used upstream owner positive
            small).2.1 positive unused
        rw [if_neg notFreed]
        exact after

/-! ## `get_connection` -/

/-- The front of a reuse list is handed on. -/
theorem UpstreamInv.takeReuse (inv : UpstreamInv conf run) {backend : Nat} {rest : List Nat}
    (below : backend < (run.cycle.upstreams upstream).backends.length)
    (front : (run.cycle.upstreams upstream).reuseConnections
      ((run.cycle.upstreams upstream).server backend).serverkey = connection :: rest) :
    let cycle := (run.cycle.modifyUpstream upstream (.setReuse
      ((run.cycle.upstreams upstream).server backend).serverkey rest)).assignUpstream connection
        upstream backend
    UpstreamInv conf ({ run with cycle }.take connection) ∧
      HasLife conf ({ run with cycle }.take connection) connection := by
  intro cycle
  have mem : connection ∈ (run.cycle.upstreams upstream).reuseConnections
      ((run.cycle.upstreams upstream).server backend).serverkey := by
    rw [front]
    exact List.mem_cons_self
  have nodup := inv.reuseNodup upstream ((run.cycle.upstreams upstream).server backend).serverkey
  rw [front, List.nodup_cons] at nodup
  obtain ⟨used, notHeld, owner, keyed⟩ := (inv.accounted connection).reuse upstream _ mem
  obtain ⟨pairs, pool⟩ := inv.pool
  have assigned : cycle.objects connection =
      { run.cycle.objects connection with upstream := some upstream, backend := some backend } :=
    assignUpstream_same _ _ _ _
  have others : ∀ other, other ≠ connection → cycle.objects other = run.cycle.objects other :=
    fun other apart => assignUpstream_other _ _ _ _ apart
  have own : cycle.upstreams upstream = (run.cycle.upstreams upstream).setReuse _ rest :=
    modifyUpstream_same _ _ _
  have otherUpstreams : ∀ other, other ≠ upstream →
      cycle.upstreams other = run.cycle.upstreams other :=
    fun other apart => modifyUpstream_other _ _ _ _ apart
  have owner' : (cycle.objects connection).upstream = some upstream := by rw [assigned]
  have life : 0 < (conf upstream).connectionMaxRequest →
      (conf upstream).connectionMaxRequest ≤ 2147483647 →
      run.requests connection = (cycle.objects connection).requestCount ∧
      (cycle.objects connection).requestCount < (conf upstream).connectionMaxRequest := by
    intro positive small
    obtain ⟨counted, -, idle⟩ :=
      (inv.accounted connection).requests used upstream owner positive small
    rw [assigned]
    exact ⟨counted, idle notHeld⟩
  have servers : ∀ other, SameServers (run.cycle.upstreams other) (cycle.upstreams other) :=
    modifyUpstream_rel _ _ _ SameServers.refl (sameServers_setReuse _ _ _)
  have size : ∀ other, (cycle.upstreams other).curConnectionSize =
      (run.cycle.upstreams other).curConnectionSize :=
    modifyUpstream_rel _ _ _ (R := fun before after => after.curConnectionSize = before.curConnectionSize)
      (fun _ => rfl) rfl
  have sameOwner : ∀ next, (cycle.objects next).upstream = (run.cycle.objects next).upstream := by
    intro next
    by_cases same : next = connection
    · rw [same, owner', owner]
    · rw [others next same]
  have shape : { run with cycle }.take connection =
      { run with cycle, held := connection :: run.held } := by
    simp [UpstreamRun.take, used]
  rw [shape]
  refine ⟨inv.taken used notHeld ⟨pairs, pool.keep ?_⟩ rfl rfl (fun _ _ => rfl) ?_ owner'
    ⟨_, backend, ?_, ?_, rfl⟩ servers ?_ ?_ ?_ ?_ life, ?_⟩
  · exact (keepsPool_modifyUpstream run.inUse run.cycle upstream _).trans
      (keepsPool_assignUpstream _ connection upstream backend used)
  · intro other _ apart
    dsimp only
    rw [others other apart]
    exact .refl _
  · rw [(servers upstream).length]
    exact below
  · dsimp only
    rw [assigned]
  · intro other key next
    dsimp only
    by_cases same : other = upstream
    · subst same
      rw [own]
      -- the list of its serverkey loses its front, which is in it once
      by_cases sameKey : key = ((run.cycle.upstreams other).server backend).serverkey
      · subst sameKey
        simp only [CoUpstream.setReuse, Function.update_self, front, List.mem_cons]
        refine ⟨fun later => ⟨.inr later, ?_⟩, fun found => found.1.resolve_left found.2⟩
        rintro rfl
        exact nodup.1 later
      · simp only [CoUpstream.setReuse, Function.update_of_ne sameKey]
        refine ⟨fun found => ⟨found, ?_⟩, And.left⟩
        rintro rfl
        exact sameKey (((inv.accounted next).reuse other key found).2.2.2.unique keyed)
    · rw [otherUpstreams other same]
      have absent := inv.not_reuse_other owner same key
      exact ⟨fun mem => ⟨mem, fun same => absent (same ▸ mem)⟩, And.left⟩
  · intro other key
    dsimp only
    by_cases same : other = upstream
    · subst same
      rw [own]
      by_cases sameKey : key = ((run.cycle.upstreams other).server backend).serverkey
      · subst sameKey
        simpa [CoUpstream.setReuse] using nodup.2
      · simpa [CoUpstream.setReuse, sameKey] using inv.reuseNodup other key
    · rw [otherUpstreams other same]
      exact inv.reuseNodup other key
  · intro other
    dsimp only
    rw [size, inv.counted]
    exact congrArg Nat.cast (countP_owned other fun next _ => sameOwner next).symm
  · exact fun other positive => (size other).trans_le (inv.bounded other positive)
  · intro another owned positive small
    cases owner'.symm.trans owned
    exact (life positive small).2

/-- A connection of the pool is handed on. -/
theorem UpstreamInv.takeNew (inv : UpstreamInv conf run) {backend : Nat} {cycle : CoCycle}
    (below : backend < (run.cycle.upstreams upstream).backends.length)
    (room : (run.cycle.upstreams upstream).curConnectionSize <
      (run.cycle.upstreams upstream).confUpstream.maxConnections)
    (out : HandsOut run.cycle run.inUse cycle (some connection)) (started : Nat) :
    let cycle := ((cycle.modifyUpstream upstream (.resizeBy 1)).modifyObject connection
      fun object => { object with startTimestamp := started }).assignUpstream connection upstream
        backend
    UpstreamInv conf ({ run with cycle }.take connection) ∧
      HasLife conf ({ run with cycle }.take connection) connection := by
  intro assigning
  have handed := inv.handOther out
  obtain ⟨unused, unowned⟩ := out.new connection rfl
  obtain ⟨pairs, pool⟩ := handed.pool
  have used : connection ∈ connection :: run.inUse := List.mem_cons_self
  have assigned : assigning.objects connection = { cycle.objects connection with
      startTimestamp := started, upstream := some upstream, backend := some backend } := by
    refine (assignUpstream_same _ _ _ _).trans ?_
    rw [modifyObject_same]
    rfl
  have others : ∀ other, other ≠ connection → assigning.objects other = cycle.objects other := by
    intro other apart
    refine (assignUpstream_other _ _ _ _ apart).trans ?_
    rw [modifyObject_other _ _ _ _ apart]
    rfl
  have own : assigning.upstreams upstream = (cycle.upstreams upstream).resizeBy 1 :=
    modifyUpstream_same _ _ _
  have otherUpstreams : ∀ other, other ≠ upstream →
      assigning.upstreams other = cycle.upstreams other :=
    fun other apart => modifyUpstream_other _ _ _ _ apart
  have sameReuse : ∀ other, (assigning.upstreams other).reuseConnections =
      (cycle.upstreams other).reuseConnections :=
    modifyUpstream_rel _ _ _ (R := fun before after => after.reuseConnections = before.reuseConnections)
      (fun _ => rfl) rfl
  have owner' : (assigning.objects connection).upstream = some upstream := by rw [assigned]
  have fresh : (assigning.objects connection).requestCount = 0 := by
    rw [assigned]
    exact unowned.requestCount
  have life : 0 < (conf upstream).connectionMaxRequest →
      (conf upstream).connectionMaxRequest ≤ 2147483647 →
      Function.update run.requests connection 0 connection =
        (assigning.objects connection).requestCount ∧
      (assigning.objects connection).requestCount < (conf upstream).connectionMaxRequest := by
    intro positive _
    rw [fresh, Function.update_self]
    exact ⟨rfl, positive⟩
  -- a connection out of the pool was idle nowhere
  have absent : ∀ other key, connection ∉ (cycle.upstreams other).reuseConnections key := by
    intro other key mem
    rw [out.upstreams] at mem
    exact unused ((inv.accounted connection).reuse other key mem).1
  have servers : ∀ other, SameServers (cycle.upstreams other) (assigning.upstreams other) :=
    modifyUpstream_rel _ _ _ SameServers.refl (sameServers_resizeBy _ _)
  have size : ∀ other, (assigning.upstreams other).curConnectionSize =
      (cycle.upstreams other).curConnectionSize + if other = upstream then 1 else 0 := by
    intro other
    by_cases same : other = upstream
    · subst same
      rw [own, if_pos rfl]
      rfl
    · rw [otherUpstreams other same, if_neg same, Int.add_zero]
  have shape : { run with cycle := assigning }.take connection =
      { cycle := assigning, inUse := connection :: run.inUse, held := connection :: run.held,
        requests := Function.update run.requests connection 0 } := by
    simp [UpstreamRun.take, unused]
  rw [shape]
  refine ⟨handed.taken used ?_ ⟨pairs, pool.keep ?_⟩ rfl rfl ?_ ?_ owner'
    ⟨_, backend, ?_, ?_, rfl⟩ servers ?_ ?_ ?_ ?_ life, ?_⟩
  · exact fun held => unused ((inv.accounted connection).held held).1
  · exact ((keepsPool_modifyUpstream _ cycle upstream _).trans (keepsPool_modifyObject _ _ connection _
      ⟨rfl, rfl, rfl, rfl⟩ (fun _ => rfl) fun notUsed => absurd used notUsed)).trans
      (keepsPool_assignUpstream _ connection upstream backend used)
  · exact fun other apart => Function.update_of_ne apart _ _
  · intro other _ apart
    dsimp only
    rw [others other apart]
    exact .refl _
  · rw [(servers upstream).length, out.upstreams]
    exact below
  · dsimp only
    rw [assigned]
  · intro other key next
    dsimp only
    rw [sameReuse]
    exact ⟨fun mem => ⟨mem, fun same => absent other key (same ▸ mem)⟩, And.left⟩
  · intro other key
    dsimp only
    rw [sameReuse]
    exact handed.reuseNodup other key
  · intro other
    dsimp only
    have old : run.inUse.countP (assigning.owned other) = run.inUse.countP (cycle.owned other) := by
      refine countP_owned other fun next mem => ?_
      have apart : next ≠ connection := fun same => unused (same ▸ mem)
      rw [others next apart]
    have counted : (cycle.upstreams other).curConnectionSize =
      (connection :: run.inUse).countP (cycle.owned other) := handed.counted other
    -- the upstream counts one connection more, as its size does
    have notOwned : cycle.owned other connection = false := by
      simp [CoCycle.owned, unowned.upstream]
    rw [size, counted, List.countP_cons, List.countP_cons, old, notOwned]
    by_cases same : other = upstream
    · simp [same, CoCycle.owned, owner']
    · simp [same, CoCycle.owned, owner', Ne.symm same]
  · intro other positive
    dsimp only
    rw [size]
    by_cases same : other = upstream
    · subst same
      rw [inv.configured, ← out.upstreams] at room
      rw [if_pos rfl]
      omega
    · rw [if_neg same, Int.add_zero]
      exact handed.bounded other positive
  · intro another owned positive small
    cases owner'.symm.trans owned
    exact (life positive small).2

theorem UpstreamInv.handOut (inv : UpstreamInv conf (run.take connection))
    (life : HasLife conf (run.take connection) connection) (request : Option Nat) :
    UpstreamInv conf (run.handOut connection request) := by
  cases request with
  | none => exact inv
  | some request => exact inv.bind List.mem_cons_self life request

theorem UpstreamInv.getConnection (inv : UpstreamInv conf run) {backend : Option Nat}
    {calls : OpenCalls} {now started : Nat} {request : Option Nat} {next : UpstreamRun}
    (stepped : run.step (.getConnection upstream backend calls now started request) = some next) :
    UpstreamInv conf next := by
  obtain ⟨⟨inside, unopened⟩, stepped⟩ := Option.ite_none_right_eq_some.1 stepped
  unfold upstreamGetConnection at stepped
  cases backend with
  | none =>
    cases stepped
    exact inv
  | some backend =>
    have below := inside backend rfl
    dsimp only at stepped
    cases front : (run.cycle.upstreams upstream).reuseConnections
        ((run.cycle.upstreams upstream).server backend).serverkey with
    | cons connection rest =>
      rw [front] at stepped
      cases stepped
      obtain ⟨taken, life⟩ := inv.takeReuse below front
      exact taken.handOut life request
    | nil =>
      rw [front] at stepped
      dsimp only at stepped
      by_cases full : (run.cycle.upstreams upstream).curConnectionSize ≥
          (run.cycle.upstreams upstream).confUpstream.maxConnections
      · rw [if_pos full] at stepped
        cases stepped
        exact inv
      · rw [if_neg full] at stepped
        obtain ⟨pairs, pool⟩ := inv.pool
        have out := pool.getConnectionIp calls now
          ((run.cycle.upstreams upstream).server backend).host
          ((run.cycle.upstreams upstream).server backend).port false unopened
        generalize run.cycle.getConnectionIp calls now _ _ = outcome at out stepped
        obtain ⟨cycle, result⟩ := outcome
        cases result with
        | none =>
          cases stepped
          exact inv.handOther out
        | some connection =>
          cases stepped
          obtain ⟨taken, life⟩ := inv.takeNew below (not_le.1 full) out started
          exact taken.handOut life request

theorem UpstreamInv.step (inv : UpstreamInv conf run) {event : UpstreamEvent} {next : UpstreamRun}
    (stepped : run.step event = some next) : UpstreamInv conf next := by
  cases event with
  | getConnection upstream backend calls now started request => exact inv.getConnection stepped
  | freeConnection connection retCode timestamp => exact inv.freeConnection stepped
  | getOther calls now ip port listen =>
    obtain ⟨unopened, same⟩ := Option.ite_none_right_eq_some.1 stepped
    cases same
    obtain ⟨pairs, pool⟩ := inv.pool
    exact inv.handOther (pool.getConnectionIp calls now ip port listen unopened)
  | freeOther connection =>
    obtain ⟨⟨used, noOwner⟩, same⟩ := Option.ite_none_right_eq_some.1 stepped
    cases same
    obtain ⟨pairs, pool⟩ := inv.pool
    obtain ⟨after, released⟩ := pool.freeConnection used
    have absent : ∀ upstream key,
        connection ∉ (run.cycle.upstreams upstream).reuseConnections key := by
      intro upstream key mem
      obtain ⟨-, -, owner, -⟩ := (inv.accounted connection).reuse upstream key mem
      cases noOwner.symm.trans owner
    have notHeld : connection ∉ run.held := by
      intro held
      obtain ⟨-, _, _, owner, -⟩ := (inv.accounted connection).held held
      cases noOwner.symm.trans owner
    have upstreams := released.upstreams
    refine inv.leave used ⟨pairs, after⟩ rfl (List.erase_of_not_mem notHeld).symm rfl ?_ ?_ ?_ ?_ ?_
    · intro other mem apart
      obtain ⟨j, -, rfl⟩ := pool.used_main used
      obtain ⟨k, -, rfl⟩ := pool.used_main mem
      obtain ⟨_, _, _, _, same⟩ := released.others (2 * k) apart (by omega)
      rw [same]
      exact sameOwner_registered _ _ _ _ _
    · intro upstream
      rw [upstreams]
      exact .refl _
    · intro upstream key other
      rw [upstreams]
      exact ⟨fun mem => ⟨mem, fun same => absent upstream key (same ▸ mem)⟩, And.left⟩
    · intro upstream key
      rw [upstreams]
      exact inv.reuseNodup upstream key
    · intro upstream
      rw [upstreams, CoCycle.owned, noOwner]
      simp

end

/-! ## Every run -/

end CoCycle

/-- Everything in the reuse lists of an upstream. -/
def CoUpstream.reused (self : CoUpstream) : List Nat :=
  (self.backends.map fun backend => backend.confUpstreamServer.serverkey).dedup.flatMap
    self.reuseConnections

namespace CoCycle

/-- What holds of an upstream after any number of steps. -/
structure UpstreamSound (run : UpstreamRun) (upstream : Nat) : Prop where
  counted : (run.cycle.upstreams upstream).curConnectionSize =
    (run.held.countP (run.cycle.owned upstream) : Int) + (run.cycle.upstreams upstream).reused.length
  bounded : (run.cycle.upstreams upstream).curConnectionSize ≤
    (run.cycle.upstreams upstream).confUpstream.maxConnections
  /-- An idle connection is in one list, that of its own backend. -/
  idle : ∀ connection, run.Idle connection →
    (run.cycle.objects connection).upstream = some upstream → ∃ serverkey,
      run.cycle.Keyed upstream connection serverkey ∧ ∀ other key,
        connection ∈ (run.cycle.upstreams other).reuseConnections key ↔
          other = upstream ∧ key = serverkey
  /-- Nothing but idle connections is in a list, and each of them once. -/
  reuse : ∀ serverkey, ((run.cycle.upstreams upstream).reuseConnections serverkey).Nodup ∧
    ∀ connection ∈ (run.cycle.upstreams upstream).reuseConnections serverkey,
      run.Idle connection ∧ (run.cycle.objects connection).upstream = some upstream
  requests : 0 < (run.cycle.upstreams upstream).confUpstream.connectionMaxRequest →
    ∀ connection ∈ run.inUse, (run.cycle.objects connection).upstream = some upstream →
      run.requests connection ≤
        (run.cycle.upstreams upstream).confUpstream.connectionMaxRequest

section
variable {conf : Nat → CoConfUpstreamLimits} {run : UpstreamRun} {connection upstream : Nat}

theorem Keyed.mem_keys {cycle : CoCycle} {serverkey : Bytes}
    (keyed : cycle.Keyed upstream connection serverkey) :
    serverkey ∈ ((cycle.upstreams upstream).backends.map
      fun backend => backend.confUpstreamServer.serverkey).dedup := by
  obtain ⟨backend, below, -, rfl⟩ := keyed
  rw [List.mem_dedup, List.mem_map]
  refine ⟨(cycle.upstreams upstream).backends[backend], List.getElem_mem below, ?_⟩
  simp [CoUpstream.server, List.getElem?_eq_getElem below]

theorem UpstreamInv.reused_nodup (inv : UpstreamInv conf run) (upstream : Nat) :
    (run.cycle.upstreams upstream).reused.Nodup := by
  refine List.nodup_flatMap.2 ⟨fun serverkey _ => inv.reuseNodup upstream serverkey, ?_⟩
  refine (List.nodup_dedup _).imp fun {first second} apart connection mem other => apart ?_
  exact ((inv.accounted connection).reuse upstream first mem).2.2.2.unique
    ((inv.accounted connection).reuse upstream second other).2.2.2

theorem UpstreamInv.mem_reused (inv : UpstreamInv conf run) (upstream connection : Nat) :
    connection ∈ (run.cycle.upstreams upstream).reused ↔
      run.Idle connection ∧ (run.cycle.objects connection).upstream = some upstream := by
  rw [CoUpstream.reused, List.mem_flatMap]
  constructor
  · rintro ⟨serverkey, -, mem⟩
    obtain ⟨used, notHeld, owner, -⟩ := (inv.accounted connection).reuse upstream serverkey mem
    exact ⟨⟨used, notHeld, owner ▸ rfl⟩, owner⟩
  · rintro ⟨⟨used, notHeld, -⟩, owner⟩
    obtain ⟨serverkey, mem⟩ := (inv.accounted connection).idle used notHeld upstream owner
    exact ⟨serverkey, ((inv.accounted connection).reuse upstream serverkey mem).2.2.2.mem_keys, mem⟩

/-- The connections of an upstream are those that are held and those in its lists. -/
theorem UpstreamInv.counted_parts (inv : UpstreamInv conf run) (upstream : Nat) :
    run.inUse.countP (run.cycle.owned upstream) =
      run.held.countP (run.cycle.owned upstream) + (run.cycle.upstreams upstream).reused.length := by
  have owned : ∀ connection, run.cycle.owned upstream connection = true ↔
      (run.cycle.objects connection).upstream = some upstream := by
    simp [CoCycle.owned]
  have parts : (run.inUse.filter (run.cycle.owned upstream)).Perm
      (run.held.filter (run.cycle.owned upstream) ++ (run.cycle.upstreams upstream).reused) := by
    refine (List.perm_ext_iff_of_nodup (inv.usedNodup.filter _) ?_).2 ?_
    · refine List.nodup_append.2 ⟨inv.heldNodup.filter _, inv.reused_nodup upstream, ?_⟩
      rintro connection held _ reused rfl
      exact ((inv.mem_reused upstream connection).1 reused).1.2.1 (List.mem_filter.1 held).1
    · intro connection
      rw [List.mem_append, List.mem_filter, List.mem_filter, inv.mem_reused, owned]
      constructor
      · rintro ⟨used, owner⟩
        by_cases held : connection ∈ run.held
        · exact .inl ⟨held, owner⟩
        · exact .inr ⟨⟨used, held, owner ▸ rfl⟩, owner⟩
      · rintro (⟨held, owner⟩ | ⟨⟨used, -, -⟩, owner⟩)
        · exact ⟨((inv.accounted connection).held held).1, owner⟩
        · exact ⟨used, owner⟩
  rw [List.countP_eq_length_filter, parts.length_eq, List.length_append,
    List.countP_eq_length_filter]

theorem UpstreamInv.sound (inv : UpstreamInv conf run)
    (positive : 0 ≤ (conf upstream).maxConnections)
    (small : (conf upstream).connectionMaxRequest ≤ 2147483647) : UpstreamSound run upstream where
  counted := by
    rw [inv.counted, inv.counted_parts]
    push_cast
    rfl
  bounded := by
    rw [inv.configured]
    exact inv.bounded upstream positive
  idle connection idle owner := by
    obtain ⟨serverkey, mem⟩ := (inv.accounted connection).idle idle.1 idle.2.1 upstream owner
    have keyed := ((inv.accounted connection).reuse upstream serverkey mem).2.2.2
    refine ⟨serverkey, keyed, fun other key => ⟨fun found => ?_, ?_⟩⟩
    · obtain ⟨-, -, owned, keyedToo⟩ := (inv.accounted connection).reuse other key found
      cases owner.symm.trans owned
      exact ⟨rfl, keyedToo.unique keyed⟩
    · rintro ⟨rfl, rfl⟩
      exact mem
  reuse serverkey := by
    refine ⟨inv.reuseNodup upstream serverkey, fun connection mem => ?_⟩
    obtain ⟨used, notHeld, owner, -⟩ := (inv.accounted connection).reuse upstream serverkey mem
    exact ⟨⟨used, notHeld, owner ▸ rfl⟩, owner⟩
  requests limited connection used owner := by
    rw [inv.configured] at limited ⊢
    obtain ⟨counted, bounded, -⟩ :=
      (inv.accounted connection).requests used upstream owner limited small
    rw [counted]
    exact bounded

end

/-- A thread that has not used its upstreams yet. -/
def UpstreamRun.start (cycle : CoCycle) : UpstreamRun :=
  { cycle, inUse := [], held := [], requests := fun _ => 0 }

theorem UpstreamInv.start (kernel : Kernel) (serverControls : Nat → CoServerControl)
    {upstreams : Nat → CoUpstream} {minConnectionSize maxConnectionSize : Int}
    (created : ∀ upstream, (upstreams upstream).curConnectionSize = 0 ∧
      ∀ serverkey, (upstreams upstream).reuseConnections serverkey = [])
    (small : minConnectionSize ≤ 2147483644)
    (started : ((fresh kernel serverControls upstreams).initPool minConnectionSize
      maxConnectionSize).1 = coOk) :
    UpstreamInv (fun upstream => (upstreams upstream).confUpstream)
      (.start ((fresh kernel serverControls upstreams).initPool minConnectionSize
        maxConnectionSize).2) := by
  obtain ⟨pairs, pool, grown⟩ := initPool_inv kernel serverControls upstreams small started
  have same : ∀ other, ((fresh kernel serverControls upstreams).initPool minConnectionSize
      maxConnectionSize).2.upstreams other = upstreams other := congrFun grown.upstreams
  refine ⟨?_, ⟨pairs, pool⟩, ?_, List.nodup_nil, ?_, ?_, ?_⟩
  · exact fun other => congrArg _ (same other)
  · intro connection
    refine ⟨fun mem => (nomatch mem), fun mem => (nomatch mem), fun other key mem => ?_,
      fun mem => (nomatch mem)⟩
    rw [UpstreamRun.start, same, (created other).2] at mem
    cases mem
  · intro other key
    rw [UpstreamRun.start, same, (created other).2]
    exact List.nodup_nil
  · intro other
    rw [UpstreamRun.start, same]
    exact (created other).1
  · intro other positive
    rw [UpstreamRun.start, same, (created other).1]
    exact positive

/-- In every run, whatever backends are chosen, however the pool answers and with
    whatever codes connections are given back, every upstream is sound.  The
    configuration accepts only digits for `max_connections`, and
    `m_connectionMaxRequest` is an `int32_t`. -/
theorem upstream_sound (kernel : Kernel) (serverControls : Nat → CoServerControl)
    (upstreams : Nat → CoUpstream) {minConnectionSize maxConnectionSize : Int}
    (created : ∀ upstream, (upstreams upstream).curConnectionSize = 0 ∧
      ∀ serverkey, (upstreams upstream).reuseConnections serverkey = [])
    (small : minConnectionSize ≤ 2147483644)
    (started : ((fresh kernel serverControls upstreams).initPool minConnectionSize
      maxConnectionSize).1 = coOk)
    {events : List UpstreamEvent} {final : UpstreamRun}
    (ran : events.foldlM UpstreamRun.step (.start ((fresh kernel serverControls upstreams).initPool
      minConnectionSize maxConnectionSize).2) = some final)
    (upstream : Nat) (digits : 0 ≤ (upstreams upstream).confUpstream.maxConnections)
    (fits : (upstreams upstream).confUpstream.connectionMaxRequest ≤ 2147483647) :
    UpstreamSound final upstream := by
  have start := UpstreamInv.start kernel serverControls created small started
  have inv := Lib.run_keeps UpstreamRun.step _ (fun _ _ _ inv stepped => inv.step stepped) start ran
  exact inv.sound digits fits

/-- One backend, at most two requests to a connection. -/
def oneBackend : Nat → CoUpstream := fun _ =>
  { backends := [{ confUpstreamServer := { serverkey := [97] } }]
    confUpstream := { connectionMaxRequest := 2 } }

/-- A connection is used twice and closed, a second one fails when it is idle, a third
    one is kept. -/
def threeConnections : List UpstreamEvent := [
  .getConnection 0 (some 0) { socket := 5 } 1 1 (some 10),
  .freeConnection 0 coOk 2,
  .getConnection 0 (some 0) { socket := -1 } 3 3 (some 11),
  .freeConnection 0 coOk 4,
  .getConnection 0 (some 0) { socket := 6 } 5 5 (some 12),
  .freeConnection 0 coOk 6,
  .freeConnection 0 coException 7,
  .getConnection 0 none { socket := -1 } 8 8 (some 13),
  .getConnection 0 (some 0) { socket := 7 } 8 8 (some 14),
  .getConnection 0 (some 0) { socket := 8 } 9 9 none,
  .freeConnection 0 coOk 10]

theorem upstream_sound_three : ∃ final, threeConnections.foldlM UpstreamRun.step
      (.start ((fresh {} (fun _ => {}) oneBackend).initPool 1 8).2) = some final ∧
    (final.held, (final.cycle.upstreams 0).reused) = ([2], [0]) ∧ UpstreamSound final 0 := by
  have defined : (threeConnections.foldlM UpstreamRun.step
      (.start ((fresh {} (fun _ => {}) oneBackend).initPool 1 8).2)).map
        (fun final => (final.held, (final.cycle.upstreams 0).reused)) = some ([2], [0]) := by
    decide +kernel
  have started : ((fresh {} (fun _ => {}) oneBackend).initPool 1 8).1 = coOk := by decide +kernel
  obtain ⟨final, ran, seen⟩ := Option.map_eq_some_iff.1 defined
  exact ⟨final, ran, seen, upstream_sound {} (fun _ => {}) oneBackend (fun _ => ⟨rfl, fun _ => rfl⟩)
    (by decide) started ran 0 (by decide) (by decide)⟩

end CoCycle

end CoServer
