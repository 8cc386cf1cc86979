import CoServer.Core.WorkerThread

/-! # Servers and upstreams side by side

The servers and the upstreams of a thread take their connections from one pool.  A step of
either side leaves the connections of the other side as they are. -/

namespace CoServer

namespace CoCycle

/-! ## What they leave to each other -/

/-- What a step of the upstreams leaves to the servers.  It touches connections of
    upstreams and new ones. -/
structure UpstreamFrame (before after : UpstreamRun) : Prop where
  servers : after.cycle.serverControls = before.cycle.serverControls
  owners : ∀ connection ∈ before.inUse, connection ∈ after.inUse →
    (after.cycle.objects connection).serverControl = (before.cycle.objects connection).serverControl ∧
    (after.cycle.objects connection).handlerCleanups = (before.cycle.objects connection).handlerCleanups
  fresh : ∀ connection ∈ after.inUse, connection ∉ before.inUse →
    (after.cycle.objects connection).serverControl = none ∧
    (after.cycle.objects connection).handlerCleanups = []
  left : ∀ connection ∈ before.inUse, connection ∉ after.inUse →
    (before.cycle.objects connection).upstream ≠ none

/-- A step of the first `upstreamCount` upstreams. -/
structure UpstreamStep (upstreamCount : Nat) (before after : UpstreamRun) : Prop
    extends UpstreamFrame before after where
  assigned : ∀ connection ∈ after.inUse,
    connection ∈ before.inUse ∧
      (after.cycle.objects connection).upstream = (before.cycle.objects connection).upstream ∨
    (∃ upstream < upstreamCount, (after.cycle.objects connection).upstream = some upstream) ∧
      (connection ∈ before.inUse → (before.cycle.objects connection).upstream ≠ none)
  sized : after.cycle.connectionPool.maxConnectionSize = before.cycle.connectionPool.maxConnectionSize

/-- What a step of the servers leaves to the upstreams. -/
structure ServerFrame (before after : AcceptRun) : Prop where
  upstreams : after.cycle.upstreams = before.cycle.upstreams
  owners : ∀ connection ∈ before.inUse, connection ∈ after.inUse →
    (after.cycle.objects connection).upstream = (before.cycle.objects connection).upstream ∧
    (after.cycle.objects connection).backend = (before.cycle.objects connection).backend ∧
    (after.cycle.objects connection).requestCount = (before.cycle.objects connection).requestCount
  fresh : ∀ connection ∈ after.inUse, connection ∉ before.inUse →
    (after.cycle.objects connection).upstream = none
  left : ∀ connection ∈ before.inUse, connection ∉ after.inUse →
    (before.cycle.objects connection).upstream = none

/-- A step of the first `serverCount` servers, in which one of them may have begun to listen. -/
structure ServerStep (serverCount : Nat) (before after : AcceptRun) (listening : List Nat) : Prop
    extends ServerFrame before after where
  joined : ∀ server, ∀ connection ∈ after.clients server,
    connection ∈ before.clients server ∨ connection ∉ before.inUse
  stays : ∀ server, ∀ connection ∈ before.clients server, connection ∈ after.inUse →
    connection ∈ after.clients server
  entered : ∀ connection ∈ after.inUse, connection ∉ before.inUse →
    connection ∈ listening ∨ ∃ server < serverCount, connection ∈ after.clients server
  begun : listening = [] ∧ (∀ server, after.coroutine server = .created ↔ before.coroutine server = .created) ∨
    ∃ server < serverCount, before.coroutine server = .created ∧
      after.coroutine = Function.update before.coroutine server .finished ∧ listening.length = 1
  sized : after.cycle.connectionPool.maxConnectionSize = before.cycle.connectionPool.maxConnectionSize

section
variable {confServers : Nat → CoConfServer} {confUpstreams : Nat → CoConfUpstreamLimits}

/-- The clients belong to no upstream, so they are still there. -/
theorem AcceptInv.framed {run : AcceptRun} {before after : UpstreamRun} (inv : AcceptInv confServers run)
    (cycle : before.cycle = run.cycle) (inUse : before.inUse = run.inUse)
    (apart : ∀ server, ∀ connection ∈ run.clients server, (run.cycle.objects connection).upstream = none)
    (pool : ∃ pairs, PoolInv after.cycle pairs after.inUse) (frame : UpstreamFrame before after) :
    AcceptInv confServers { run with cycle := after.cycle, inUse := after.inUse } := by
  have same : ∀ server, after.cycle.serverControls server = run.cycle.serverControls server :=
    fun server => by rw [frame.servers, cycle]
  refine ⟨fun server => ?_, pool, fun server connection mem => ?_, fun connection used noClient => ?_,
    inv.nodup, fun server => ?_, fun server => ?_⟩
  · rw [same]
    exact inv.configured server
  · obtain ⟨used, owned, cleanups⟩ := inv.client server connection mem
    have stays : connection ∈ after.inUse := by
      by_contra left
      exact frame.left connection (inUse ▸ used) left (cycle ▸ apart server connection mem)
    obtain ⟨owner, cleanup⟩ := frame.owners connection (inUse ▸ used) stays
    rw [cycle] at owner cleanup
    exact ⟨stays, owner.trans owned, cleanup.trans cleanups⟩
  · by_cases old : connection ∈ before.inUse
    · obtain ⟨owned, cleanups⟩ := inv.other connection (inUse ▸ old) noClient
      obtain ⟨owner, cleanup⟩ := frame.owners connection old used
      rw [cycle] at owner cleanup
      exact ⟨owner.trans owned, cleanup.trans cleanups⟩
    · exact frame.fresh connection used old
  · rw [same]
    exact inv.counted server
  · rw [same]
    exact inv.standing server

/-- The connections of the upstreams are still there. -/
theorem UpstreamInv.framed {run : UpstreamRun} {before after : AcceptRun} (inv : UpstreamInv confUpstreams run)
    (cycle : before.cycle = run.cycle) (inUse : before.inUse = run.inUse)
    (pool : ∃ pairs, PoolInv after.cycle pairs after.inUse) (frame : ServerFrame before after) :
    UpstreamInv confUpstreams { run with cycle := after.cycle, inUse := after.inUse } := by
  have upstreams : after.cycle.upstreams = run.cycle.upstreams := by rw [frame.upstreams, cycle]
  have nodup : after.inUse.Nodup := by
    obtain ⟨pairs, pool⟩ := pool
    exact (List.nodup_append.1 (pool.shared.nodup_iff.2 (nodup_mains pairs))).2.1
  have owners : ∀ connection ∈ run.inUse, connection ∈ after.inUse →
      (after.cycle.objects connection).upstream = (run.cycle.objects connection).upstream ∧
      (after.cycle.objects connection).backend = (run.cycle.objects connection).backend ∧
      (after.cycle.objects connection).requestCount = (run.cycle.objects connection).requestCount :=
    fun connection used stays => by
      rw [← cycle]
      exact frame.owners connection (inUse ▸ used) stays
  have stays : ∀ connection ∈ run.inUse, (run.cycle.objects connection).upstream ≠ none →
      connection ∈ after.inUse := fun connection used owned => by
    by_contra left
    exact owned (cycle ▸ frame.left connection (inUse ▸ used) left)
  have old : ∀ connection ∈ after.inUse, (after.cycle.objects connection).upstream ≠ none →
      connection ∈ run.inUse := fun connection used owned => by
    by_contra new
    exact owned (frame.fresh connection used (inUse ▸ new))
  have keyed : ∀ {upstream connection serverkey}, connection ∈ run.inUse → connection ∈ after.inUse →
      run.cycle.Keyed upstream connection serverkey → after.cycle.Keyed upstream connection serverkey := by
    rintro upstream connection serverkey used stays ⟨backend, below, chosen, same⟩
    exact ⟨backend, by rw [upstreams]; exact below, (owners connection used stays).2.1.trans chosen,
      by rw [upstreams]; exact same⟩
  refine ⟨fun upstream => ?_, pool, fun connection => ⟨fun held => ?_, fun used notHeld upstream owner => ?_,
    fun upstream serverkey mem => ?_, fun used upstream owner positive small => ?_⟩, inv.heldNodup,
    fun upstream serverkey => ?_, fun upstream => ?_, fun upstream positive => ?_⟩
  · rw [upstreams]
    exact inv.configured upstream
  · obtain ⟨used, upstream, serverkey, owner, key⟩ := (inv.accounted connection).held held
    have here := stays connection used (fun none => nomatch owner.symm.trans none)
    exact ⟨here, upstream, serverkey, (owners connection used here).1.trans owner, keyed used here key⟩
  · have before := old connection used (fun none => nomatch owner.symm.trans none)
    rw [upstreams]
    exact (inv.accounted connection).idle before notHeld upstream
      ((owners connection before used).1.symm.trans owner)
  · rw [upstreams] at mem
    obtain ⟨used, notHeld, owner, key⟩ := (inv.accounted connection).reuse upstream serverkey mem
    have here := stays connection used (fun none => nomatch owner.symm.trans none)
    exact ⟨here, notHeld, (owners connection used here).1.trans owner, keyed used here key⟩
  · have before := old connection used (fun none => nomatch owner.symm.trans none)
    have same := owners connection before used
    have counted := (inv.accounted connection).requests before upstream (same.1.symm.trans owner) positive small
    rw [same.2.2]
    exact counted
  · rw [upstreams]
    exact inv.reuseNodup upstream serverkey
  · -- the connections of an upstream are the same ones
    have perm : (after.inUse.filter (after.cycle.owned upstream)).Perm
        (run.inUse.filter (run.cycle.owned upstream)) := by
      refine (List.perm_ext_iff_of_nodup (nodup.filter _) (inv.usedNodup.filter _)).2 fun connection => ?_
      simp only [List.mem_filter, owned, beq_iff_eq]
      constructor
      · rintro ⟨used, owner⟩
        have before := old connection used (fun none => nomatch owner.symm.trans none)
        exact ⟨before, (owners connection before used).1.symm.trans owner⟩
      · rintro ⟨used, owner⟩
        have here := stays connection used (fun none => nomatch owner.symm.trans none)
        exact ⟨here, (owners connection used here).1.trans owner⟩
    rw [upstreams, inv.counted, List.countP_eq_length_filter, List.countP_eq_length_filter,
      List.Perm.length_eq perm]
  · rw [upstreams]
    exact inv.bounded upstream positive

end

/-! ## What upstreams do -/

section
variable {confUpstreams : Nat → CoConfUpstreamLimits} {upstreamCount : Nat} {run next : UpstreamRun}
  {connection upstream : Nat}

theorem UpstreamStep.refl (upstreamCount : Nat) (run : UpstreamRun) : UpstreamStep upstreamCount run run where
  servers := rfl
  owners _ _ _ := ⟨rfl, rfl⟩
  fresh _ used unused := absurd used unused
  left _ used unused := absurd used unused
  assigned _ used := .inl ⟨used, rfl⟩
  sized := rfl

/-- Another request on a connection leaves its owners alone. -/
theorem UpstreamStep.handOut {cycle : CoCycle} (request : Option Nat) {inUse : List Nat}
    (same : inUse = run.inUse.insert connection)
    (step : UpstreamStep upstreamCount run { run with cycle, inUse }) :
    UpstreamStep upstreamCount run ({ run with cycle }.handOut connection request) := by
  subst same
  cases request with
  | none => exact { step with }
  | some request =>
    have kept : ∀ other,
        ((cycle.bindRequest connection request).objects other).upstream = (cycle.objects other).upstream ∧
        ((cycle.bindRequest connection request).objects other).serverControl =
          (cycle.objects other).serverControl ∧
        ((cycle.bindRequest connection request).objects other).handlerCleanups =
          (cycle.objects other).handlerCleanups := fun other => by
      by_cases here : other = connection
      · subst here
        rw [bindRequest_same]
        exact ⟨rfl, rfl, rfl⟩
      · rw [bindRequest_other _ _ _ here]
        exact ⟨rfl, rfl, rfl⟩
    exact {
      servers := step.servers
      owners := fun other used stays =>
        ⟨(kept other).2.1.trans (step.owners other used stays).1,
          (kept other).2.2.trans (step.owners other used stays).2⟩
      fresh := fun other used new =>
        ⟨(kept other).2.1.trans (step.fresh other used new).1, (kept other).2.2.trans (step.fresh other used new).2⟩
      left := step.left
      assigned := fun other used => (step.assigned other used).imp
        (fun ⟨old, same⟩ => ⟨old, (kept other).1.trans same⟩)
        (fun ⟨⟨upstream, below, owner⟩, owned⟩ => ⟨⟨upstream, below, (kept other).1.trans owner⟩, owned⟩)
      sized := step.sized }

/-- The front of a reuse list is handed on. -/
theorem UpstreamInv.reuseStep (inv : UpstreamInv confUpstreams run) (below : upstream < upstreamCount)
    {serverkey : Bytes} {backend : Nat} {rest : List Nat}
    (front : (run.cycle.upstreams upstream).reuseConnections serverkey = connection :: rest) :
    UpstreamStep upstreamCount run { run with
      cycle := (run.cycle.modifyUpstream upstream (.setReuse serverkey rest)).assignUpstream connection upstream backend
      inUse := run.inUse.insert connection } := by
  obtain ⟨used, -, owner, -⟩ := (inv.accounted connection).reuse upstream serverkey
    (front ▸ List.mem_cons_self)
  have same : run.inUse.insert connection = run.inUse := List.insert_of_mem used
  have kept : ∀ other, other ≠ connection →
      (((run.cycle.modifyUpstream upstream (.setReuse serverkey rest)).assignUpstream connection upstream
        backend).objects other) = run.cycle.objects other :=
    fun other apart => by rw [assignUpstream_other _ _ _ _ apart]; rfl
  have here := assignUpstream_same (run.cycle.modifyUpstream upstream (.setReuse serverkey rest)) connection
    upstream backend
  refine { servers := rfl, owners := fun other used _ => ?_, fresh := fun other used new => ?_
           left := fun other used gone => ?_, assigned := fun other used => ?_, sized := rfl }
  · by_cases at_ : other = connection
    · subst at_
      rw [here]
      exact ⟨rfl, rfl⟩
    · rw [kept other at_]
      exact ⟨rfl, rfl⟩
  · rw [same] at used
    exact absurd used new
  · rw [same] at gone
    exact absurd used gone
  · rw [same] at used
    by_cases at_ : other = connection
    · subst at_
      refine .inr ⟨⟨upstream, below, ?_⟩, fun _ => by simp [owner]⟩
      rw [here]
    · refine .inl ⟨used, ?_⟩
      rw [kept other at_]

/-- A new connection of the pool. -/
theorem UpstreamStep.newConnection (below : upstream < upstreamCount) {cycle : CoCycle} {backend started : Nat}
    (out : HandsOut run.cycle run.inUse cycle (some connection))
    (sized : cycle.connectionPool.maxConnectionSize = run.cycle.connectionPool.maxConnectionSize) :
    UpstreamStep upstreamCount run { run with
      cycle := ((cycle.modifyUpstream upstream (.resizeBy 1)).modifyObject connection fun object =>
        { object with startTimestamp := started }).assignUpstream connection upstream backend
      inUse := run.inUse.insert connection } := by
  obtain ⟨unused, unowned⟩ := out.new connection rfl
  have kept : ∀ other ∈ run.inUse,
      ((((cycle.modifyUpstream upstream (.resizeBy 1)).modifyObject connection fun object =>
        { object with startTimestamp := started }).assignUpstream connection upstream backend).objects other) =
      run.cycle.objects other := fun other used => by
    have apart : other ≠ connection := fun same => unused (same ▸ used)
    rw [assignUpstream_other _ _ _ _ apart, modifyObject_other _ _ _ _ apart]
    exact out.used other used
  have here := assignUpstream_same ((cycle.modifyUpstream upstream (.resizeBy 1)).modifyObject connection
    fun object => { object with startTimestamp := started }) connection upstream backend
  rw [modifyObject_same] at here
  have mem : ∀ other, other ∈ run.inUse.insert connection ↔ other = connection ∨ other ∈ run.inUse :=
    fun other => List.mem_insert_iff
  refine { servers := out.servers, owners := fun other used _ => ?_, fresh := fun other used new => ?_
           left := fun other used gone => ?_, assigned := fun other used => ?_, sized }
  · rw [kept other used]
    exact ⟨rfl, rfl⟩
  · obtain rfl | old := (mem other).1 used
    · rw [here]
      exact ⟨unowned.serverControl, unowned.handlerCleanups⟩
    · exact absurd old new
  · exact absurd ((mem other).2 (.inr used)) gone
  · obtain rfl | old := (mem other).1 used
    · refine .inr ⟨⟨upstream, below, ?_⟩, fun old => absurd old unused⟩
      rw [here]
    · refine .inl ⟨old, ?_⟩
      rw [kept other old]

/-- The pool was asked in vain. -/
theorem UpstreamStep.noConnection {cycle : CoCycle} (out : HandsOut run.cycle run.inUse cycle none)
    (sized : cycle.connectionPool.maxConnectionSize = run.cycle.connectionPool.maxConnectionSize) :
    UpstreamStep upstreamCount run { run with cycle } where
  servers := out.servers
  owners other used _ := by
    rw [out.used other used]
    exact ⟨rfl, rfl⟩
  fresh _ used unused := absurd used unused
  left _ used unused := absurd used unused
  assigned other used := .inl ⟨used, by rw [out.used other used]⟩
  sized := sized

theorem UpstreamInv.getStep (inv : UpstreamInv confUpstreams run) (below : upstream < upstreamCount)
    {backend : Option Nat} {calls : OpenCalls} {now started : Nat} {request : Option Nat}
    (stepped : run.step (.getConnection upstream backend calls now started request) = some next) :
    UpstreamStep upstreamCount run next := by
  obtain ⟨⟨-, unopened⟩, stepped⟩ := Option.ite_none_right_eq_some.1 stepped
  unfold upstreamGetConnection at stepped
  cases backend with
  | none =>
    cases stepped
    exact .refl _ _
  | some backend =>
    dsimp only at stepped
    cases front : (run.cycle.upstreams upstream).reuseConnections
        ((run.cycle.upstreams upstream).server backend).serverkey with
    | cons connection rest =>
      rw [front] at stepped
      cases stepped
      exact (inv.reuseStep below front).handOut request rfl
    | nil =>
      rw [front] at stepped
      dsimp only at stepped
      by_cases full : (run.cycle.upstreams upstream).curConnectionSize ≥
          (run.cycle.upstreams upstream).confUpstream.maxConnections
      · rw [if_pos full] at stepped
        cases stepped
        exact .refl _ _
      · rw [if_neg full] at stepped
        obtain ⟨pairs, pool⟩ := inv.pool
        have out := pool.getConnectionIp calls now ((run.cycle.upstreams upstream).server backend).host
          ((run.cycle.upstreams upstream).server backend).port false unopened
        have sized := maxSize_getConnectionIp run.cycle calls now
          ((run.cycle.upstreams upstream).server backend).host
          ((run.cycle.upstreams upstream).server backend).port false
        generalize run.cycle.getConnectionIp calls now _ _ = outcome at out sized stepped
        obtain ⟨cycle, result⟩ := outcome
        cases result with
        | none =>
          cases stepped
          exact .noConnection out sized
        | some connection =>
          cases stepped
          exact (UpstreamStep.newConnection below out sized).handOut request rfl

/-- A connection is closed; it had no cleanup. -/
theorem UpstreamInv.closeStep (inv : UpstreamInv confUpstreams run) (upstreamCount upstream : Nat)
    (used : connection ∈ run.inUse)
    (owned : (run.cycle.objects connection).upstream ≠ none)
    (noCleanup : (run.cycle.objects connection).handlerCleanups = []) (f : CoUpstream → CoUpstream)
    (held : List Nat) :
    connection ∈ ((run.cycle.modifyUpstream upstream f).closeUpstream upstream
      connection).connectionPool.freeConnections ∧
    UpstreamStep upstreamCount run { run with
      cycle := (run.cycle.modifyUpstream upstream f).closeUpstream upstream connection
      inUse := run.inUse.erase connection
      held } := by
  obtain ⟨pairs, pool⟩ := inv.pool
  have changed := pool.keep (keepsPool_modifyUpstream run.inUse run.cycle upstream f)
  obtain ⟨-, free, -, others⟩ := changed.closeUpstream used upstream
  -- the same step by step, for what the servers see
  have counted := (keepsPool_modifyUpstream run.inUse run.cycle upstream f).trans
    (keepsPool_modifyUpstream run.inUse (run.cycle.modifyUpstream upstream f) upstream (.resizeBy (-1)))
  have deleted := delConnection_reregistered
    ((run.cycle.modifyUpstream upstream f).modifyUpstream upstream (.resizeBy (-1))) connection
  have keeps := counted.trans (deleted.keepsPool run.inUse)
  obtain ⟨-, released⟩ := (pool.keep keeps).freeConnection used
  have none := (deleted.keepsOwners.objects connection).handlerCleanups.trans noCleanup
  have erased : ∀ other, other ∈ run.inUse.erase connection ↔ other ≠ connection ∧ other ∈ run.inUse :=
    fun other => inv.usedNodup.mem_erase_iff
  refine ⟨free, { servers := ?_, owners := fun other mem stays => ?_, fresh := fun other stays new => ?_
                  left := fun other mem gone => ?_, assigned := fun other stays => ?_, sized := ?_ }⟩
  · exact (released.noCleanup none).trans deleted.servers
  · have same := others other mem ((erased other).1 stays).1
    exact ⟨same.serverControl, same.handlerCleanups⟩
  · exact absurd ((erased other).1 stays).2 new
  · have same : other = connection := by
      by_contra apart
      exact gone ((erased other).2 ⟨apart, mem⟩)
    exact same ▸ owned
  · obtain ⟨apart, mem⟩ := (erased other).1 stays
    exact .inl ⟨mem, (others other mem apart).upstream⟩
  · exact released.maxSize.trans (congrArg CoConnectionPool.maxConnectionSize keeps.pool)

/-- A connection is kept for the next request. -/
theorem UpstreamInv.keepStep (inv : UpstreamInv confUpstreams run) (upstreamCount upstream : Nat)
    (used : connection ∈ run.inUse)
    (serverkey : Bytes) (held : List Nat) :
    connection ∉ (run.cycle.keepUpstream upstream connection serverkey).connectionPool.freeConnections ∧
    UpstreamStep upstreamCount run { run with
      cycle := run.cycle.keepUpstream upstream connection serverkey
      held } := by
  obtain ⟨pairs, pool⟩ := inv.pool
  obtain ⟨kept, -, owners⟩ := pool.keepUpstream used upstream serverkey
  have registering := modifyConnection_reregistered (run.cycle.reset connection true) connection .del
    (coEventIn.union coEventOut)
  have keeps := (pool.keepsPool_reset used).trans (registering.keepsPool run.inUse)
  refine ⟨fun free => kept.free_not_used free used, ?_⟩
  exact {
    servers := ((keepsOwners_reset run.cycle connection).trans registering.keepsOwners).servers
    owners := fun other _ _ => ⟨(owners other).serverControl, (owners other).handlerCleanups⟩
    fresh := fun other mem new => absurd mem new
    left := fun other mem gone => absurd mem gone
    assigned := fun other mem => .inl ⟨mem, (owners other).upstream⟩
    sized := congrArg CoConnectionPool.maxConnectionSize keeps.pool }

theorem UpstreamInv.freeStep (inv : UpstreamInv confUpstreams run)
    (noCleanup : ∀ connection ∈ run.inUse, (run.cycle.objects connection).upstream ≠ none →
      (run.cycle.objects connection).handlerCleanups = [])
    {retCode : Int} {timestamp : Nat}
    (stepped : run.step (.freeConnection connection retCode timestamp) = some next) :
    UpstreamStep upstreamCount run next := by
  obtain ⟨allowed, stepped⟩ := Option.ite_none_right_eq_some.1 stepped
  cases stepped
  have known : connection ∈ run.inUse ∧ (run.cycle.objects connection).upstream ≠ none := by
    obtain held | ⟨-, used, -, owner⟩ := allowed
    · obtain ⟨used, upstream, _, owner, -⟩ := (inv.accounted connection).held held
      exact ⟨used, by simp [owner]⟩
    · exact ⟨used, by simpa [Option.isSome_iff_ne_none] using owner⟩
  obtain ⟨used, owned⟩ := known
  have bare := noCleanup connection used owned
  have closes : ∀ (f : CoUpstream → CoUpstream) upstream,
      UpstreamStep upstreamCount run { run with
        cycle := (run.cycle.modifyUpstream upstream f).closeUpstream upstream connection
        inUse := if connection ∈ ((run.cycle.modifyUpstream upstream f).closeUpstream upstream
          connection).connectionPool.freeConnections then run.inUse.erase connection else run.inUse
        held := run.held.erase connection } := fun f upstream => by
    obtain ⟨freed, step⟩ := inv.closeStep upstreamCount upstream used owned bare f
      (run.held.erase connection)
    rw [if_pos freed]
    exact step
  unfold freeUpstreamConnection
  split
  · rename_i upstream backend _ _
    unfold upstreamFreeConnection
    dsimp only
    split
    · exact closes _ upstream
    · split
      · exact closes _ upstream
      · split
        · have same := closes id upstream
          rw [modifyUpstream_id] at same
          exact same
        · obtain ⟨notFreed, step⟩ := inv.keepStep upstreamCount upstream used
            ((run.cycle.upstreams upstream).server backend).serverkey (run.held.erase connection)
          rw [if_neg notFreed]
          exact step
  · have refl := UpstreamStep.refl upstreamCount run
    obtain ⟨pairs, pool⟩ := inv.pool
    rw [if_neg fun free => pool.free_not_used free used]
    exact { refl with }

theorem UpstreamInv.serves (inv : UpstreamInv confUpstreams run)
    (noCleanup : ∀ connection ∈ run.inUse, (run.cycle.objects connection).upstream ≠ none →
      (run.cycle.objects connection).handlerCleanups = [])
    {event : UpstreamEvent} (requests : WorkerRun.Requests upstreamCount event)
    (stepped : run.step event = some next) : UpstreamStep upstreamCount run next := by
  cases event with
  | getConnection upstream backend calls now started request => exact inv.getStep requests stepped
  | freeConnection connection retCode timestamp => exact inv.freeStep noCleanup stepped
  | getOther calls now ip port listen => exact requests.elim
  | freeOther connection => exact requests.elim

end

/-! ## What servers do -/

section
variable {confServers : Nat → CoConfServer} {serverCount : Nat} {run next : AcceptRun} {server connection : Nat}

/-- Nothing changes that the upstreams see, and no server begins. -/
theorem ServerStep.quiet (cycle : CoCycle) {coroutine : Nat → ListenState}
    (same : ∀ server, coroutine server = .created ↔ run.coroutine server = .created)
    (upstreams : cycle.upstreams = run.cycle.upstreams)
    (owners : ∀ other ∈ run.inUse, SameOwner (run.cycle.objects other) (cycle.objects other))
    (sized : cycle.connectionPool.maxConnectionSize = run.cycle.connectionPool.maxConnectionSize) :
    ServerStep serverCount run { run with cycle, coroutine } [] where
  upstreams := upstreams
  owners other used _ := ⟨(owners other used).upstream, (owners other used).backend, (owners other used).requestCount⟩
  fresh _ used new := absurd used new
  left _ used gone := absurd used gone
  joined _ _ mem := .inl mem
  stays _ _ mem _ := mem
  entered _ used new := absurd used new
  begun := .inl ⟨rfl, same⟩
  sized := sized

/-- The place of a coroutine that has begun changes. -/
theorem begun_update {coroutine : Nat → ListenState} {state : ListenState} (started : coroutine server ≠ .created)
    (goesOn : state ≠ .created) (other : Nat) :
    Function.update coroutine server state other = .created ↔ coroutine other = .created := by
  by_cases same : other = server
  · subst same
    simp [started, goesOn]
  · simp [same]

theorem ServerStep.stay {state : ListenState} (started : run.coroutine server ≠ .created)
    (goesOn : state ≠ .created) : ServerStep serverCount run (run.moveTo server state) [] :=
  .quiet run.cycle (begun_update started goesOn) rfl (fun _ _ => .refl _) rfl

theorem sameOwner_modifyListening (self : CoCycle) (server other : Nat) :
    SameOwner (self.objects other) ((self.modifyListening server).objects other) := by
  obtain ⟨_, _, _, _, same⟩ := (cleaned_modifyListening self server).objects other
  rw [same]
  exact sameOwner_registered _ _ _ _ _

theorem sameOwner_listenOn (self : CoCycle) (server connection other : Nat) :
    SameOwner (self.objects other) ((self.listenOn server connection).objects other) := by
  have handler := (keepsOwners_modifyObject (self.modifyServer server fun control =>
    { control with listenConnection := connection }) connection
    (fun object => { object with handler := some .listen, handlerException := .listen })
    ⟨rfl, rfl, rfl, rfl, rfl⟩).objects other
  exact handler.trans (sameOwner_modifyListening _ server other)

theorem AcceptInv.initStep (inv : AcceptInv confServers run) (below : server < serverCount) {calls : OpenCalls}
    {now : Nat} (stepped : run.step (.initServer server calls now) = some next) :
    ServerStep serverCount run next (next.inUse.take (next.inUse.length - run.inUse.length)) := by
  obtain ⟨⟨created, unopened⟩, stepped⟩ := Option.ite_none_right_eq_some.1 stepped
  obtain ⟨pairs, pool⟩ := inv.pool
  have out := pool.getConnectionIp calls now (run.cycle.serverControls server).confServer.listenIP
    (run.cycle.serverControls server).confServer.listenPort true unopened
  have sized := maxSize_getConnectionIp run.cycle calls now (run.cycle.serverControls server).confServer.listenIP
    (run.cycle.serverControls server).confServer.listenPort true
  unfold CoCycle.initServer at stepped
  dsimp only at stepped
  generalize run.cycle.getConnectionIp calls now _ _ true = outcome at out sized stepped
  obtain ⟨cycle, result⟩ := outcome
  cases result with
  | none =>
    cases stepped
    simp only [Nat.sub_self, List.take_zero]
    exact {
      upstreams := out.upstreams
      owners := fun other used _ => by
        rw [out.used other used]
        exact ⟨rfl, rfl, rfl⟩
      fresh := fun _ used new => absurd used new
      left := fun _ used gone => absurd used gone
      joined := fun _ _ mem => .inl mem
      stays := fun _ _ mem _ => mem
      entered := fun _ used new => absurd used new
      begun := .inl ⟨rfl, fun _ => Iff.rfl⟩
      sized }
  | some connection =>
    cases stepped
    obtain ⟨unused, unowned⟩ := out.new connection rfl
    have taken : (connection :: run.inUse).take ((connection :: run.inUse).length - run.inUse.length) =
        [connection] := by simp
    have owners := sameOwner_listenOn cycle server connection
    have cleaned := cleaned_modifyListening ((cycle.modifyServer server fun control =>
      { control with listenConnection := connection }).modifyObject connection fun object => { object with
        handler := some .listen, handlerException := .listen }) server
    have keeps : KeepsPool (connection :: run.inUse) cycle (cycle.listenOn server connection) :=
      keepsPool_listenOn cycle server List.mem_cons_self
    suffices step : ServerStep serverCount run ({ run with
        cycle := cycle.listenOn server connection, inUse := connection :: run.inUse }.moveTo server .finished)
        [connection] by
      rw [← taken] at step
      exact step
    exact {
      upstreams := cleaned.upstreams.trans out.upstreams
      owners := fun other used _ => by
        have same := owners other
        rw [out.used other used] at same
        exact ⟨same.upstream, same.backend, same.requestCount⟩
      fresh := fun other used new => by
        obtain rfl | old := List.mem_cons.1 used
        · exact (owners other).upstream.trans unowned.upstream
        · exact absurd old new
      left := fun other used gone => absurd (List.mem_cons_of_mem _ used) gone
      joined := fun _ _ mem => .inl mem
      stays := fun _ _ mem _ => mem
      entered := fun other used new => .inl (by
        obtain rfl | old := List.mem_cons.1 used
        · exact List.mem_singleton_self other
        · exact absurd old new)
      begun := .inr ⟨server, below, created, rfl, rfl⟩
      sized := (congrArg CoConnectionPool.maxConnectionSize keeps.pool).trans sized }

theorem ListenState.nextTurn_begun (i maxAcceptSize : Int) : ListenState.nextTurn i maxAcceptSize ≠ .created := by
  unfold ListenState.nextTurn
  split <;> simp

/-- The client that `accept` returned gets a connection, or none. -/
theorem AcceptInv.turnStep (inv : AcceptInv confServers run) (below : server < serverCount)
    (started : run.coroutine server ≠ .created) {i maxAcceptSize : Int} (result : AcceptResult)
    (stepped : run.acceptTurn server i maxAcceptSize result = some next) : ServerStep serverCount run next [] := by
  cases result with
  | failed =>
    cases stepped
    exact .stay started (ListenState.nextTurn_begun i maxAcceptSize)
  | client calls now socketFd =>
    obtain ⟨unopened, stepped⟩ := Option.ite_none_right_eq_some.1 stepped
    obtain ⟨pairs, pool⟩ := inv.pool
    have out := pool.getConnectionNew calls now unopened
    have sized := maxSize_getConnectionFd { run.cycle with kernel := run.cycle.kernel.open socketFd } calls now
      socketFd
    unfold CoCycle.initConnection at stepped
    dsimp only at stepped
    generalize CoCycle.getConnectionFd _ calls now socketFd = outcome at out sized stepped
    obtain ⟨cycle, result⟩ := outcome
    cases result with
    | none =>
      cases stepped
      refine .quiet cycle (begun_update started (by simp)) out.upstreams (fun other used => ?_) sized
      have same := out.used other used
      rw [show cycle.objects other = run.cycle.objects other from same]
      exact .refl _
    | some connection =>
      cases stepped
      obtain ⟨unused, unowned⟩ := out.new connection rfl
      have kept : ∀ other ∈ run.inUse,
          (cycle.acceptClient server connection).objects other = run.cycle.objects other := fun other used => by
        have apart : other ≠ connection := fun same => unused (same ▸ used)
        unfold CoCycle.acceptClient
        dsimp only
        rw [pushDelay_objects, modifyServer_objects, modifyObject_other _ _ _ _ apart]
        exact out.used other used
      have here : ((cycle.acceptClient server connection).objects connection).upstream = none := by
        unfold CoCycle.acceptClient
        dsimp only
        rw [pushDelay_objects, modifyServer_objects, modifyObject_same]
        exact unowned.upstream
      exact {
        upstreams := out.upstreams
        owners := fun other used _ => by
          show ((cycle.acceptClient server connection).objects other).upstream = _ ∧ _
          rw [show (cycle.acceptClient server connection).objects other = _ from kept other used]
          exact ⟨rfl, congrArg CoConnection.backend (kept other used),
            congrArg CoConnection.requestCount (kept other used)⟩
        fresh := fun other used new => by
          obtain rfl | old := List.mem_cons.1 used
          · exact here
          · exact absurd old new
        left := fun other used gone => absurd (List.mem_cons_of_mem _ used) gone
        joined := fun other client mem => by
          obtain old | ⟨-, rfl⟩ := mem_update_cons.1 mem
          · exact .inl old
          · exact .inr unused
        stays := fun other client mem _ => mem_update_cons.2 (.inl mem)
        entered := fun other used new => by
          obtain rfl | old := List.mem_cons.1 used
          · exact .inr ⟨server, below, mem_update_cons.2 (.inr ⟨rfl, rfl⟩)⟩
          · exact absurd old new
        begun := .inl ⟨rfl, begun_update started (ListenState.nextTurn_begun i maxAcceptSize)⟩
        sized }

/-- A request on a client's connection ends. -/
theorem AcceptInv.freeStep (inv : AcceptInv confServers run)
    (apart : (run.cycle.objects connection).upstream = none) {retCode : Int}
    (stepped : run.step (.freeRequestConnection connection retCode) = some next) :
    ServerStep serverCount run next [] := by
  obtain ⟨used, stepped⟩ := Option.ite_none_right_eq_some.1 stepped
  obtain ⟨pairs, pool⟩ := inv.pool
  unfold freeRequestConnection at stepped
  split at stepped
  · cases stepped
    have deleted := delConnection_reregistered run.cycle connection
    have keeps := deleted.keepsPool run.inUse
    have owners := deleted.keepsOwners
    obtain ⟨-, released⟩ := (pool.keep keeps).freeConnection used
    have nodup : run.inUse.Nodup :=
      (List.nodup_append.1 (pool.shared.nodup_iff.2 (nodup_mains pairs))).2.1
    have erased : ∀ other, other ∈ run.inUse.erase connection ↔ other ≠ connection ∧ other ∈ run.inUse :=
      fun other => nodup.mem_erase_iff
    exact {
      upstreams := released.upstreams.trans deleted.upstreams
      owners := fun other mem stays => by
        obtain ⟨j, -, rfl⟩ := pool.used_main used
        obtain ⟨k, -, rfl⟩ := pool.used_main mem
        obtain ⟨_, _, _, _, same⟩ := released.others (2 * k) ((erased _).1 stays).1 (by omega)
        have owner : SameOwner (run.cycle.objects (2 * k))
            (((run.cycle.delConnection (2 * j)).2.freeConnection (2 * j)).objects (2 * k)) := by
          rw [same]
          exact (owners.objects (2 * k)).trans (sameOwner_registered _ _ _ _ _)
        exact ⟨owner.upstream, owner.backend, owner.requestCount⟩
      fresh := fun other stays new => absurd ((erased other).1 stays).2 new
      left := fun other mem gone => by
        have same : other = connection := by
          by_contra differs
          exact gone ((erased other).2 ⟨differs, mem⟩)
        exact same ▸ apart
      joined := fun server client mem => .inl (List.mem_of_mem_erase mem)
      stays := fun server client mem stays => (List.mem_erase_of_ne ((erased client).1 stays).1).2 mem
      entered := fun other stays new => absurd ((erased other).1 stays).2 new
      begun := .inl ⟨rfl, fun _ => Iff.rfl⟩
      sized := released.maxSize.trans (congrArg CoConnectionPool.maxConnectionSize keeps.pool) }
  · cases stepped
    have owners := keepsOwners_keepalive run.cycle connection
    exact .quiet (run.cycle.keepRequestConnection connection) (fun _ => Iff.rfl) owners.upstreams
      (fun other _ => owners.objects other)
      (congrArg CoConnectionPool.maxConnectionSize (pool.keepsPool_keepalive used).pool)

/-- Every step of the servers of a thread. -/
theorem AcceptInv.serves {worker : WorkerRun} (inv : AcceptInv confServers worker.acceptRun)
    (apart : ∀ server, ∀ connection ∈ worker.clients server, (worker.cycle.objects connection).upstream = none)
    {event : AcceptEvent} (serves : worker.Serves serverCount event)
    (stepped : worker.acceptRun.step event = some next) :
    ServerStep serverCount worker.acceptRun next (worker.listening next event) := by
  cases event with
  | initServer server calls now => exact inv.initStep serves stepped
  | start server =>
    obtain ⟨finished, same⟩ := Option.ite_none_right_eq_some.1 stepped
    cases same
    exact .stay (by rw [finished]; simp) (by simp)
  | limit server =>
    obtain ⟨looping, same⟩ := Option.ite_none_right_eq_some.1 stepped
    have started : worker.acceptRun.coroutine server ≠ .created := by rw [looping]; simp
    split at same
    · cases same
      exact .stay started (by simp)
    · cases same
      obtain ⟨pairs, pool⟩ := inv.pool
      have keeps := keepsPool_modifyListening worker.inUse worker.cycle server
      exact .quiet (worker.cycle.modifyListening server) (begun_update started (by simp))
        (cleaned_modifyListening worker.cycle server).upstreams
        (fun other _ => sameOwner_modifyListening worker.cycle server other)
        (congrArg CoConnectionPool.maxConnectionSize keeps.pool)
  | suspend server =>
    unfold AcceptRun.step at stepped
    dsimp only at stepped
    split at stepped
    · rename_i i maxAcceptSize accepting
      cases stepped
      exact .stay (by rw [accepting]; simp) (by simp)
    · cases stepped
  | accept server result =>
    unfold AcceptRun.step at stepped
    dsimp only at stepped
    split at stepped
    · rename_i i maxAcceptSize accepting
      exact inv.turnStep serves (by rw [accepting]; simp) result stepped
    · rename_i i maxAcceptSize suspended
      exact inv.turnStep serves (by rw [suspended]; simp) result stepped
    · cases stepped
  | freeRequestConnection connection retCode =>
    obtain ⟨server, -, mem⟩ := serves
    exact inv.freeStep (apart server connection mem) stepped
  | freeConnection connection => exact serves.elim
  | getConnection calls now ip port => exact serves.elim

end

end CoCycle

end CoServer
