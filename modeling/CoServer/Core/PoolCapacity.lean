import CoServer.Core.DescriptorLeaks
import CoServer.Core.WorkerSteps
import Mathlib.Algebra.Order.BigOperators.Group.Finset
import Mathlib.Algebra.BigOperators.Ring.Finset
import Mathlib.Data.Finset.Card

/-! # The pool is large enough

The pool can make as many connections as the configuration says and seven more, of which
the pair of sockets takes two.  So with at most five listening sockets nobody who may have a
connection finds the pool empty. -/

namespace CoServer

namespace CoCycle

/-! ## The invariant -/

/-- Everything in use belongs to someone who may have it. -/
structure WorkerInv (confServers : Nat → CoConfServer) (confUpstreams : Nat → CoConfUpstreamLimits)
    (serverCount upstreamCount : Nat) (maxConnectionSize : Int) (run : WorkerRun) : Prop where
  accept : AcceptInv confServers run.acceptRun
  upstream : UpstreamInv confUpstreams run.upstreamRun
  sized : run.cycle.connectionPool.maxConnectionSize = maxConnectionSize
  comm : run.comm.length ≤ 2
  listens : run.listens.length =
    ((Finset.range serverCount).filter fun server => run.coroutine server ≠ .created).card
  placed : ∀ connection ∈ run.inUse, connection ∈ run.comm ++ run.listens ∨
    (∃ server < serverCount, connection ∈ run.clients server) ∨
    ∃ upstream < upstreamCount, (run.cycle.objects connection).upstream = some upstream
  apart : ∀ server, ∀ connection ∈ run.clients server, (run.cycle.objects connection).upstream = none

section
variable {confServers : Nat → CoConfServer} {confUpstreams : Nat → CoConfUpstreamLimits}
  {serverCount upstreamCount : Nat} {maxConnectionSize : Int} {run next : WorkerRun}

/-- A connection of an upstream is no client and has no cleanup. -/
theorem WorkerInv.noCleanup
    (inv : WorkerInv confServers confUpstreams serverCount upstreamCount maxConnectionSize run) :
    ∀ connection ∈ run.inUse, (run.cycle.objects connection).upstream ≠ none →
      (run.cycle.objects connection).handlerCleanups = [] := by
  intro connection used owned
  exact (inv.accept.other connection used fun server mem => owned (inv.apart server connection mem)).2

theorem keepsPool_listenResumes (inUse comm : List Nat) (cycle : CoCycle) :
    KeepsPool inUse cycle (comm.foldl listenResume cycle) := by
  induction comm generalizing cycle with
  | nil => exact .refl inUse cycle
  | cons connection rest ih =>
    have handler := keepsPool_modifyObject inUse cycle connection (fun object => { object with
      handler := some .resumeRead, handlerException := .resumeRead }) ⟨rfl, rfl, rfl, rfl⟩ (fun _ => rfl)
      fun _ unowned => ⟨unowned.serverControl, unowned.upstream, unowned.requestCount, unowned.handlerCleanups⟩
    have registering := modifyConnection_reregistered (cycle.modifyObject connection fun object => { object with
      handler := some .resumeRead, handlerException := .resumeRead }) connection .add coEventRead
    exact (handler.trans (registering.keepsPool inUse)).trans (ih (cycle.listenResume connection))

theorem keepsOwners_listenResumes (comm : List Nat) (cycle : CoCycle) :
    KeepsOwners cycle (comm.foldl listenResume cycle) := by
  induction comm generalizing cycle with
  | nil => exact .refl cycle
  | cons connection rest ih =>
    have handler := keepsOwners_modifyObject cycle connection (fun object => { object with
      handler := some .resumeRead, handlerException := .resumeRead }) ⟨rfl, rfl, rfl, rfl, rfl⟩
    have registering := modifyConnection_reregistered (cycle.modifyObject connection fun object => { object with
      handler := some .resumeRead, handlerException := .resumeRead }) connection .add coEventRead
    exact (handler.trans registering.keepsOwners).trans (ih (cycle.listenResume connection))

/-- One more server has begun to listen. -/
theorem card_begun {coroutine : Nat → ListenState} {server : Nat} (below : server < serverCount)
    (created : coroutine server = .created) :
    ((Finset.range serverCount).filter fun other =>
      Function.update coroutine server .finished other ≠ .created).card =
      1 + ((Finset.range serverCount).filter fun other => coroutine other ≠ .created).card := by
  have joined : ((Finset.range serverCount).filter fun other =>
      Function.update coroutine server .finished other ≠ .created) =
      insert server ((Finset.range serverCount).filter fun other => coroutine other ≠ .created) := by
    ext other
    by_cases same : other = server
    · subst same
      simp [below]
    · simp [same]
  rw [joined, Finset.card_insert_of_notMem (by simp [created]), Nat.add_comm]

theorem WorkerInv.step
    (inv : WorkerInv confServers confUpstreams serverCount upstreamCount maxConnectionSize run)
    {event : WorkerEvent} (stepped : run.step serverCount upstreamCount event = some next) :
    WorkerInv confServers confUpstreams serverCount upstreamCount maxConnectionSize next := by
  cases event with
  | openComm calls now socketFd =>
    obtain ⟨⟨room, unopened⟩, stepped⟩ := Option.ite_none_right_eq_some.1 stepped
    obtain ⟨pairs, pool⟩ : ∃ pairs, PoolInv run.cycle pairs run.inUse := inv.accept.pool
    have out := pool.getConnectionNew calls now unopened
    have sized := maxSize_getConnectionFd { run.cycle with kernel := run.cycle.kernel.open socketFd } calls now
      socketFd
    have accept : AcceptInv confServers { run.acceptRun with
        cycle := { run.cycle with kernel := run.cycle.kernel.open socketFd } } :=
      inv.accept.keep ⟨pairs, pool.open socketFd⟩ (fun _ => .refl _) fun _ => ⟨rfl, rfl, rfl⟩
    have upstream : UpstreamInv confUpstreams { run.upstreamRun with
        cycle := { run.cycle with kernel := run.cycle.kernel.open socketFd } } :=
      @UpstreamInv.framed _ run.upstreamRun run.acceptRun { run.acceptRun with
        cycle := { run.cycle with kernel := run.cycle.kernel.open socketFd } } inv.upstream rfl rfl accept.pool
        { upstreams := rfl, owners := fun _ _ _ => ⟨rfl, rfl, rfl⟩, fresh := fun _ used new => absurd used new
          left := fun _ used gone => absurd used gone }
    have accepts := accept.handOut out
    have upstreams := upstream.handOther out
    dsimp only at stepped
    generalize CoCycle.getConnectionFd _ calls now socketFd = outcome at out sized stepped accepts upstreams
    obtain ⟨cycle, result⟩ := outcome
    have kept : ∀ connection ∈ run.inUse, cycle.objects connection = run.cycle.objects connection := out.used
    cases result with
    | none =>
      cases stepped
      exact {
        accept := accepts
        upstream := upstreams
        sized := sized.trans inv.sized
        comm := inv.comm
        listens := inv.listens
        placed := fun connection used => by
          show _ ∨ _ ∨ ∃ upstream < upstreamCount, (cycle.objects connection).upstream = some upstream
          rw [kept connection used]
          exact inv.placed connection used
        apart := fun server connection mem => by
          show (cycle.objects connection).upstream = none
          rw [kept connection (inv.accept.client server connection mem).1]
          exact inv.apart server connection mem }
    | some connection =>
      cases stepped
      have keeps := keepsPool_listenResumes (connection :: run.inUse) run.comm cycle
      have owners := keepsOwners_listenResumes run.comm cycle
      obtain ⟨grown, handed⟩ := accepts.pool
      have listening : AcceptInv confServers { run.acceptRun with
          cycle := run.comm.foldl listenResume cycle, inUse := connection :: run.inUse } :=
        accepts.keep ⟨grown, handed.keep keeps⟩ owners.objects
          fun server => by rw [owners.servers]; exact ⟨rfl, rfl, rfl⟩
      have unused := (out.new connection rfl).1
      exact {
        accept := listening
        upstream := @UpstreamInv.framed _ _ { run.acceptRun with cycle, inUse := connection :: run.inUse }
          { run.acceptRun with
            cycle := run.comm.foldl listenResume cycle, inUse := connection :: run.inUse }
          upstreams rfl rfl listening.pool
          { upstreams := owners.upstreams
            owners := fun other _ _ => ⟨(owners.objects other).upstream, (owners.objects other).backend,
              (owners.objects other).requestCount⟩
            fresh := fun _ used new => absurd used new
            left := fun _ used gone => absurd used gone }
        sized := (congrArg CoConnectionPool.maxConnectionSize keeps.pool).trans (sized.trans inv.sized)
        comm := room
        listens := inv.listens
        placed := fun other used => by
          obtain rfl | old := List.mem_cons.1 used
          · exact .inl (List.mem_cons_self)
          · obtain own | client | ⟨upstream, below, owner⟩ := inv.placed other old
            · exact .inl (List.mem_cons_of_mem _ own)
            · exact .inr (.inl client)
            · refine .inr (.inr ⟨upstream, below, (owners.objects other).upstream.trans ?_⟩)
              rw [kept other old]
              exact owner
        apart := fun server other mem => by
          refine (owners.objects other).upstream.trans ?_
          rw [kept other (inv.accept.client server other mem).1]
          exact inv.apart server other mem }
  | server event =>
    obtain ⟨serves, stepped⟩ := Option.ite_none_right_eq_some.1 stepped
    obtain ⟨after, ran, same⟩ := Option.map_eq_some_iff.1 stepped
    subst same
    have step := inv.accept.serves inv.apart serves ran
    have accept := inv.accept.step ran
    exact {
      accept
      upstream := inv.upstream.framed rfl rfl accept.pool step.toServerFrame
      sized := step.sized.trans inv.sized
      comm := inv.comm
      listens := by
        obtain ⟨none, same⟩ | ⟨server, below, created, updated, one⟩ := step.begun
        · rw [none, List.nil_append, inv.listens]
          refine congrArg Finset.card (Finset.filter_congr fun server _ => ?_)
          exact not_congr (same server).symm
        · rw [List.length_append, one, inv.listens, updated]
          exact (card_begun below created).symm
      placed := fun connection used => by
        by_cases old : connection ∈ run.inUse
        · obtain own | ⟨server, below, client⟩ | ⟨upstream, below, owner⟩ := inv.placed connection old
          · obtain comm | listens := List.mem_append.1 own
            · exact .inl (List.mem_append_left _ comm)
            · exact .inl (List.mem_append_right _ (List.mem_append_right _ listens))
          · exact .inr (.inl ⟨server, below, step.stays server connection client used⟩)
          · exact .inr (.inr ⟨upstream, below, (step.owners connection old used).1.trans owner⟩)
        · obtain listens | client := step.entered connection used old
          · exact .inl (List.mem_append_right _ (List.mem_append_left _ listens))
          · exact .inr (.inl client)
      apart := fun server connection mem => by
        have used := (accept.client server connection mem).1
        obtain old | new := step.joined server connection mem
        · have before := (inv.accept.client server connection old).1
          exact (step.owners connection before used).1.trans (inv.apart server connection old)
        · exact step.fresh connection used new }
  | upstream event =>
    obtain ⟨requests, stepped⟩ := Option.ite_none_right_eq_some.1 stepped
    obtain ⟨after, ran, same⟩ := Option.map_eq_some_iff.1 stepped
    subst same
    have step := inv.upstream.serves inv.noCleanup requests ran
    have upstream := inv.upstream.step ran
    have accept := inv.accept.framed rfl rfl inv.apart upstream.pool step.toUpstreamFrame
    exact {
      accept
      upstream
      sized := step.sized.trans inv.sized
      comm := inv.comm
      listens := inv.listens
      placed := fun connection used => by
        obtain ⟨old, same⟩ | ⟨owner, -⟩ := step.assigned connection used
        · obtain own | client | ⟨upstream, below, owner⟩ := inv.placed connection old
          · exact .inl own
          · exact .inr (.inl client)
          · exact .inr (.inr ⟨upstream, below, same.trans owner⟩)
        · exact .inr (.inr owner)
      apart := fun server connection mem => by
        obtain ⟨-, same⟩ | ⟨-, owned⟩ := step.assigned connection (accept.client server connection mem).1
        · exact same.trans (inv.apart server connection mem)
        · exact absurd (inv.apart server connection mem) (owned (inv.accept.client server connection mem).1) }

open Finset in
/-- Nobody has more than he counts. -/
theorem WorkerInv.used_le
    (inv : WorkerInv confServers confUpstreams serverCount upstreamCount maxConnectionSize run) :
    (run.inUse.length : Int) ≤ run.comm.length + run.listens.length +
      (∑ server ∈ range serverCount, (run.cycle.serverControls server).curConnectionSize) +
      ∑ upstream ∈ range upstreamCount, (run.cycle.upstreams upstream).curConnectionSize := by
  have servers : ∀ server, (run.cycle.serverControls server).curConnectionSize = (run.clients server).length :=
    inv.accept.counted
  have upstreams : ∀ upstream, (run.cycle.upstreams upstream).curConnectionSize =
      (run.inUse.filter (run.cycle.owned upstream)).length := fun upstream => by
    rw [← List.countP_eq_length_filter]
    exact inv.upstream.counted upstream
  have covered : run.inUse.toFinset ⊆ run.comm.toFinset ∪ run.listens.toFinset ∪
      ((range serverCount).biUnion fun server => (run.clients server).toFinset) ∪
      (range upstreamCount).biUnion fun upstream =>
        (run.inUse.filter (run.cycle.owned upstream)).toFinset := by
    intro connection used
    rw [List.mem_toFinset] at used
    simp only [mem_union, mem_biUnion, mem_range, List.mem_toFinset, List.mem_filter, owned, beq_iff_eq]
    obtain own | client | ⟨upstream, below, owner⟩ := inv.placed connection used
    · exact .inl (.inl (List.mem_append.1 own))
    · exact .inl (.inr client)
    · exact .inr ⟨upstream, below, used, owner⟩
  have nodup : run.inUse.Nodup := inv.upstream.usedNodup
  have counted : run.inUse.length ≤ run.comm.length + run.listens.length +
      (∑ server ∈ range serverCount, (run.clients server).length) +
      ∑ upstream ∈ range upstreamCount, (run.inUse.filter (run.cycle.owned upstream)).length := by
    rw [← List.toFinset_card_of_nodup nodup]
    refine (card_le_card covered).trans ((card_union_le _ _).trans (Nat.add_le_add ?_ ?_))
    · refine (card_union_le _ _).trans (Nat.add_le_add ?_ ?_)
      · exact (card_union_le _ _).trans
          (Nat.add_le_add (List.toFinset_card_le _) (List.toFinset_card_le _))
      · exact card_biUnion_le.trans (sum_le_sum fun server _ => List.toFinset_card_le _)
    · exact card_biUnion_le.trans (sum_le_sum fun upstream _ => List.toFinset_card_le _)
  simp only [servers, upstreams]
  exact_mod_cast counted

end

/-! ## The pool -/

open Finset in
theorem configuredConnections_eq (serverControls : Nat → CoServerControl) (upstreams : Nat → CoUpstream)
    (serverCount upstreamCount : Nat) :
    configuredConnections serverControls upstreams serverCount upstreamCount =
      4 + (∑ server ∈ range serverCount, (serverControls server).confServer.maxConnections) +
        ∑ upstream ∈ range upstreamCount, (upstreams upstream).confUpstream.maxConnections := by
  have servers : ∀ count : Nat, ∀ size : Int, ((List.range count).map fun server =>
      (serverControls server).confServer).foldl (fun size conf => size + conf.maxConnections) size =
      size + ∑ server ∈ range count, (serverControls server).confServer.maxConnections := fun count size => by
    induction count with
    | zero => simp
    | succ count ih => simp [List.range_succ, List.foldl_append, ih, sum_range_succ, add_assoc]
  have upstreamSizes : ∀ count : Nat, ∀ size : Int, ((List.range count).map fun upstream =>
      (upstreams upstream).confUpstream).foldl (fun size conf => size + conf.maxConnections) size =
      size + ∑ upstream ∈ range count, (upstreams upstream).confUpstream.maxConnections := fun count size => by
    induction count with
    | zero => simp
    | succ count ih => simp [List.range_succ, List.foldl_append, ih, sum_range_succ, add_assoc]
  simp only [configuredConnections, threadConnections, servers, upstreamSizes]

namespace WorkerRun

/-- Somebody may have another connection: one end of the pair, a server that begins to
    listen or that is about to accept, or an upstream with fewer than its limit. -/
def MayAsk (self : WorkerRun) (serverCount upstreamCount : Nat) : Prop :=
  self.comm.length < 2 ∨
  (∃ server < serverCount, self.coroutine server = .created ∨ ∃ i maxAcceptSize,
    self.coroutine server = .accepting i maxAcceptSize ∨ self.coroutine server = .suspended i maxAcceptSize) ∨
  ∃ upstream < upstreamCount, (self.cycle.upstreams upstream).curConnectionSize <
    (self.cycle.upstreams upstream).confUpstream.maxConnections

end WorkerRun

section
variable {confServers : Nat → CoConfServer} {confUpstreams : Nat → CoConfUpstreamLimits}
  {serverCount upstreamCount : Nat} {maxConnectionSize : Int} {run : WorkerRun}

/-- A server is within its limit, and below it when it is about to accept. -/
theorem WorkerInv.server_le
    (inv : WorkerInv confServers confUpstreams serverCount upstreamCount maxConnectionSize run) {server : Nat}
    (positive : 1 ≤ (confServers server).maxConnections) :
    (run.cycle.serverControls server).curConnectionSize ≤ (confServers server).maxConnections ∧
    ∀ i maxAcceptSize, run.coroutine server = .accepting i maxAcceptSize ∨
      run.coroutine server = .suspended i maxAcceptSize →
      (run.cycle.serverControls server).curConnectionSize < (confServers server).maxConnections := by
  have conf : (run.cycle.serverControls server).confServer = confServers server := inv.accept.configured server
  have standing : Standing (run.cycle.serverControls server) (run.coroutine server) :=
    inv.accept.standing server (by
      show 1 ≤ (run.cycle.serverControls server).confServer.maxConnections
      rw [conf]
      exact positive)
  constructor
  · cases state : run.coroutine server with
    | created =>
      rw [state] at standing
      have none := standing.1
      omega
    | finished | looping =>
      rw [state, Standing, conf] at standing
      exact standing.1
    | accepting i maxAcceptSize | suspended i maxAcceptSize =>
      rw [state, Standing, conf] at standing
      omega
  · rintro i maxAcceptSize (state | state)
    · rw [state, Standing, conf] at standing
      omega
    · rw [state, Standing, conf] at standing
      omega

open Finset in
/-- Who may ask makes a sum smaller than the configured one. -/
theorem WorkerInv.room
    (inv : WorkerInv confServers confUpstreams serverCount upstreamCount maxConnectionSize run)
    (positive : ∀ server < serverCount, 1 ≤ (confServers server).maxConnections)
    (digits : ∀ upstream < upstreamCount, 0 ≤ (confUpstreams upstream).maxConnections)
    (asks : run.MayAsk serverCount upstreamCount) :
    (run.inUse.length : Int) < 2 + serverCount +
      (∑ server ∈ range serverCount, (confServers server).maxConnections) +
      ∑ upstream ∈ range upstreamCount, (confUpstreams upstream).maxConnections := by
  have used := inv.used_le
  have comm := inv.comm
  have listens := inv.listens
  have begun : ((range serverCount).filter fun server => run.coroutine server ≠ .created).card ≤ serverCount :=
    (card_filter_le _ _).trans_eq (card_range serverCount)
  have servers : ∀ server ∈ range serverCount,
      (run.cycle.serverControls server).curConnectionSize ≤ (confServers server).maxConnections :=
    fun server mem => (inv.server_le (positive server (mem_range.1 mem))).1
  have upstreams : ∀ upstream ∈ range upstreamCount,
      (run.cycle.upstreams upstream).curConnectionSize ≤ (confUpstreams upstream).maxConnections :=
    fun upstream mem => inv.upstream.bounded upstream (digits upstream (mem_range.1 mem))
  have serverSum := sum_le_sum servers
  have upstreamSum := sum_le_sum upstreams
  obtain fewer | ⟨server, below, created | ⟨i, maxAcceptSize, accepts⟩⟩ | ⟨upstream, below, fewer⟩ := asks
  · omega
  · have fewer : ((range serverCount).filter fun server => run.coroutine server ≠ .created).card < serverCount := by
      refine (card_lt_card ((filter_ssubset).2 ⟨server, mem_range.2 below, ?_⟩)).trans_eq (card_range serverCount)
      simp [created]
    omega
  · have fewer := sum_lt_sum servers ⟨server, mem_range.2 below,
      (inv.server_le (positive server below)).2 i maxAcceptSize accepts⟩
    omega
  · have conf : (run.cycle.upstreams upstream).confUpstream = confUpstreams upstream :=
      inv.upstream.configured upstream
    rw [conf] at fewer
    have fewer := sum_lt_sum upstreams ⟨upstream, mem_range.2 below, fewer⟩
    omega

end

/-- Behind the pool only `set_nonblock` can fail. -/
theorem getConnectionFd_some {self : CoCycle} (enough : self.exhausted = false) (calls : OpenCalls)
    (now : Nat) (socketFd : Int) :
    ((self.getConnectionFd calls now socketFd).2).isSome = true ↔ CoTCP.setNonblock calls = coOk := by
  unfold getConnectionFd
  dsimp only
  split
  · rename_i empty
    simp [exhausted, empty] at enough
  · rename_i connection rest front
    have inits : ∀ tcp : CoTCP, (tcp.initClientSocketfd self.refill.kernel calls socketFd).1 = coOk := fun tcp => by
      unfold CoTCP.initClientSocketfd
      dsimp only
      split <;> rfl
    by_cases nonblock : CoTCP.setNonblock calls = coOk <;> simp [inits, nonblock]

/-- The calls of `get_connection(ip, port, listen)` pass their tests, on the socket of the connection
    it hands out: a descriptor is created where there is none, and a listening socket is bound. -/
structure SocketReady (coTcp : CoTCP) (calls : OpenCalls) (port : Nat) (listen : Bool) : Prop where
  descriptor : coTcp.socketfd > 0 ∨ calls.socket ≠ -1 ∧ TimeoutsPass coTcp calls
  nonblock : CoTCP.setNonblock calls = coOk
  listens : listen = true → CoTCP.setReused calls = coOk ∧ port ≠ 0 ∧ calls.bind ≠ -1 ∧ 0 ≤ calls.listen

theorem initIpport_ok_iff (coTcp : CoTCP) (kernel : Kernel) (calls : OpenCalls) (ip : Bytes) (port : Nat) :
    (coTcp.initIpport kernel calls ip port).1 = coOk ↔
      coTcp.socketfd > 0 ∨ calls.socket ≠ -1 ∧ TimeoutsPass coTcp calls := by
  by_cases held : coTcp.socketfd > 0
  · simp [CoTCP.initIpport, held]
  by_cases created : calls.socket = -1
  · simp [CoTCP.initIpport, held, created]
  · rw [initIpport_ok kernel ip port held created]
    simp [held, created]

/-- Behind the pool only the calls on the socket can fail. -/
theorem getConnectionIp_some {self : CoCycle} (enough : self.exhausted = false) (calls : OpenCalls)
    (now : Nat) (ip : Bytes) (port : Nat) (listen : Bool) :
    ((self.getConnectionIp calls now ip port listen).2).isSome = true ↔
      ∀ connection ∈ self.refill.connectionPool.freeConnections.head?,
        SocketReady (self.refill.objects connection).coTcp calls port listen := by
  unfold getConnectionIp
  dsimp only
  split
  · rename_i empty
    simp [exhausted, empty] at enough
  · rename_i connection rest front
    have inits := initIpport_ok_iff (self.refill.objects connection).coTcp self.refill.kernel calls ip port
    have ready := listenReady_iff calls
      ((self.refill.objects connection).coTcp.initIpport self.refill.kernel calls ip port).2.1
    rw [initIpport_port] at ready
    simp only [front, List.head?_cons, Option.mem_def, Option.some.injEq, forall_eq']
    -- the calls in the order in which they are made
    split
    · rename_i failed
      exact iff_of_false (by simp) fun socketReady => failed (inits.2 socketReady.descriptor)
    · rename_i opened
      split
      · rename_i blocking
        exact iff_of_false (by simp) fun socketReady => blocking socketReady.nonblock
      · rename_i nonblock
        split
        · rename_i unready
          rw [Bool.and_eq_true, Bool.not_eq_true', ← Bool.not_eq_true, ready] at unready
          exact iff_of_false (by simp) fun socketReady => unready.2 (socketReady.listens unready.1)
        · rename_i listening
          rw [Bool.and_eq_true, Bool.not_eq_true', ← Bool.not_eq_true, ready] at listening
          refine iff_of_true rfl ⟨inits.1 (not_not.1 opened), not_not.1 nonblock, fun listens => ?_⟩
          exact not_not.1 fun unready => listening ⟨listens, unready⟩

/-- The thread starts with a pool of the configured size. -/
theorem WorkerInv.start (kernel : Kernel) {serverControls : Nat → CoServerControl} {upstreams : Nat → CoUpstream}
    {serverCount upstreamCount : Nat}
    (created : ∀ server, (serverControls server).curConnectionSize = 0 ∧
      (serverControls server).listening = false)
    (unused : ∀ upstream, (upstreams upstream).curConnectionSize = 0 ∧
      ∀ serverkey, (upstreams upstream).reuseConnections serverkey = [])
    (positive : 0 ≤ configuredConnections serverControls upstreams serverCount upstreamCount)
    (fits : configuredConnections serverControls upstreams serverCount upstreamCount ≤ 65535) :
    WorkerInv (fun server => (serverControls server).confServer) (fun upstream => (upstreams upstream).confUpstream)
      serverCount upstreamCount (configuredConnections serverControls upstreams serverCount upstreamCount + 3)
      { cycle := (runServerThread kernel serverControls upstreams serverCount upstreamCount).2 } := by
  have small : (configuredConnections serverControls upstreams serverCount upstreamCount).tdiv 4 ≤ 2147483644 := by
    rw [Int.tdiv_eq_ediv_of_nonneg positive]
    omega
  have started : (runServerThread kernel serverControls upstreams serverCount upstreamCount).1 = coOk := by
    unfold runServerThread initPool
    dsimp only
    rw [if_neg (not_lt.2 fits)]
    unfold expandConnections
    dsimp only
    have none : (fresh kernel serverControls upstreams).connectionPool.curConnectionSize = 0 := rfl
    rw [if_neg (by omega)]
  obtain ⟨pairs, pool, grown⟩ := initPool_inv kernel serverControls upstreams small started
  exact {
    accept := acceptInv_start pool grown.servers created
    upstream := UpstreamInv.start kernel serverControls unused small started
    sized := by
      show (runServerThread kernel serverControls upstreams serverCount
        upstreamCount).2.connectionPool.maxConnectionSize = _
      unfold runServerThread initPool
      dsimp only
      rw [maxSize_expandConnections, if_neg (not_lt.2 fits)]
    comm := Nat.zero_le 2
    listens := by simp
    placed := fun _ used => by cases used
    apart := fun _ _ mem => by cases mem }

/-- With at most five servers and a configuration that the pool can hold, nobody who may
    have a connection is refused one because the pool is empty: both `get_connection` succeed
    exactly where the calls on the socket pass their tests. -/
theorem pool_suffices (kernel : Kernel) {serverControls : Nat → CoServerControl} {upstreams : Nat → CoUpstream}
    {serverCount upstreamCount : Nat}
    (created : ∀ server, (serverControls server).curConnectionSize = 0 ∧
      (serverControls server).listening = false)
    (unused : ∀ upstream, (upstreams upstream).curConnectionSize = 0 ∧
      ∀ serverkey, (upstreams upstream).reuseConnections serverkey = [])
    (few : serverCount ≤ 5)
    (positive : ∀ server < serverCount, 1 ≤ (serverControls server).confServer.maxConnections)
    (digits : ∀ upstream < upstreamCount, 0 ≤ (upstreams upstream).confUpstream.maxConnections)
    (fits : configuredConnections serverControls upstreams serverCount upstreamCount ≤ 65535)
    {events : List WorkerEvent} {final : WorkerRun}
    (ran : events.foldlM (WorkerRun.step serverCount upstreamCount)
      { cycle := (runServerThread kernel serverControls upstreams serverCount upstreamCount).2 } = some final)
    (asks : final.MayAsk serverCount upstreamCount) :
    final.cycle.exhausted = false ∧
      (∀ calls now socketFd, ((final.cycle.getConnectionFd calls now socketFd).2).isSome = true ↔
        CoTCP.setNonblock calls = coOk) ∧
      ∀ calls now ip port listen,
        ((final.cycle.getConnectionIp calls now ip port listen).2).isSome = true ↔
          ∀ connection ∈ final.cycle.refill.connectionPool.freeConnections.head?,
            SocketReady (final.cycle.refill.objects connection).coTcp calls port listen := by
  have size := configuredConnections_eq serverControls upstreams serverCount upstreamCount
  have servers := Finset.sum_nonneg fun server mem =>
    (Int.zero_le_ofNat 1).trans (positive server (Finset.mem_range.1 mem))
  have upstreamSizes := Finset.sum_nonneg fun upstream mem => digits upstream (Finset.mem_range.1 mem)
  have start := WorkerInv.start kernel created unused (by omega) fits
  have inv := Lib.run_keeps (WorkerRun.step serverCount upstreamCount) _
    (fun _ _ _ inv stepped => inv.step stepped) start ran
  have room := inv.room positive digits asks
  have sized := inv.sized
  obtain ⟨pairs, pool⟩ : ∃ pairs, PoolInv final.cycle pairs final.inUse := inv.accept.pool
  have enough := pool.not_exhausted (by omega)
  exact ⟨enough, getConnectionFd_some enough, getConnectionIp_some enough⟩

/-- A thread with `serverCount` servers for one client each has started, and all of them
    have accepted it but the last one, whose client has come. -/
def lastClient (serverCount : Nat) : List WorkerEvent :=
  [.openComm { socket := -1 } 1 3, .openComm { socket := -1 } 1 4] ++
    (List.range serverCount).map (fun server => .server (.initServer server { socket := 10 + server } 1)) ++
    (List.range (serverCount - 1)).flatMap (fun server => [.server (.start server), .server (.limit server),
      .server (.accept server (.client { socket := -1 } 2 (20 + server)))]) ++
    [.server (.start (serverCount - 1)), .server (.limit (serverCount - 1))]

theorem pool_suffices_five : ∃ final, (lastClient 5).foldlM (WorkerRun.step 5 0)
      { cycle := (runServerThread {} oneClientServer (fun _ => {}) 5 0).2 } = some final ∧
    final.inUse.length = 11 ∧ final.cycle.exhausted = false := by
  have ran : ((lastClient 5).foldlM (WorkerRun.step 5 0)
      { cycle := (runServerThread {} oneClientServer (fun _ => {}) 5 0).2 }).map
        (fun final => (final.inUse.length, final.coroutine 4)) = some (11, .accepting 0 1) := by
    decide +kernel
  obtain ⟨final, ran, seen⟩ := Option.map_eq_some_iff.1 ran
  simp only [Prod.mk.injEq] at seen
  exact ⟨final, ran, seen.1, (pool_suffices {} (fun _ => ⟨rfl, rfl⟩) (fun _ => ⟨rfl, fun _ => rfl⟩) (by decide)
    (fun _ _ => le_refl _) (fun _ below => by omega) (by decide) ran
    (.inr (.inl ⟨4, by decide, .inr ⟨0, 1, .inl seen.2⟩⟩))).1⟩

/-- Six servers are too many: the last of their clients finds the pool empty. -/
theorem pool_short_six : ((lastClient 6).foldlM (WorkerRun.step 6 0)
    { cycle := (runServerThread {} oneClientServer (fun _ => {}) 6 0).2 }).map
      (fun final => (final.inUse.length, final.coroutine 5, final.cycle.exhausted)) =
    some (13, .accepting 0 1, true) := by
  decide +kernel

end CoCycle

end CoServer
