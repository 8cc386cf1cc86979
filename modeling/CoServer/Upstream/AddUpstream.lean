import CoServer.Upstream.RequestInvariant

/-! # A sub-request more

`add_upstream` may find no connection, or find that there is no protocol for it;
else the request has one more sub-request. -/

namespace CoServer

open CoCycle RequestRun

namespace RequestRun

/-- The cycle after the sub-request was added. -/
structure Added (run : RequestRun) (connection : Nat) (cycle : CoCycle) : Prop where
  allocated : cycle.allocatedRequests = run.cycle.allocatedRequests + 1
  record : cycle.requests run.cycle.allocatedRequests =
    { connection := some connection
      requestId := uint32 (sizeT (run.cycle.requestId + 1))
      count := 1
      parent := some run.request }
  parent : ∃ upstreamInfos, cycle.requests run.request =
    { run.cycle.requests run.request with upstreamInfos }.gain
      (uint32 (sizeT (run.cycle.requestId + 1))) run.cycle.allocatedRequests
  others : ∀ other, other ≠ run.request → other ≠ run.cycle.allocatedRequests →
    cycle.requests other = run.cycle.requests other

/-- `add_upstream` was called, with a connection and a protocol or without, and this is the
    run then. -/
inductive AddOutcome (conf : Nat → CoConfUpstreamLimits) (run : RequestRun) :
    Bool → RequestRun → Prop where
  | failed (thread : UpstreamRun) (inv : UpstreamInv conf thread) (spared : SparesAll run thread)
      (requests : thread.cycle.requests = run.cycle.requests)
      (allocated : run.cycle.allocatedRequests ≤ thread.cycle.allocatedRequests) :
      AddOutcome conf run false { run with thread }
  | added (thread : UpstreamRun) (upstream connection : Nat) (inv : UpstreamInv conf thread)
      (spared : SparesAll run thread) (added : Added run connection thread.cycle)
      (held : connection ∈ thread.held)
      (owner : (thread.cycle.objects connection).upstream = some upstream)
      (unused : ∀ other ∈ run.thread.held, other ≠ connection) :
      AddOutcome conf run true { run with
        thread
        added := run.added ++ [run.cycle.allocatedRequests]
        unfinished := run.unfinished ++ [run.cycle.allocatedRequests]
        upstreamOf := Function.update run.upstreamOf run.cycle.allocatedRequests upstream }

end RequestRun

section
variable {conf : Nat → CoConfUpstreamLimits} {run : RequestRun} {thread : UpstreamRun}

/-- An attempt of a sub-request that does not exist yet has not ended. -/
theorem Ledger.attempts_new (ledger : Ledger conf run) :
    run.attempts run.cycle.allocatedRequests = 0 := by
  refine List.countP_eq_zero.2 fun attempt mem isNew => ?_
  have below := (ledger.addedBelow _ (ledger.known attempt mem)).2
  rw [eq_of_beq isNew] at below
  exact absurd below (lt_irrefl _)

theorem Ledger.removals_new (ledger : Ledger conf run) :
    run.removals run.cycle.allocatedRequests = 0 := by
  refine List.countP_eq_zero.2 fun attempt mem isNew => ?_
  have below := (ledger.addedBelow _ (ledger.known attempt mem)).2
  rw [eq_of_beq (Bool.and_eq_true_iff.1 isNew).1] at below
  exact absurd below (lt_irrefl _)

theorem Ledger.add (ledger : Ledger conf run) {connection : Nat}
    (added : Added run connection thread.cycle) (upstream : Nat) :
    Ledger conf { run with
      thread
      added := run.added ++ [run.cycle.allocatedRequests]
      unfinished := run.unfinished ++ [run.cycle.allocatedRequests]
      upstreamOf := Function.update run.upstreamOf run.cycle.allocatedRequests upstream } := by
  obtain ⟨allocated, record, ⟨upstreamInfos, parent⟩, others⟩ := added
  have older : ∀ other ∈ run.added, other ≠ run.cycle.allocatedRequests :=
    fun other mem => (ledger.addedBelow other mem).2.ne
  have fresh : run.cycle.allocatedRequests ∉ run.added := fun mem => older _ mem rfl
  -- the older sub-requests keep their records
  have kept : ∀ other ∈ run.added, thread.cycle.requests other = run.cycle.requests other :=
    fun other mem => others other (ledger.addedBelow other mem).1.symm (older other mem)
  refine ⟨?_, ?_, ?_, ?_, ?_, ?_, ?_, ?_, ?_, ?_, ?_, ?_, ?_, ledger.marked, ledger.woken⟩
  · show run.request < thread.cycle.allocatedRequests
    have below := ledger.below
    omega
  · show (thread.cycle.requests run.request).count = _
    rw [parent, List.length_append]
    show (run.cycle.requests run.request).count + 1 = _
    rw [ledger.count]
    push_cast
    rw [List.length_singleton]
    omega
  · show (thread.cycle.requests run.request).connection = _
    rw [parent]
    exact ledger.connected
  · show ∀ entry ∈ (thread.cycle.requests run.request).upstreamRequests,
      ∃ upstreamRequest ∈ run.unfinished ++ [run.cycle.allocatedRequests],
        entry = ((thread.cycle.requests upstreamRequest).requestId, upstreamRequest)
    rw [parent]
    intro entry mem
    obtain old | isNew := List.mem_append.1 mem
    · obtain ⟨upstreamRequest, unfinished, rfl⟩ := ledger.map entry (List.mem_filter.1 old).1
      refine ⟨upstreamRequest, List.mem_append_left _ unfinished, ?_⟩
      rw [kept upstreamRequest (ledger.added upstreamRequest unfinished)]
    · cases List.mem_singleton.1 isNew
      refine ⟨_, List.mem_append_right _ List.mem_cons_self, ?_⟩
      rw [record]
  · refine List.nodup_append.2 ⟨ledger.nodup, List.nodup_singleton _, ?_⟩
    rintro old unfinished _ isNew rfl
    exact fresh (List.mem_singleton.1 isNew ▸ ledger.added old unfinished)
  · intro upstreamRequest mem
    obtain old | isNew := List.mem_append.1 mem
    · exact List.mem_append_left _ (ledger.added upstreamRequest old)
    · exact List.mem_append_right _ isNew
  · intro upstreamRequest mem
    show run.request ≠ upstreamRequest ∧ upstreamRequest < thread.cycle.allocatedRequests
    have below := ledger.below
    obtain old | isNew := List.mem_append.1 mem
    · obtain ⟨apart, before⟩ := ledger.addedBelow upstreamRequest old
      exact ⟨apart, by omega⟩
    · cases List.mem_singleton.1 isNew
      exact ⟨by omega, by omega⟩
  · intro upstreamRequest mem
    obtain old | isNew := List.mem_append.1 mem
    · have before := ledger.added upstreamRequest old
      exact (ledger.sub upstreamRequest old).keep (kept upstreamRequest before) rfl
        (Function.update_of_ne (older upstreamRequest before) _ _) rfl
    · cases List.mem_singleton.1 isNew
      -- a new record has not been tried
      refine ⟨?_, ?_, ?_, ?_, ?_⟩
      · exact congrArg CoRequest.parent record
      · exact congrArg CoRequest.detach record
      · exact congrArg CoRequest.destroyed record
      · exact (congrArg CoRequest.retryTimes record).trans
          (congrArg Nat.cast ledger.attempts_new).symm
      · exact (congrArg CoRequest.retryTimes record).trans_le (le_max_right _ _)
  · intro upstreamRequest mem done
    obtain old | isNew := List.mem_append.1 mem
    · exact (congrArg CoRequest.destroyed (kept upstreamRequest old)).trans
        (ledger.finished upstreamRequest old fun mem => done (List.mem_append_left _ mem))
    · exact absurd (List.mem_append_right _ isNew) done
  · intro upstreamRequest mem
    show run.removals upstreamRequest =
      if upstreamRequest ∈ run.unfinished ++ [run.cycle.allocatedRequests] then 0 else 1
    obtain old | isNew := List.mem_append.1 mem
    · rw [ledger.removals upstreamRequest old]
      simp [older upstreamRequest old]
    · cases List.mem_singleton.1 isNew
      rw [ledger.removals_new, if_pos (List.mem_append_right _ List.mem_cons_self)]
  · intro upstreamRequest mem
    show (run.attempts upstreamRequest : Int) ≤ max (conf (Function.update run.upstreamOf
      run.cycle.allocatedRequests upstream upstreamRequest)).retryMaxnum 0 + 1
    obtain old | isNew := List.mem_append.1 mem
    · rw [Function.update_of_ne (older upstreamRequest old)]
      exact ledger.attempts upstreamRequest old
    · cases List.mem_singleton.1 isNew
      rw [ledger.attempts_new]
      omega
  · exact fun attempt mem => List.mem_append_left _ (ledger.known attempt mem)
  · exact fun upstreamRequest mem => List.mem_append_left _ (ledger.marks upstreamRequest mem)

/-- The connection of a sub-request that is spared keeps being its connection. -/
theorem Attached.apartFrom (attached : Attached conf run) {upstream connection : Nat} {cycle : CoCycle}
    (got : Got conf run.thread upstream cycle connection) :
    run.connection ≠ connection ∧ ∀ other ∈ run.thread.held, other ≠ connection := by
  refine ⟨?_, fun other held => got.apart attached.inv held⟩
  intro same
  exact attached.busy (same ▸ got.unbusy (same ▸ attached.used))

theorem Accounts.addUpstream_none (accounts : Accounts conf run) {upstream : Nat} {get : GetCalls}
    (allowed : get.Allowed run.cycle upstream) {cycle : CoCycle}
    (got : run.cycle.getUpstreamConnection (some upstream) get = (cycle, none)) :
    AddOutcome conf run false (run.withCycle cycle) := by
  obtain ⟨inv, others⟩ := accounts.attached.inv.getNone allowed got
  have kept := keepsRequests_getUpstreamConnection run.cycle (some upstream) get
  rw [got] at kept
  refine .failed _ inv ⟨.of_object (others _ accounts.attached.used), ?_⟩ kept.requests
    kept.allocated.ge
  intro _ _ connection held _
  exact .of_object (others connection ((accounts.attached.inv.accounted connection).held held).1)

/-- The connection is given back when there is no protocol for it. -/
theorem Accounts.addUpstream_failed (accounts : Accounts conf run) {upstream connection : Nat}
    {get : GetCalls} (allowed : get.Allowed run.cycle upstream) {cycle : CoCycle}
    (got : run.cycle.getUpstreamConnection (some upstream) get = (cycle, some connection))
    (timestamp : Nat) {thread : UpstreamRun}
    (freed : thread = ({ run.thread with cycle }.take connection).gaveBack
      (cycle.freeUpstreamConnection connection coError timestamp) connection) :
    AddOutcome conf run false { run with thread } := by
  subst freed
  have attached := accounts.attached
  have handed := attached.inv.getSome allowed got
  have requests := keepsRequests_getUpstreamConnection run.cycle (some upstream) get
  rw [got] at requests
  have freed := requests.trans (keepsRequests_freeUpstreamConnection cycle connection coError timestamp)
  obtain ⟨apart, others⟩ := attached.apartFrom handed
  have held : connection ∈ ({ run.thread with cycle }.take connection).held := List.mem_cons_self
  have used := ((handed.inv.accounted connection).held held).1
  have spared : ∀ other ∈ run.thread.inUse, other ≠ connection →
      Spared run.thread (({ run.thread with cycle }.take connection).gaveBack
        (cycle.freeUpstreamConnection connection coError timestamp) connection) other := by
    intro other otherUsed otherApart
    have first := handed.spared otherUsed otherApart
    exact first.trans (handed.inv.giveBack_spared used (first.used otherUsed) otherApart _ _)
  refine .failed _ (handed.inv.giveBack held coError timestamp)
    ⟨spared _ attached.used apart, fun _ _ other otherHeld _ => ?_⟩ freed.requests freed.allocated.ge
  exact spared other ((attached.inv.accounted other).held otherHeld).1 (others other otherHeld)

theorem addRequest_requestsOnly {cycle : CoCycle} {request : Nat}
    (below : request < cycle.allocatedRequests) (connection : Nat) :
    RequestsOnly (cycle.bindRequest connection cycle.allocatedRequests)
      (cycle.addRequest request connection) :=
  ⟨_, _, _, _, addRequest_eq below connection⟩

theorem added_addRequest {cycle : CoCycle} (requests : cycle.requests = run.cycle.requests)
    (allocated : cycle.allocatedRequests = run.cycle.allocatedRequests)
    (requestId : cycle.requestId = run.cycle.requestId)
    (below : run.request < run.cycle.allocatedRequests) (connection : Nat) :
    Added run connection (cycle.addRequest run.request connection) := by
  have isNew : run.cycle.allocatedRequests ≠ run.request := below.ne'
  have below : run.request < cycle.allocatedRequests := allocated ▸ below
  have after := addRequest_eq below connection
  rw [allocated] at after
  rw [after]
  refine ⟨rfl, ?_, ⟨(run.cycle.requests run.request).upstreamInfos + 1, ?_⟩, ?_⟩
  · refine (Function.update_of_ne isNew _ _).trans ((Function.update_self _ _ _).trans ?_)
    rw [newUpstream, requestId]
  · refine (Function.update_self _ _ _).trans ?_
    rw [newParent, requests, allocated, requestId]
  · intro other notParent notNew
    rw [← requests]
    exact (Function.update_of_ne notParent _ _).trans (Function.update_of_ne notNew _ _)

theorem Accounts.addUpstream_ok (accounts : Accounts conf run) {upstream connection : Nat}
    {get : GetCalls} (allowed : get.Allowed run.cycle upstream) {cycle : CoCycle}
    (got : run.cycle.getUpstreamConnection (some upstream) get = (cycle, some connection)) :
    AddOutcome conf run true { run with
      thread := run.thread.hand (cycle.addRequest run.request connection) connection
      added := run.added ++ [run.cycle.allocatedRequests]
      unfinished := run.unfinished ++ [run.cycle.allocatedRequests]
      upstreamOf := Function.update run.upstreamOf run.cycle.allocatedRequests upstream } := by
  obtain ⟨ledger, attached⟩ := accounts
  have handed := attached.inv.getSome allowed got
  obtain ⟨apart, others⟩ := attached.apartFrom handed
  have kept := keepsRequests_getUpstreamConnection run.cycle (some upstream) get
  rw [got] at kept
  obtain ⟨requests, allocated, requestId, -⟩ := kept
  have only := addRequest_requestsOnly (allocated ▸ ledger.below : run.request < cycle.allocatedRequests)
    connection
  refine .added _ upstream connection (handed.hand only) ⟨handed.hand_spared only attached.used apart, ?_⟩
    (added_addRequest requests allocated requestId ledger.below connection) List.mem_cons_self
    (handed.hand_owner only) others
  intro _ _ other held _
  exact handed.hand_spared only ((attached.inv.accounted other).held held).1 (others other held)

/-- Whatever `add_upstream` finds, it has one of the two outcomes. -/
theorem Accounts.addUpstream_cases (accounts : Accounts conf run) {upstream : Option Nat}
    {get : GetCalls} (allowed : ∀ found ∈ upstream, get.Allowed run.cycle found) (protocol : Bool)
    (timestamp : Nat) : AddOutcome conf run
      (protocol && (run.cycle.getUpstreamConnection upstream get).2.isSome)
      (run.addUpstream upstream get protocol timestamp) := by
  unfold RequestRun.addUpstream CoCycle.addUpstream
  cases upstream with
  | none =>
    rw [show (run.cycle.getUpstreamConnection none get).2.isSome = false from rfl, Bool.and_false]
    exact .failed run.thread accounts.attached.inv
      ⟨.of_object rfl, fun _ _ _ _ _ => .of_object rfl⟩ rfl le_rfl
  | some upstream =>
    have allowed := allowed upstream rfl
    dsimp only
    generalize got : run.cycle.getUpstreamConnection (some upstream) get = outcome
    obtain ⟨cycle, result⟩ := outcome
    cases result with
    | none =>
      rw [Option.isSome_none, Bool.and_false]
      exact accounts.addUpstream_none allowed got
    | some connection =>
      cases protocol with
      | true => exact accounts.addUpstream_ok allowed got
      | false => exact accounts.addUpstream_failed allowed got timestamp rfl

theorem Accounts.add (accounts : Accounts conf run) {connected : Bool} {next : RequestRun}
    (outcome : AddOutcome conf run connected next) : Accounts conf next := by
  cases outcome with
  | failed thread inv spared requests allocated =>
    exact accounts.spare inv spared requests allocated
  | added thread upstream connection inv spared added held owner unused =>
    obtain ⟨ledger, attached⟩ := accounts
    have older : ∀ other ∈ run.added, other ≠ run.request ∧ other ≠ run.cycle.allocatedRequests :=
      fun other mem => ⟨(ledger.addedBelow other mem).1.symm, (ledger.addedBelow other mem).2.ne⟩
    refine ⟨ledger.add added upstream, ?_⟩
    refine @Attached.reconnect conf run attached _ run.cycle.allocatedRequests inv rfl rfl
      spared.connection ?_ fun _ => ⟨connection, ?_, ?_⟩
    · intro other mem notNew
      have old : other ∈ run.unfinished :=
        (List.mem_append.1 mem).resolve_right fun isNew => notNew (List.mem_singleton.1 isNew)
      obtain ⟨notParent, notAllocated⟩ := older other (ledger.added other old)
      refine ⟨old, fun found sub => sub.spare ?_ ?_ ?_ id⟩
      · exact spared.held other old found sub.held sub.connected
      · exact congrArg CoRequest.connection (added.others other notParent notAllocated)
      · exact Function.update_of_ne notNew _ _
    · refine ⟨congrArg CoRequest.connection added.record, held, ?_, fun mark => ?_⟩
      · refine owner.trans ?_
        exact congrArg some (Function.update_self run.cycle.allocatedRequests upstream
          run.upstreamOf).symm
      · exact absurd rfl (older _ (ledger.marks _ mark)).2
    · exact fun other _ _ sub => unused connection sub.held rfl

/-- The request itself is where it was. -/
theorem RequestRun.AddOutcome.spared {connected : Bool} {next : RequestRun}
    (outcome : AddOutcome conf run connected next) : next.place = run.place ∧
      next.connection = run.connection ∧ Spared run.thread next.thread run.connection := by
  cases outcome with
  | failed thread inv spared => exact ⟨rfl, rfl, spared.connection⟩
  | added thread upstream connection inv spared => exact ⟨rfl, rfl, spared.connection⟩

theorem RequestRun.AddOutcome.wakes {connected : Bool} {next : RequestRun}
    (outcome : AddOutcome conf run connected next) : next.wakes = run.wakes := by
  cases outcome <;> rfl

end

end CoServer
