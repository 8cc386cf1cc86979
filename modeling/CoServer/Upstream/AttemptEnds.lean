import CoServer.Upstream.AddUpstream

/-! # The end of an attempt

An attempt of a sub-request ends in one of two ways: the sub-request leaves its
parent, or it goes on with another connection. -/

namespace CoServer

open CoCycle RequestRun

namespace RequestRun

/-- The cycle after the sub-request left its parent. -/
structure Removed (run : RequestRun) (upstreamRequest : Nat) (cycle : CoCycle) : Prop where
  allocated : cycle.allocatedRequests = run.cycle.allocatedRequests
  parent : cycle.requests run.request =
    (run.cycle.requests run.request).lose (run.cycle.requests upstreamRequest).requestId
  others : ∀ other, other ≠ run.request → other ≠ upstreamRequest →
    cycle.requests other = run.cycle.requests other
  destroyed : (cycle.requests upstreamRequest).destroyed = true
  delay : cycle.delayConnections = run.cycle.delayConnections ++
    if run.unfinished.length = 1 then [(run.connection, run.version)] else []

/-- The cycle after the sub-request was given another connection. -/
structure Retried (run : RequestRun) (upstreamRequest connection : Nat) (cycle : CoCycle) : Prop where
  allocated : cycle.allocatedRequests = run.cycle.allocatedRequests
  record : cycle.requests upstreamRequest =
    { run.cycle.requests upstreamRequest with
      retryTimes := (run.cycle.requests upstreamRequest).retryTimes + 1
      connection := some connection }
  others : ∀ other, other ≠ upstreamRequest → cycle.requests other = run.cycle.requests other
  delay : ∃ version, cycle.delayConnections = run.cycle.delayConnections ++ [(connection, version)]

/-- What the others had is as it was. -/
def SparesBut (run : RequestRun) (connections : List Nat) (thread : UpstreamRun) : Prop :=
  ∀ other ∈ run.thread.inUse, other ∉ connections → Spared run.thread thread other

/-- An attempt of the sub-request on the connection ended, and this is the run then. -/
inductive AttemptOutcome (conf : Nat → CoConfUpstreamLimits) (run : RequestRun)
    (upstreamRequest connection : Nat) : RequestRun → Prop where
  | removed (thread : UpstreamRun) (inv : UpstreamInv conf thread)
      (left : Removed run upstreamRequest thread.cycle)
      (spared : SparesBut run [connection] thread) :
      AttemptOutcome conf run upstreamRequest connection { run with
        thread
        unfinished := run.unfinished.erase upstreamRequest
        ended := run.ended ++ [⟨upstreamRequest, decide (upstreamRequest ∈ run.marked), true,
          (run.unfinished.erase upstreamRequest).length, decide (run.unfinished.length = 1)⟩] }
  | retried (thread : UpstreamRun) (retry : Nat) (inv : UpstreamInv conf thread)
      (again : (run.cycle.requests upstreamRequest).retryTimes <
        (conf (run.upstreamOf upstreamRequest)).retryMaxnum)
      (unmarked : upstreamRequest ∉ run.marked)
      (goesOn : Retried run upstreamRequest retry thread.cycle)
      (held : retry ∈ thread.held)
      (owner : (thread.cycle.objects retry).upstream = some (run.upstreamOf upstreamRequest))
      (unused : retry ≠ run.connection ∧ ∀ other ∈ run.thread.held, other ≠ connection →
        other ≠ retry)
      (spared : SparesBut run [connection, retry] thread) :
      AttemptOutcome conf run upstreamRequest connection { run with
        thread
        ended := run.ended ++
          [⟨upstreamRequest, false, false, run.unfinished.length, false⟩] }

end RequestRun

/-! ## The requests -/

section
variable {conf : Nat → CoConfUpstreamLimits} {run : RequestRun} {upstreamRequest connection : Nat}

/-- What the end of an attempt finds. -/
structure Attempt (conf : Nat → CoConfUpstreamLimits) (run : RequestRun)
    (upstreamRequest connection : Nat) : Prop where
  accounts : Accounts conf run
  unfinished : upstreamRequest ∈ run.unfinished
  sub : SubConnection run upstreamRequest connection

theorem Attempt.record (attempt : Attempt conf run upstreamRequest connection) :
    SubRequest conf run upstreamRequest :=
  attempt.accounts.ledger.sub upstreamRequest attempt.unfinished

theorem Attempt.apart (attempt : Attempt conf run upstreamRequest connection) :
    run.request ≠ upstreamRequest :=
  (attempt.accounts.ledger.addedBelow _ (attempt.accounts.ledger.added _ attempt.unfinished)).1

theorem Attempt.used (attempt : Attempt conf run upstreamRequest connection) :
    connection ∈ run.thread.inUse :=
  ((attempt.accounts.attached.inv.accounted connection).held attempt.sub.held).1

/-- The entry that wakes the parent is queued for the last sub-request. -/
theorem Attempt.wakeParent (attempt : Attempt conf run upstreamRequest connection) {cycle : CoCycle}
    (parent : cycle.requests run.request = run.cycle.requests run.request)
    (version : (cycle.objects run.connection).version = run.version) :
    cycle.wakeParent run.request run.connection =
      if run.unfinished.length = 1 then [(run.connection, run.version)] else [] := by
  have counted := attempt.accounts.ledger.count
  unfold CoCycle.wakeParent
  rw [parent, version, counted]
  by_cases last : run.unfinished.length = 1
  · rw [if_pos last, if_pos (by omega)]
  · rw [if_neg last, if_neg (by omega)]

/-- `upstream_finalize_request`, whatever the sub-request lived through before. -/
theorem Attempt.finalizeRequest (attempt : Attempt conf run upstreamRequest connection)
    {cycle : CoCycle} {retryTimes : Int} {last : Option Nat}
    (requests : cycle.requests = Function.update run.cycle.requests upstreamRequest
      { run.cycle.requests upstreamRequest with retryTimes, connection := last })
    (allocated : cycle.allocatedRequests = run.cycle.allocatedRequests)
    (delay : cycle.delayConnections = run.cycle.delayConnections)
    (version : (cycle.objects run.connection).version = run.version) :
    Removed run upstreamRequest (cycle.upstreamFinalizeRequest upstreamRequest) ∧
      RequestsOnly cycle (cycle.upstreamFinalizeRequest upstreamRequest) ∧
      ((cycle.upstreamFinalizeRequest upstreamRequest).requests upstreamRequest).connection = last := by
  have apart := attempt.apart
  have record : cycle.requests upstreamRequest =
      { run.cycle.requests upstreamRequest with retryTimes, connection := last } := by
    rw [requests, Function.update_self]
  have others : ∀ other, other ≠ upstreamRequest →
      cycle.requests other = run.cycle.requests other := by
    intro other notSub
    rw [requests, Function.update_of_ne notSub]
  have parentRecord := others run.request apart
  have connected := (congrArg CoRequest.connection parentRecord).trans
    attempt.accounts.ledger.connected
  have after := upstreamFinalizeRequest_eq
    ((congrArg CoRequest.detach record).trans attempt.record.attached)
    ((congrArg CoRequest.parent record).trans attempt.record.parent) apart connected
  refine ⟨?_, ⟨_, _, _, _, after⟩, ?_⟩ <;> rw [after]
  · refine ⟨allocated, ?_, ?_, ?_, ?_⟩
    · refine (Function.update_of_ne apart _ _).trans ((Function.update_self _ _ _).trans ?_)
      rw [parentRecord, record]
    · intro other notParent notSub
      exact (Function.update_of_ne notSub _ _).trans ((Function.update_of_ne notParent _ _).trans
        (others other notSub))
    · simp
    · show cycle.delayConnections ++ _ = _
      rw [delay, attempt.wakeParent parentRecord version]
  · simp [record]

theorem RequestRun.Removed.keep {cycle after : CoCycle} (left : Removed run upstreamRequest cycle)
    (kept : KeepsRequests cycle after) : Removed run upstreamRequest after := by
  obtain ⟨requests, allocated, -, delay⟩ := kept
  refine ⟨allocated.trans left.allocated, ?_, ?_, ?_, delay.trans left.delay⟩ <;> rw [requests]
  · exact left.parent
  · exact left.others
  · exact left.destroyed

/-! ## What is noted -/

variable {upstream timestamp : Nat} {retCode : Int} {get : GetCalls}

theorem endAttempt_removed (left : Removed run upstreamRequest
      (run.cycle.upstreamFinalize upstreamRequest connection upstream retCode timestamp get)) :
    run.endAttempt upstreamRequest connection upstream retCode timestamp get =
      { run with
        thread := (run.endAttempt upstreamRequest connection upstream retCode timestamp get).thread
        unfinished := run.unfinished.erase upstreamRequest
        ended := run.ended ++ [⟨upstreamRequest, decide (upstreamRequest ∈ run.marked), true,
          (run.unfinished.erase upstreamRequest).length, decide (run.unfinished.length = 1)⟩] } := by
  have woken : decide ((run.connection, run.version) ∈
      (run.cycle.upstreamFinalize upstreamRequest connection upstream retCode timestamp
        get).delayConnections.drop run.cycle.delayConnections.length) =
      decide (run.unfinished.length = 1) := by
    rw [left.delay, List.drop_left]
    by_cases last : run.unfinished.length = 1
    · simp [last]
    · simp [last]
  unfold endAttempt
  dsimp only
  rw [left.destroyed, woken]
  rfl

theorem endAttempt_retried {retry : Nat} (alive : (run.cycle.requests upstreamRequest).destroyed = false)
    (unmarked : upstreamRequest ∉ run.marked) (apart : retry ≠ run.connection)
    (goesOn : Retried run upstreamRequest retry
      (run.cycle.upstreamFinalize upstreamRequest connection upstream retCode timestamp get)) :
    run.endAttempt upstreamRequest connection upstream retCode timestamp get =
      { run with
        thread := (run.endAttempt upstreamRequest connection upstream retCode timestamp get).thread
        ended := run.ended ++
          [⟨upstreamRequest, false, false, run.unfinished.length, false⟩] } := by
  have woken : decide ((run.connection, run.version) ∈
      (run.cycle.upstreamFinalize upstreamRequest connection upstream retCode timestamp
        get).delayConnections.drop run.cycle.delayConnections.length) = false := by
    obtain ⟨version, delay⟩ := goesOn.delay
    rw [delay, List.drop_left]
    simp [apart.symm]
  have notDestroyed : ((run.cycle.upstreamFinalize upstreamRequest connection upstream retCode
      timestamp get).requests upstreamRequest).destroyed = false := by
    rw [goesOn.record]
    exact alive
  unfold endAttempt
  dsimp only
  rw [notDestroyed, woken, decide_eq_false unmarked]
  rfl

/-! ## No retry -/

theorem Attempt.finished (attempt : Attempt conf run upstreamRequest connection)
    (noRetry : run.cycle.needRetry upstreamRequest connection upstream retCode = false) :
    AttemptOutcome conf run upstreamRequest connection
      (run.endAttempt upstreamRequest connection upstream retCode timestamp get) := by
  have inv := attempt.accounts.attached.inv
  obtain ⟨left, only, -⟩ := attempt.finalizeRequest (Function.update_eq_self _ _).symm rfl rfl rfl
  have ends : run.cycle.upstreamFinalize upstreamRequest connection upstream retCode timestamp get =
      (run.cycle.upstreamFinalizeRequest upstreamRequest).freeUpstreamConnection connection retCode
        timestamp := by
    unfold upstreamFinalize
    rw [noRetry]
    rfl
  have kept : Removed run upstreamRequest
      (run.cycle.upstreamFinalize upstreamRequest connection upstream retCode timestamp get) := by
    rw [ends]
    exact left.keep (keepsRequests_freeUpstreamConnection _ _ _ _)
  have thread : (run.endAttempt upstreamRequest connection upstream retCode timestamp get).thread =
      run.thread.gaveBack ((run.cycle.upstreamFinalizeRequest upstreamRequest).freeUpstreamConnection
        connection retCode timestamp) connection := by
    unfold endAttempt
    dsimp only
    rw [noRetry, ends]
    rfl
  have before : UpstreamInv conf
      { run.thread with cycle := run.cycle.upstreamFinalizeRequest upstreamRequest } :=
    inv.keep (only.keepsPool _) only.keepsOwners
  rw [endAttempt_removed kept]
  refine .removed _ ?_ ?_ ?_
  · rw [thread]
    exact before.giveBack attempt.sub.held retCode timestamp
  · rw [thread]
    exact ends ▸ kept
  · rw [thread]
    intro other used apart
    have first : Spared run.thread
        { run.thread with cycle := run.cycle.upstreamFinalizeRequest upstreamRequest } other :=
      .of_object (congrFun only.objects other)
    exact first.trans (before.giveBack_spared attempt.used used
      (fun same => apart (List.mem_singleton.2 same)) retCode timestamp)

/-! ## Retries -/

/-- The cycle in which a retry looks for a connection. -/
def retryCycle (cycle : CoCycle) (upstreamRequest connection : Nat) (retCode : Int) (timestamp : Nat) :
    CoCycle :=
  (cycle.freeUpstreamConnection connection retCode timestamp).modifyRequest upstreamRequest
    fun object => { object with retryTimes := object.retryTimes + 1 }

/-- The run in which it does. -/
def retryRun (run : RequestRun) (upstreamRequest connection : Nat) (retCode : Int) (timestamp : Nat) :
    UpstreamRun :=
  { run.thread.gaveBack (run.cycle.freeUpstreamConnection connection retCode timestamp) connection with
    cycle := retryCycle run.cycle upstreamRequest connection retCode timestamp }

theorem Attempt.beforeRetry (attempt : Attempt conf run upstreamRequest connection) (retCode : Int)
    (timestamp : Nat) : UpstreamInv conf (retryRun run upstreamRequest connection retCode timestamp) ∧
      SparesBut run [connection] (retryRun run upstreamRequest connection retCode timestamp) := by
  have inv := attempt.accounts.attached.inv
  have freed := inv.giveBack attempt.sub.held retCode timestamp
  have only : RequestsOnly (run.cycle.freeUpstreamConnection connection retCode timestamp)
      (retryCycle run.cycle upstreamRequest connection retCode timestamp) := ⟨_, _, _, _, rfl⟩
  refine ⟨freed.keep (only.keepsPool _) only.keepsOwners, fun other used apart => ?_⟩
  have spared := inv.giveBack_spared attempt.used used (fun same => apart (List.mem_singleton.2 same))
    retCode timestamp
  exact spared.trans (.of_object (congrFun only.objects other))

theorem retryCycle_requests (run : RequestRun) (upstreamRequest connection : Nat) (retCode : Int)
    (timestamp : Nat) :
    (retryCycle run.cycle upstreamRequest connection retCode timestamp).requests =
      Function.update run.cycle.requests upstreamRequest
        { run.cycle.requests upstreamRequest with
          retryTimes := (run.cycle.requests upstreamRequest).retryTimes + 1 } := by
  have kept := keepsRequests_freeUpstreamConnection run.cycle connection retCode timestamp
  unfold retryCycle modifyRequest
  dsimp only
  rw [kept.requests]

/-- The connection of the request is neither given back nor handed out. -/
theorem Attempt.notConnection (attempt : Attempt conf run upstreamRequest connection) :
    run.connection ≠ connection :=
  fun same => attempt.accounts.attached.notHeld (same ▸ attempt.sub.held)

/-- What a search for a connection leaves of the requests. -/
theorem retryCycle_found {cycle : CoCycle} {found : Option Nat}
    (got : (retryCycle run.cycle upstreamRequest connection retCode timestamp).getUpstreamConnection
      (some upstream) get = (cycle, found)) :
    cycle.requests = Function.update run.cycle.requests upstreamRequest
        { run.cycle.requests upstreamRequest with
          retryTimes := (run.cycle.requests upstreamRequest).retryTimes + 1 } ∧
      cycle.allocatedRequests = run.cycle.allocatedRequests ∧
      cycle.delayConnections = run.cycle.delayConnections := by
  have freed := keepsRequests_freeUpstreamConnection run.cycle connection retCode timestamp
  have kept := keepsRequests_getUpstreamConnection
    (retryCycle run.cycle upstreamRequest connection retCode timestamp) (some upstream) get
  rw [got] at kept
  exact ⟨kept.requests.trans (retryCycle_requests ..), kept.allocated.trans freed.allocated,
    kept.delay.trans freed.delay⟩

theorem upstreamFinalize_retry
    (retries : run.cycle.needRetry upstreamRequest connection upstream retCode = true) :
    run.cycle.upstreamFinalize upstreamRequest connection upstream retCode timestamp get =
      match (retryCycle run.cycle upstreamRequest connection retCode timestamp).getUpstreamConnection
        (some upstream) get with
      | (cycle, none) => (cycle.modifyRequest upstreamRequest fun object =>
          { object with connection := none }).upstreamFinalizeRequest upstreamRequest
      | (cycle, some retry) => (cycle.resetConnection upstreamRequest retry).pushDelay retry := by
  unfold upstreamFinalize retryUpstream
  rw [retries]
  rfl

theorem Attempt.unfound (attempt : Attempt conf run upstreamRequest connection)
    (retries : run.cycle.needRetry upstreamRequest connection upstream retCode = true)
    (allowed : get.Allowed (run.cycle.freeUpstreamConnection connection retCode timestamp) upstream)
    {cycle : CoCycle}
    (got : (retryCycle run.cycle upstreamRequest connection retCode timestamp).getUpstreamConnection
      (some upstream) get = (cycle, none)) :
    AttemptOutcome conf run upstreamRequest connection
      (run.endAttempt upstreamRequest connection upstream retCode timestamp get) := by
  have attached := attempt.accounts.attached
  obtain ⟨before, sparedBefore⟩ := attempt.beforeRetry retCode timestamp
  obtain ⟨inv, others⟩ := before.getNone allowed got
  obtain ⟨requests, allocated, delay⟩ := retryCycle_found got
  have spared : SparesBut run [connection] { retryRun run upstreamRequest connection retCode
      timestamp with cycle } := by
    intro other used apart
    have first := sparedBefore other used apart
    exact first.trans (.of_object (others other (first.used used)))
  have dropped : (cycle.modifyRequest upstreamRequest fun object =>
      { object with connection := none }).requests = Function.update run.cycle.requests upstreamRequest
        { run.cycle.requests upstreamRequest with
          retryTimes := (run.cycle.requests upstreamRequest).retryTimes + 1, connection := none } := by
    unfold modifyRequest
    dsimp only
    rw [requests, Function.update_idem, Function.update_self]
  have version := (spared run.connection attached.used
    fun same => attempt.notConnection (List.mem_singleton.1 same)).same.version
  obtain ⟨left, only, lost⟩ := attempt.finalizeRequest dropped allocated delay version
  have ends := @upstreamFinalize_retry run upstreamRequest connection upstream timestamp retCode get
    retries
  rw [got] at ends
  have only := RequestsOnly.trans ⟨_, _, _, _, rfl⟩ only
  have thread : (run.endAttempt upstreamRequest connection upstream retCode timestamp get).thread =
      { retryRun run upstreamRequest connection retCode timestamp with
        cycle := run.cycle.upstreamFinalize upstreamRequest connection upstream retCode timestamp
          get } := by
    unfold endAttempt
    dsimp only
    rw [if_pos retries, ends, lost]
    rfl
  rw [endAttempt_removed (ends ▸ left)]
  refine .removed _ ?_ ?_ ?_
  · rw [thread, ends]
    exact inv.keep (only.keepsPool _) only.keepsOwners
  · rw [thread]
    exact ends ▸ left
  · rw [thread, ends]
    intro other used apart
    exact (spared other used apart).trans (.of_object (congrFun only.objects other))

/-- A retry comes only to a sub-request that its parent did not mark, and not too often. -/
theorem Attempt.retries (attempt : Attempt conf run upstreamRequest connection)
    (retries : run.cycle.needRetry upstreamRequest connection upstream retCode = true) :
    upstreamRequest ∉ run.marked ∧
      (run.cycle.requests upstreamRequest).retryTimes < (conf upstream).retryMaxnum := by
  have configured := attempt.accounts.attached.inv.configured upstream
  unfold needRetry at retries
  simp only [Bool.and_eq_true, Bool.not_eq_true', decide_eq_true_eq] at retries
  obtain ⟨⟨unmarked, -⟩, again⟩ := retries
  refine ⟨fun mark => ?_, ?_⟩
  · cases unmarked.symm.trans (attempt.sub.marked mark)
  · exact configured ▸ again

theorem Attempt.found (attempt : Attempt conf run upstreamRequest connection)
    (retries : run.cycle.needRetry upstreamRequest connection upstream retCode = true)
    (allowed : get.Allowed (run.cycle.freeUpstreamConnection connection retCode timestamp) upstream)
    (owner : upstream = run.upstreamOf upstreamRequest) {cycle : CoCycle} {retry : Nat}
    (got : (retryCycle run.cycle upstreamRequest connection retCode timestamp).getUpstreamConnection
      (some upstream) get = (cycle, some retry)) :
    AttemptOutcome conf run upstreamRequest connection
      (run.endAttempt upstreamRequest connection upstream retCode timestamp get) := by
  have attached := attempt.accounts.attached
  obtain ⟨unmarked, again⟩ := attempt.retries retries
  obtain ⟨before, sparedBefore⟩ := attempt.beforeRetry retCode timestamp
  have handed := before.getSome allowed got
  obtain ⟨requests, allocated, delay⟩ := retryCycle_found got
  have only : RequestsOnly (cycle.bindRequest retry upstreamRequest)
      ((cycle.resetConnection upstreamRequest retry).pushDelay retry) := ⟨_, _, _, _, rfl⟩
  have ends := @upstreamFinalize_retry run upstreamRequest connection upstream timestamp retCode get
    retries
  rw [got] at ends
  have goesOn : Retried run upstreamRequest retry
      ((cycle.resetConnection upstreamRequest retry).pushDelay retry) := by
    have after : ((cycle.resetConnection upstreamRequest retry).pushDelay retry).requests =
        Function.update cycle.requests upstreamRequest
          { cycle.requests upstreamRequest with connection := some retry } := rfl
    refine ⟨allocated, ?_, ?_, (cycle.bindRequest retry upstreamRequest).objects retry |>.version, ?_⟩
    · rw [after, requests, Function.update_self, Function.update_self]
    · intro other apart
      rw [after, requests, Function.update_of_ne apart, Function.update_of_ne apart]
    · rw [← delay]
      rfl
  have thread : (run.endAttempt upstreamRequest connection upstream retCode timestamp get).thread =
      (retryRun run upstreamRequest connection retCode timestamp).hand
        ((cycle.resetConnection upstreamRequest retry).pushDelay retry) retry := by
    have connected : (((cycle.resetConnection upstreamRequest retry).pushDelay retry).requests
        upstreamRequest).connection = some retry := by
      rw [goesOn.record]
    unfold endAttempt
    dsimp only
    rw [if_pos retries, ends]
    dsimp only
    rw [connected]
    rfl
  -- a connection in use by somebody is not handed out
  have unused : retry ≠ run.connection := by
    rintro rfl
    have spared := sparedBefore run.connection attached.used
      fun same => attempt.notConnection (List.mem_singleton.1 same)
    obtain ⟨-, -, owned⟩ := handed.unbusy (spared.used attached.used)
    rw [spared.same.upstream, show (run.thread.cycle.objects run.connection).upstream = none from
      attached.client] at owned
    cases owned
  have apart : ∀ other ∈ run.thread.held, other ≠ connection → other ≠ retry := by
    intro other held notFreed
    have spared := sparedBefore other ((attached.inv.accounted other).held held).1
      fun same => notFreed (List.mem_singleton.1 same)
    exact handed.apart before (spared.held held)
  rw [endAttempt_retried attempt.record.alive unmarked unused (ends ▸ goesOn)]
  refine .retried _ retry ?_ (owner ▸ again) unmarked ?_ ?_ ?_ ⟨unused, apart⟩ ?_ <;> rw [thread]
  · exact handed.hand only
  · exact goesOn
  · exact List.mem_cons_self
  · exact owner ▸ handed.hand_owner only
  · intro other used notAmong
    have first := sparedBefore other used
      fun same => notAmong (List.mem_cons.2 (.inl (List.mem_singleton.1 same)))
    exact first.trans (handed.hand_spared only (first.used used)
      fun same => notAmong (same ▸ List.mem_cons_of_mem _ List.mem_cons_self))

theorem Attempt.outcome (attempt : Attempt conf run upstreamRequest connection)
    (owner : (run.cycle.objects connection).upstream = some upstream)
    (allowed : get.Allowed (run.cycle.freeUpstreamConnection connection retCode timestamp) upstream) :
    AttemptOutcome conf run upstreamRequest connection
      (run.endAttempt upstreamRequest connection upstream retCode timestamp get) := by
  cases retries : run.cycle.needRetry upstreamRequest connection upstream retCode with
  | false => exact attempt.finished retries
  | true =>
    generalize got : (retryCycle run.cycle upstreamRequest connection retCode
      timestamp).getUpstreamConnection (some upstream) get = outcome
    obtain ⟨cycle, result⟩ := outcome
    cases result with
    | none => exact attempt.unfound retries allowed got
    | some retry =>
      exact attempt.found retries allowed (Option.some.inj (owner.symm.trans attempt.sub.owner)) got

/-! ## The accounts afterwards -/

theorem attempts_ended {next : RequestRun} {attempt : AttemptEnd}
    (ended : next.ended = run.ended ++ [attempt]) (other : Nat) :
    next.attempts other = run.attempts other + if attempt.request = other then 1 else 0 := by
  unfold attempts
  rw [ended, List.countP_append, List.countP_singleton]
  simp only [beq_iff_eq]

theorem removals_ended {next : RequestRun} {attempt : AttemptEnd}
    (ended : next.ended = run.ended ++ [attempt]) (other : Nat) :
    next.removals other = run.removals other +
      if attempt.request = other ∧ attempt.removed = true then 1 else 0 := by
  unfold removals
  rw [ended, List.countP_append, List.countP_singleton]
  simp only [Bool.and_eq_true, beq_iff_eq]

theorem Attempt.ledger_removed (attempt : Attempt conf run upstreamRequest connection)
    {thread : UpstreamRun} (left : Removed run upstreamRequest thread.cycle) :
    Ledger conf { run with
      thread
      unfinished := run.unfinished.erase upstreamRequest
      ended := run.ended ++ [⟨upstreamRequest, decide (upstreamRequest ∈ run.marked), true,
        (run.unfinished.erase upstreamRequest).length, decide (run.unfinished.length = 1)⟩] } := by
  have ledger := attempt.accounts.ledger
  have mem := attempt.unfinished
  have fewer : (run.unfinished.erase upstreamRequest).length + 1 = run.unfinished.length := by
    have := List.length_pos_of_mem mem
    rw [List.length_erase_of_mem mem]
    omega
  have rest : ∀ other, other ∈ run.unfinished.erase upstreamRequest ↔
      other ≠ upstreamRequest ∧ other ∈ run.unfinished := fun _ => ledger.nodup.mem_erase_iff
  -- only the record of this sub-request and that of its parent change
  have record : ∀ other ∈ run.unfinished, other ≠ upstreamRequest →
      thread.cycle.requests other = run.cycle.requests other := fun other old apart =>
    left.others other (ledger.addedBelow other (ledger.added other old)).1.symm apart
  refine ⟨?_, ?_, ?_, ?_, ledger.nodup.erase _, ?_, ?_, ?_, ?_, ?_, ?_, ?_, ledger.marks, ?_, ?_⟩
  · exact ledger.below.trans_eq left.allocated.symm
  · show (thread.cycle.requests run.request).count = _
    rw [left.parent]
    show (run.cycle.requests run.request).count - 1 = _
    -- the parent counts one sub-request less, and one less is unfinished
    rw [ledger.count, ← fewer]
    push_cast
    omega
  · show (thread.cycle.requests run.request).connection = _
    rw [left.parent]
    exact ledger.connected
  · show ∀ entry ∈ (thread.cycle.requests run.request).upstreamRequests,
      ∃ other ∈ run.unfinished.erase upstreamRequest,
        entry = ((thread.cycle.requests other).requestId, other)
    rw [left.parent]
    intro entry kept
    obtain ⟨before, notErased⟩ := List.mem_filter.1 kept
    obtain ⟨other, old, rfl⟩ := ledger.map entry before
    have apart : other ≠ upstreamRequest := by
      rintro rfl
      simp at notErased
    refine ⟨other, (rest other).2 ⟨apart, old⟩, ?_⟩
    rw [record other old apart]
  · exact fun other old => ledger.added other ((rest other).1 old).2
  · intro other old
    obtain ⟨apart, below⟩ := ledger.addedBelow other old
    exact ⟨apart, below.trans_eq left.allocated.symm⟩
  · intro other old
    obtain ⟨apart, before⟩ := (rest other).1 old
    refine (ledger.sub other before).keep (record other before apart) rfl rfl ?_
    rw [attempts_ended rfl, if_neg apart.symm, Nat.add_zero]
  · intro other old done
    show (thread.cycle.requests other).destroyed = true
    by_cases same : other = upstreamRequest
    · subst same
      exact left.destroyed
    · rw [left.others other (ledger.addedBelow other old).1.symm same]
      exact ledger.finished other old fun mem => done ((rest other).2 ⟨same, mem⟩)
  · intro other old
    rw [removals_ended rfl, ledger.removals other old]
    show _ = if other ∈ run.unfinished.erase upstreamRequest then 0 else 1
    by_cases same : upstreamRequest = other
    · subst same
      rw [if_pos mem, if_pos ⟨rfl, rfl⟩, if_neg fun still => ((rest _).1 still).1 rfl]
    · have notThis : ¬ (upstreamRequest = other ∧ true = true) := fun both => same both.1
      rw [if_neg notThis, Nat.add_zero]
      simp only [rest, ne_eq, Ne.symm same, not_false_eq_true, true_and]
  · intro other old
    rw [attempts_ended rfl]
    by_cases same : upstreamRequest = other
    · subst same
      -- the try that ends here was within the limit of tries
      have few := attempt.record.bounded
      rw [attempt.record.tries] at few
      rw [if_pos rfl]
      push_cast
      omega
    · rw [if_neg same, Nat.add_zero]
      exact ledger.attempts other old
  · intro ended here
    obtain old | isNew := List.mem_append.1 here
    · exact ledger.known ended old
    · cases List.mem_singleton.1 isNew
      exact ledger.added _ mem
  · intro ended here
    obtain old | isNew := List.mem_append.1 here
    · exact ledger.marked ended old
    · cases List.mem_singleton.1 isNew
      exact fun _ => rfl
  · intro ended here
    obtain old | isNew := List.mem_append.1 here
    · exact ledger.woken ended old
    · cases List.mem_singleton.1 isNew
      show decide (run.unfinished.length = 1) = ((run.unfinished.erase upstreamRequest).length == 0)
      rw [Bool.eq_iff_iff, decide_eq_true_iff, beq_iff_eq]
      omega

theorem Attempt.ledger_retried (attempt : Attempt conf run upstreamRequest connection)
    {thread : UpstreamRun} {retry : Nat}
    (again : (run.cycle.requests upstreamRequest).retryTimes <
      (conf (run.upstreamOf upstreamRequest)).retryMaxnum)
    (goesOn : Retried run upstreamRequest retry thread.cycle) :
    Ledger conf { run with
      thread
      ended := run.ended ++ [⟨upstreamRequest, false, false, run.unfinished.length, false⟩] } := by
  have ledger := attempt.accounts.ledger
  have parent := goesOn.others run.request attempt.apart
  have requestId : ∀ other, (thread.cycle.requests other).requestId =
      (run.cycle.requests other).requestId := by
    intro other
    by_cases same : other = upstreamRequest
    · rw [same, goesOn.record]
    · rw [goesOn.others other same]
  refine ⟨?_, ?_, ?_, ?_, ledger.nodup, ledger.added, ?_, ?_, ?_, ?_, ?_, ?_, ledger.marks, ?_, ?_⟩
  · exact ledger.below.trans_eq goesOn.allocated.symm
  · exact (congrArg CoRequest.count parent).trans ledger.count
  · exact (congrArg CoRequest.connection parent).trans ledger.connected
  · show ∀ entry ∈ (thread.cycle.requests run.request).upstreamRequests,
      ∃ other ∈ run.unfinished, entry = ((thread.cycle.requests other).requestId, other)
    rw [parent]
    intro entry kept
    obtain ⟨other, old, rfl⟩ := ledger.map entry kept
    refine ⟨other, old, ?_⟩
    rw [requestId]
  · intro other old
    obtain ⟨apart, below⟩ := ledger.addedBelow other old
    exact ⟨apart, below.trans_eq goesOn.allocated.symm⟩
  · intro other old
    by_cases same : other = upstreamRequest
    · subst same
      have record := attempt.record
      refine ⟨?_, ?_, ?_, ?_, ?_⟩
      · exact (congrArg CoRequest.parent goesOn.record).trans record.parent
      · exact (congrArg CoRequest.detach goesOn.record).trans record.attached
      · exact (congrArg CoRequest.destroyed goesOn.record).trans record.alive
      · refine (congrArg CoRequest.retryTimes goesOn.record).trans ?_
        rw [attempts_ended rfl, if_pos rfl, Nat.cast_add, ← record.tries]
        rfl
      · refine (congrArg CoRequest.retryTimes goesOn.record).trans_le ?_
        show (run.cycle.requests other).retryTimes + 1 ≤ max (conf (run.upstreamOf other)).retryMaxnum 0
        omega
    · refine (ledger.sub other old).keep (goesOn.others other same) rfl rfl ?_
      rw [attempts_ended rfl, if_neg (Ne.symm same), Nat.add_zero]
  · intro other old done
    have apart : other ≠ upstreamRequest := fun same => done (same ▸ attempt.unfinished)
    exact (congrArg CoRequest.destroyed (goesOn.others other apart)).trans
      (ledger.finished other old done)
  · intro other old
    rw [removals_ended rfl, if_neg fun both => nomatch both.2, Nat.add_zero]
    exact ledger.removals other old
  · intro other old
    rw [attempts_ended rfl]
    by_cases same : upstreamRequest = other
    · subst same
      have few := attempt.record.tries
      rw [if_pos rfl]
      push_cast
      omega
    · rw [if_neg same, Nat.add_zero]
      exact ledger.attempts other old
  · intro ended here
    obtain old | isNew := List.mem_append.1 here
    · exact ledger.known ended old
    · cases List.mem_singleton.1 isNew
      exact ledger.added _ attempt.unfinished
  · intro ended here
    obtain old | isNew := List.mem_append.1 here
    · exact ledger.marked ended old
    · cases List.mem_singleton.1 isNew
      exact fun marked => nomatch marked
  · intro ended here
    obtain old | isNew := List.mem_append.1 here
    · exact ledger.woken ended old
    · cases List.mem_singleton.1 isNew
      rfl

/-- A sub-request that is not the one whose attempt ended has another connection. -/
theorem Attempt.apart_sub (attempt : Attempt conf run upstreamRequest connection) {other found : Nat}
    (old : other ∈ run.unfinished) (apart : other ≠ upstreamRequest)
    (sub : SubConnection run other found) : found ≠ connection := by
  rintro rfl
  exact apart (attempt.accounts.attached.apart other old upstreamRequest attempt.unfinished
    (sub.connected.trans attempt.sub.connected.symm))

theorem Attempt.accounts_after (attempt : Attempt conf run upstreamRequest connection)
    {next : RequestRun} (outcome : AttemptOutcome conf run upstreamRequest connection next) :
    Accounts conf next := by
  have ledger := attempt.accounts.ledger
  have attached := attempt.accounts.attached
  have used : ∀ other, other ∈ run.thread.held → other ∈ run.thread.inUse := fun other held =>
    ((attached.inv.accounted other).held held).1
  have notParent : ∀ other ∈ run.unfinished, other ≠ run.request := fun other old =>
    (ledger.addedBelow other (ledger.added other old)).1.symm
  cases outcome with
  | removed thread inv left spared =>
    refine ⟨attempt.ledger_removed left, ?_⟩
    refine @Attached.reconnect _ _ attached _ upstreamRequest inv rfl rfl ?_ ?_ fun still => ?_
    · exact spared _ attached.used fun same => attempt.notConnection (List.mem_singleton.1 same)
    · intro other mem apart
      obtain ⟨-, old⟩ := ledger.nodup.mem_erase_iff.1 mem
      refine ⟨old, fun found sub => sub.spare ?_ ?_ rfl id⟩
      · exact spared found (used found sub.held)
          fun same => attempt.apart_sub old apart sub (List.mem_singleton.1 same)
      · exact congrArg CoRequest.connection (left.others other (notParent other old) apart)
    · exact absurd rfl (ledger.nodup.mem_erase_iff.1 still).1
  | retried thread retry inv again unmarked goesOn held owner unused spared =>
    obtain ⟨notRetry, othersApart⟩ := unused
    refine ⟨attempt.ledger_retried again goesOn, ?_⟩
    refine @Attached.reconnect _ _ attached _ upstreamRequest inv rfl rfl ?_ ?_
      fun _ => ⟨retry, ?_, ?_⟩
    · exact spared _ attached.used (by simp [attempt.notConnection, Ne.symm notRetry])
    · intro other old apart
      refine ⟨old, fun found sub => sub.spare ?_ ?_ rfl id⟩
      · have notFreed := attempt.apart_sub old apart sub
        exact spared found (used found sub.held) (by simp [notFreed, othersApart found sub.held notFreed])
      · exact congrArg CoRequest.connection (goesOn.others other apart)
    · exact ⟨congrArg CoRequest.connection goesOn.record, held, owner, fun mark => absurd mark unmarked⟩
    · intro other old apart sub
      exact othersApart retry sub.held (fun same => attempt.apart_sub old apart sub same) rfl

/-! ## The coroutine of the request -/

/-- The request itself is where it was. -/
theorem RequestRun.AttemptOutcome.spared {next : RequestRun}
    (outcome : AttemptOutcome conf run upstreamRequest connection next)
    (attempt : Attempt conf run upstreamRequest connection) : next.place = run.place ∧
      next.connection = run.connection ∧ Spared run.thread next.thread run.connection := by
  have used := attempt.accounts.attached.used
  cases outcome with
  | removed thread inv left spared =>
    exact ⟨rfl, rfl, spared _ used (by simp [attempt.notConnection])⟩
  | retried thread retry inv again unmarked goesOn held owner unused spared =>
    exact ⟨rfl, rfl, spared _ used (by simp [attempt.notConnection, Ne.symm unused.1])⟩

theorem RequestRun.AttemptOutcome.wakes {next : RequestRun}
    (outcome : AttemptOutcome conf run upstreamRequest connection next) : next.wakes = run.wakes := by
  cases outcome <;> rfl

end

end CoServer
