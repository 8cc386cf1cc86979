import CoServer.Upstream.RequestRun

/-! # The accounts of a request

Every step keeps the books of the request, which speak about requests only, and
the connections of its sub-requests, which speak about the thread. -/

namespace CoServer

open CoCycle
open CoConnection (UpToRegistration)

namespace RequestRun

/-! ## The parts of the invariant -/

/-- How often an attempt of the sub-request ended. -/
def attempts (self : RequestRun) (upstreamRequest : Nat) : Nat :=
  self.ended.countP fun attempt => attempt.request == upstreamRequest

/-- How often the sub-request was removed from its parent. -/
def removals (self : RequestRun) (upstreamRequest : Nat) : Nat :=
  self.ended.countP fun attempt => attempt.request == upstreamRequest && attempt.removed

end RequestRun

open RequestRun

/-- A sub-request that is not finished. -/
structure SubRequest (conf : Nat → CoConfUpstreamLimits) (run : RequestRun) (upstreamRequest : Nat) :
    Prop where
  parent : (run.cycle.requests upstreamRequest).parent = some run.request
  attached : (run.cycle.requests upstreamRequest).detach = false
  alive : (run.cycle.requests upstreamRequest).destroyed = false
  tries : (run.cycle.requests upstreamRequest).retryTimes = run.attempts upstreamRequest
  bounded : (run.cycle.requests upstreamRequest).retryTimes ≤
    max (conf (run.upstreamOf upstreamRequest)).retryMaxnum 0

/-- The books: they are about requests, whatever becomes of the connections. -/
structure Ledger (conf : Nat → CoConfUpstreamLimits) (run : RequestRun) : Prop where
  below : run.request < run.cycle.allocatedRequests
  count : (run.cycle.requests run.request).count = 1 + run.unfinished.length
  connected : (run.cycle.requests run.request).connection = some run.connection
  map : ∀ entry ∈ (run.cycle.requests run.request).upstreamRequests,
    ∃ upstreamRequest ∈ run.unfinished,
      entry = ((run.cycle.requests upstreamRequest).requestId, upstreamRequest)
  nodup : run.unfinished.Nodup
  added : ∀ upstreamRequest ∈ run.unfinished, upstreamRequest ∈ run.added
  addedBelow : ∀ upstreamRequest ∈ run.added,
    run.request ≠ upstreamRequest ∧ upstreamRequest < run.cycle.allocatedRequests
  sub : ∀ upstreamRequest ∈ run.unfinished, SubRequest conf run upstreamRequest
  finished : ∀ upstreamRequest ∈ run.added, upstreamRequest ∉ run.unfinished →
    (run.cycle.requests upstreamRequest).destroyed = true
  removals : ∀ upstreamRequest ∈ run.added,
    run.removals upstreamRequest = if upstreamRequest ∈ run.unfinished then 0 else 1
  attempts : ∀ upstreamRequest ∈ run.added, (run.attempts upstreamRequest : Int) ≤
    max (conf (run.upstreamOf upstreamRequest)).retryMaxnum 0 + 1
  known : ∀ attempt ∈ run.ended, attempt.request ∈ run.added
  marks : ∀ upstreamRequest ∈ run.marked, upstreamRequest ∈ run.added
  marked : ∀ attempt ∈ run.ended, attempt.marked = true → attempt.removed = true
  woken : ∀ attempt ∈ run.ended, attempt.woken = (attempt.removed && attempt.left == 0)

/-- The connection of a sub-request that is not finished. -/
structure SubConnection (run : RequestRun) (upstreamRequest connection : Nat) : Prop where
  connected : (run.cycle.requests upstreamRequest).connection = some connection
  held : connection ∈ run.thread.held
  owner : (run.cycle.objects connection).upstream = some (run.upstreamOf upstreamRequest)
  marked : upstreamRequest ∈ run.marked → (run.cycle.objects connection).flagParentDying = true

structure Attached (conf : Nat → CoConfUpstreamLimits) (run : RequestRun) : Prop where
  inv : UpstreamInv conf run.thread
  used : run.connection ∈ run.thread.inUse
  client : (run.cycle.objects run.connection).upstream = none
  bound : (run.cycle.objects run.connection).request = some run.request
  connections : ∀ upstreamRequest ∈ run.unfinished,
    ∃ connection, SubConnection run upstreamRequest connection
  apart : ∀ first ∈ run.unfinished, ∀ second ∈ run.unfinished,
    (run.cycle.requests first).connection = (run.cycle.requests second).connection → first = second

/-! ## Steps that the accounts do not notice -/

/-- No request is touched; flags of connections may change, but no mark is lost. -/
structure Calm (run : RequestRun) (cycle : CoCycle) : Prop where
  pool : KeepsPool run.thread.inUse run.cycle cycle
  owners : KeepsOwners run.cycle cycle
  requests : cycle.requests = run.cycle.requests
  allocated : run.cycle.allocatedRequests ≤ cycle.allocatedRequests
  bound : (cycle.objects run.connection).request = (run.cycle.objects run.connection).request
  version : (cycle.objects run.connection).version = (run.cycle.objects run.connection).version
  marks : ∀ connection ∈ run.thread.held, (run.cycle.objects connection).flagParentDying = true →
    (cycle.objects connection).flagParentDying = true

section
variable {conf : Nat → CoConfUpstreamLimits} {run : RequestRun} {cycle after : CoCycle}

theorem Calm.refl (run : RequestRun) : Calm run run.cycle :=
  ⟨.refl _ _, .refl _, rfl, le_refl _, rfl, rfl, fun _ _ flag => flag⟩

theorem Calm.trans (first : Calm run cycle) (second : Calm (run.withCycle cycle) after) :
    Calm run after :=
  ⟨first.pool.trans second.pool, first.owners.trans second.owners,
    second.requests.trans first.requests, first.allocated.trans second.allocated,
    second.bound.trans first.bound, second.version.trans first.version,
    fun connection held flag => second.marks connection held (first.marks connection held flag)⟩

theorem SubRequest.keep {next : RequestRun} {upstreamRequest : Nat}
    (sub : SubRequest conf run upstreamRequest)
    (same : next.cycle.requests upstreamRequest = run.cycle.requests upstreamRequest)
    (request : next.request = run.request)
    (upstreamOf : next.upstreamOf upstreamRequest = run.upstreamOf upstreamRequest)
    (attempts : next.attempts upstreamRequest = run.attempts upstreamRequest) :
    SubRequest conf next upstreamRequest := by
  refine ⟨?_, ?_, ?_, ?_, ?_⟩
  · rw [same, request]
    exact sub.parent
  · rw [same]
    exact sub.attached
  · rw [same]
    exact sub.alive
  · rw [same, attempts]
    exact sub.tries
  · rw [same, upstreamOf]
    exact sub.bounded

/-- The books do not care whether the request is destroyed. -/
theorem Ledger.records (ledger : Ledger conf run) {thread : UpstreamRun} {destroyed : Bool}
    (parent : thread.cycle.requests run.request = { run.cycle.requests run.request with destroyed })
    (others : ∀ other, other ≠ run.request → thread.cycle.requests other = run.cycle.requests other)
    (allocated : run.cycle.allocatedRequests ≤ thread.cycle.allocatedRequests) (place : Place) :
    Ledger conf { run with thread, place } := by
  have record : ∀ upstreamRequest ∈ run.added,
      thread.cycle.requests upstreamRequest = run.cycle.requests upstreamRequest :=
    fun upstreamRequest mem => others _ (ledger.addedBelow upstreamRequest mem).1.symm
  refine { ledger with
    below := ledger.below.trans_le allocated, count := ?_, connected := ?_, map := ?_,
    addedBelow := ?_, sub := ?_, finished := ?_ }
  · exact (congrArg CoRequest.count parent).trans ledger.count
  · exact (congrArg CoRequest.connection parent).trans ledger.connected
  · show ∀ entry ∈ (thread.cycle.requests run.request).upstreamRequests,
      ∃ upstreamRequest ∈ run.unfinished,
        entry = ((thread.cycle.requests upstreamRequest).requestId, upstreamRequest)
    rw [parent]
    intro entry mem
    obtain ⟨upstreamRequest, unfinished, rfl⟩ := ledger.map entry mem
    refine ⟨upstreamRequest, unfinished, ?_⟩
    rw [record upstreamRequest (ledger.added upstreamRequest unfinished)]
  · intro upstreamRequest mem
    obtain ⟨apart, below⟩ := ledger.addedBelow upstreamRequest mem
    exact ⟨apart, below.trans_le allocated⟩
  · exact fun upstreamRequest mem => (ledger.sub upstreamRequest mem).keep
      (record upstreamRequest (ledger.added upstreamRequest mem)) rfl rfl rfl
  · exact fun upstreamRequest mem done => (congrArg CoRequest.destroyed
      (record upstreamRequest mem)).trans (ledger.finished upstreamRequest mem done)

/-- The books do not care for the connections. -/
theorem Ledger.thread (ledger : Ledger conf run) {thread : UpstreamRun}
    (requests : thread.cycle.requests = run.cycle.requests)
    (allocated : run.cycle.allocatedRequests ≤ thread.cycle.allocatedRequests) :
    Ledger conf { run with thread } :=
  ledger.records (congrFun requests run.request) (fun other _ => congrFun requests other) allocated
    run.place

theorem Ledger.calm (ledger : Ledger conf run) (calm : Calm run cycle) :
    Ledger conf (run.withCycle cycle) :=
  ledger.thread calm.requests calm.allocated

theorem Attached.calm (attached : Attached conf run) (calm : Calm run cycle) :
    Attached conf (run.withCycle cycle) := by
  refine ⟨attached.inv.keep calm.pool calm.owners, attached.used, ?_, ?_, ?_, ?_⟩
  · exact (calm.owners.objects run.connection).upstream.trans attached.client
  · exact calm.bound.trans attached.bound
  · intro upstreamRequest mem
    obtain ⟨connection, connected, held, owner, marked⟩ := attached.connections upstreamRequest mem
    refine ⟨connection, ?_, held, ?_, ?_⟩
    · exact (congrArg CoRequest.connection (congrFun calm.requests upstreamRequest)).trans connected
    · exact (calm.owners.objects connection).upstream.trans owner
    · exact fun mark => calm.marks connection held (marked mark)
  · show ∀ first ∈ run.unfinished, ∀ second ∈ run.unfinished,
      (cycle.requests first).connection = (cycle.requests second).connection → first = second
    rw [calm.requests]
    exact attached.apart

/-- Taking note of the marks that are there. -/
theorem Attached.mark (attached : Attached conf run) : Attached conf run.mark := by
  refine { attached with connections := fun upstreamRequest mem => ?_ }
  obtain ⟨connection, connected, held, owner, marked⟩ := attached.connections upstreamRequest mem
  refine ⟨connection, connected, held, owner, fun mark => ?_⟩
  obtain before | now := List.mem_append.1 mark
  · exact marked before
  · have dying := (List.mem_filter.1 now).2
    unfold parentDying at dying
    rw [connected] at dying
    exact dying

theorem Ledger.mark (ledger : Ledger conf run) : Ledger conf run.mark := by
  refine { ledger with
    sub := fun upstreamRequest mem => (ledger.sub upstreamRequest mem).keep rfl rfl rfl rfl
    marks := fun upstreamRequest mem => ?_ }
  obtain before | now := List.mem_append.1 mem
  · exact ledger.marks upstreamRequest before
  · exact ledger.added upstreamRequest (List.mem_filter.1 now).1

/-- Where the coroutine is and what wakes it is not in the books. -/
theorem Ledger.elsewhere (ledger : Ledger conf run) (place : Place) (waitResumes : List (Nat × Nat))
    (wakes : List (Wait × Waker)) : Ledger conf { run with place, waitResumes, wakes } :=
  { ledger with
    sub := fun upstreamRequest mem => (ledger.sub upstreamRequest mem).keep rfl rfl rfl rfl }

theorem Attached.elsewhere (attached : Attached conf run) (place : Place)
    (waitResumes : List (Nat × Nat)) (wakes : List (Wait × Waker)) :
    Attached conf { run with place, waitResumes, wakes } :=
  { attached with
    connections := fun upstreamRequest mem => by
      obtain ⟨connection, sub⟩ := attached.connections upstreamRequest mem
      exact ⟨connection, sub.connected, sub.held, sub.owner, sub.marked⟩ }

/-- The books and the connections together. -/
structure Accounts (conf : Nat → CoConfUpstreamLimits) (run : RequestRun) : Prop where
  ledger : Ledger conf run
  attached : Attached conf run

theorem Accounts.calm (accounts : Accounts conf run) (calm : Calm run cycle) :
    Accounts conf (run.withCycle cycle) :=
  ⟨accounts.ledger.calm calm, accounts.attached.calm calm⟩

theorem Accounts.mark (accounts : Accounts conf run) : Accounts conf run.mark :=
  ⟨accounts.ledger.mark, accounts.attached.mark⟩

theorem Accounts.elsewhere (accounts : Accounts conf run) (place : Place)
    (waitResumes : List (Nat × Nat)) (wakes : List (Wait × Waker)) :
    Accounts conf { run with place, waitResumes, wakes } :=
  ⟨accounts.ledger.elsewhere place waitResumes wakes,
    accounts.attached.elsewhere place waitResumes wakes⟩

end

/-! ## Flags -/

/-- Only flags and timers change, and no mark of a parent is lost. -/
structure FlagsOnly (a b : CoConnection) : Prop where
  place : CoConnection.SamePlace a b
  owner : SameOwner a b
  coTcp : b.coTcp = a.coTcp
  request : b.request = a.request
  version : b.version = a.version
  parentDying : a.flagParentDying = true → b.flagParentDying = true

section
variable {conf : Nat → CoConfUpstreamLimits} {run : RequestRun} {cycle : CoCycle}

theorem unowned_of_sameOwner {a b : CoConnection} (same : SameOwner a b) (unowned : Unowned a) :
    Unowned b :=
  ⟨same.serverControl.trans unowned.serverControl, same.upstream.trans unowned.upstream,
    same.requestCount.trans unowned.requestCount, same.handlerCleanups.trans unowned.handlerCleanups⟩

theorem Calm.modifyObject (calm : Calm run cycle) (connection : Nat) {f : CoConnection → CoConnection}
    (flags : FlagsOnly (cycle.objects connection) (f (cycle.objects connection))) :
    Calm run (cycle.modifyObject connection f) := by
  refine calm.trans ⟨?_, keepsOwners_modifyObject cycle connection f flags.owner, rfl, le_refl _, ?_,
    ?_, ?_⟩
  · exact keepsPool_modifyObject _ _ connection f flags.place
      (fun _ => congrArg CoTCP.socketfd flags.coTcp) fun _ => unowned_of_sameOwner flags.owner
  · by_cases same : run.connection = connection
    · subst same
      exact (congrArg CoConnection.request (modifyObject_same _ _ _)).trans flags.request
    · exact congrArg CoConnection.request (modifyObject_other _ _ _ _ same)
  · by_cases same : run.connection = connection
    · subst same
      exact (congrArg CoConnection.version (modifyObject_same _ _ _)).trans flags.version
    · exact congrArg CoConnection.version (modifyObject_other _ _ _ _ same)
  · intro other _ flag
    by_cases same : other = connection
    · subst same
      rw [modifyObject_same]
      exact flags.parentDying flag
    · rw [modifyObject_other _ _ _ _ same]
      exact flag

theorem Calm.pushDelay (calm : Calm run cycle) (connection : Nat) :
    Calm run (cycle.pushDelay connection) :=
  calm.trans ⟨keepsPool_pushDelay _ _ connection, ⟨rfl, rfl, fun _ => .refl _⟩, rfl, le_refl _, rfl, rfl,
    fun _ _ flag => flag⟩

theorem Calm.markDying (calm : Calm run cycle) (connection : Nat) :
    Calm run (cycle.markDying connection) :=
  calm.modifyObject connection ⟨⟨rfl, rfl, rfl, rfl⟩, ⟨rfl, rfl, rfl, rfl, rfl⟩, rfl, rfl, rfl, id⟩

theorem Calm.markBlockDying (calm : Calm run cycle) (connection : Nat) :
    Calm run (cycle.markBlockDying connection) := by
  unfold CoCycle.markBlockDying
  split
  · exact calm.markDying _
  · exact calm

theorem Calm.killUpstream (calm : Calm run cycle) (upstreamRequest : Nat) :
    Calm run (cycle.killUpstream upstreamRequest) := by
  unfold CoCycle.killUpstream
  split
  · exact calm
  · exact (calm.modifyObject _ ⟨⟨rfl, rfl, rfl, rfl⟩, ⟨rfl, rfl, rfl, rfl, rfl⟩, rfl, rfl, rfl,
      fun _ => rfl⟩).pushDelay _

theorem Calm.killUpstreams (calm : Calm run cycle) (upstreamRequests : List (Nat × Nat)) :
    Calm run (cycle.killUpstreams upstreamRequests) := by
  unfold CoCycle.killUpstreams
  induction upstreamRequests generalizing cycle with
  | nil => exact calm
  | cons entry rest ih => exact ih (calm.killUpstream entry.2)

/-- A connection with a request is not freed by its exception. -/
theorem Calm.eventException (calm : Calm run cycle) {connection : Nat} {request : Nat}
    (bound : (cycle.objects connection).request = some request) (timestamp : Nat) :
    Calm run (cycle.eventException connection timestamp).2 := by
  unfold CoCycle.eventException
  dsimp only
  split
  · exact calm
  · split
    · exact calm.markDying connection
    · split
      · exact (calm.markDying connection).markBlockDying connection
      · rw [bound]
        dsimp only
        split
        · exact (calm.markDying connection).killUpstreams _
        · exact calm.markDying connection

/-! ## The coroutine -/

/-- The block connection of a connection in use is not in use itself. -/
theorem Attached.block (attached : Attached conf run) : ∃ blockConn,
    (run.cycle.objects run.connection).blockConn = some blockConn ∧
    blockConn ∉ run.thread.inUse ∧ (run.cycle.objects blockConn).flagBlockConn = true := by
  obtain ⟨pairs, pool⟩ := attached.inv.pool
  obtain ⟨k, below, isMain⟩ := pool.used_main attached.used
  refine ⟨2 * k + 1, ?_, ?_, ?_⟩
  · rw [isMain]
    exact (pool.layout.main k below).blockConn
  · intro used
    obtain ⟨j, -, isOther⟩ := pool.used_main used
    omega
  · exact (pool.layout.block k below).flagBlockConn

theorem Attached.notHeld (attached : Attached conf run) : run.connection ∉ run.thread.held := by
  intro held
  obtain ⟨-, _, _, owner, -⟩ := (attached.inv.accounted run.connection).held held
  cases attached.client.symm.trans owner

theorem Calm.resetBlock (calm : Calm run cycle) (attached : Attached conf run) :
    Calm run (cycle.resetBlock run.connection) := by
  obtain ⟨blockConn, owned, notUsed, ofBlock⟩ := attached.block
  have ownedNow : (cycle.objects run.connection).blockConn = some blockConn :=
    (calm.pool.places run.connection).blockConn.trans owned
  have apart : run.connection ≠ blockConn := fun same => notUsed (same ▸ attached.used)
  have unchanged : ∀ other, other ≠ blockConn →
      (cycle.resetBlock run.connection).objects other = cycle.objects other := by
    intro other apart
    rw [resetBlock_owned ownedNow]
    exact modifyObject_other _ _ _ _ apart
  refine calm.trans ⟨keepsPool_resetBlock _ _ _ ?_, keepsOwners_resetBlock _ _,
    (keepsRequests_resetBlock _ _).requests, (keepsRequests_resetBlock _ _).allocated.ge, ?_, ?_, ?_⟩
  · intro found isBlock
    cases ownedNow.symm.trans isBlock
    exact (calm.pool.places blockConn).flagBlockConn.trans ofBlock
  · exact congrArg CoConnection.request (unchanged _ apart)
  · exact congrArg CoConnection.version (unchanged _ apart)
  · intro other held flag
    have used := ((attached.inv.accounted other).held held).1
    rw [unchanged other fun same => notUsed (same ▸ used)]
    exact flag

theorem Calm.enterWait (calm : Calm run cycle) (wait : Wait) :
    Calm run (cycle.enterWait run.connection wait) := by
  unfold CoCycle.enterWait
  cases wait with
  | sleep | mutex | thirdSocket =>
    refine calm.modifyObject _ ?_
    exact ⟨⟨rfl, rfl, rfl, rfl⟩, ⟨rfl, rfl, rfl, rfl, rfl⟩, rfl, rfl, rfl, id⟩
  | runUpstreams | yielded | writing => exact calm

theorem Calm.leaveWait (calm : Calm run cycle) (attached : Attached conf run) (wait : Wait) :
    Calm run (cycle.leaveWait run.connection wait) := by
  unfold CoCycle.leaveWait
  cases wait with
  | sleep | mutex =>
    refine calm.modifyObject _ ?_
    exact ⟨⟨rfl, rfl, rfl, rfl⟩, ⟨rfl, rfl, rfl, rfl, rfl⟩, rfl, rfl, rfl, id⟩
  | thirdSocket =>
    refine Calm.resetBlock (calm.modifyObject run.connection ?_) attached
    exact ⟨⟨rfl, rfl, rfl, rfl⟩, ⟨rfl, rfl, rfl, rfl, rfl⟩, rfl, rfl, rfl, id⟩
  | runUpstreams | yielded | writing => exact calm

theorem Accounts.suspend (accounts : Accounts conf run) (wait : Wait) :
    Accounts conf (run.suspend wait) :=
  (accounts.calm ((Calm.refl run).enterWait wait)).elsewhere _ _ _

theorem Accounts.swapIn (accounts : Accounts conf run) (wait : Wait) (waker : Waker) :
    Accounts conf (run.swapIn wait waker) :=
  (accounts.calm ((Calm.refl run).leaveWait accounts.attached wait)).elsewhere _ _ _

theorem Accounts.dispatch (accounts : Accounts conf run) {timestamp : Nat} {waker : Waker}
    {next : RequestRun} (dispatched : run.dispatch timestamp waker = some next) :
    Accounts conf next := by
  have excepted := (accounts.calm
    ((Calm.refl run).eventException accounts.attached.bound timestamp)).mark
  unfold RequestRun.dispatch CoCycle.funcDispatcher at dispatched
  split at dispatched
  · dsimp only at dispatched
    split at dispatched
    · cases dispatched
      exact excepted.swapIn _ _
    · cases dispatched
      exact excepted
  all_goals cases dispatched

theorem Accounts.popped (accounts : Accounts conf run) {entry : Nat × Nat} {timestamp : Nat}
    {waker : Waker} {next : RequestRun} (popped : run.popped entry timestamp waker = some next) :
    Accounts conf next := by
  unfold RequestRun.popped at popped
  split at popped
  · exact accounts.dispatch popped
  · cases popped
    exact accounts

end

/-! ## Other connections come and go -/

section
variable {conf : Nat → CoConfUpstreamLimits} {run next : RequestRun} {thread : UpstreamRun}

theorem Attached.busy (attached : Attached conf run) : ¬ run.thread.Idle run.connection := by
  rintro ⟨-, -, owned⟩
  rw [show (run.thread.cycle.objects run.connection).upstream = none from attached.client] at owned
  cases owned

/-- What the request relies on is spared by a step of the thread. -/
structure SparesAll (run : RequestRun) (thread : UpstreamRun) : Prop where
  connection : Spared run.thread thread run.connection
  held : ∀ upstreamRequest ∈ run.unfinished, ∀ connection ∈ run.thread.held,
    (run.cycle.requests upstreamRequest).connection = some connection →
    Spared run.thread thread connection

theorem SubConnection.spare {upstreamRequest connection : Nat}
    (sub : SubConnection run upstreamRequest connection)
    (spared : Spared run.thread next.thread connection)
    (connected : (next.cycle.requests upstreamRequest).connection =
      (run.cycle.requests upstreamRequest).connection)
    (upstreamOf : next.upstreamOf upstreamRequest = run.upstreamOf upstreamRequest)
    (marked : upstreamRequest ∈ next.marked → upstreamRequest ∈ run.marked) :
    SubConnection next upstreamRequest connection := by
  obtain ⟨_, _, _, _, same⟩ := spared.same
  refine ⟨connected.trans sub.connected, spared.held sub.held, ?_, fun mark => ?_⟩
  · show (next.thread.cycle.objects connection).upstream = _
    rw [same, upstreamOf]
    exact sub.owner
  · show (next.thread.cycle.objects connection).flagParentDying = true
    rw [same]
    exact sub.marked (marked mark)

theorem Accounts.spare (accounts : Accounts conf run) (inv : UpstreamInv conf thread)
    (spared : SparesAll run thread) (requests : thread.cycle.requests = run.cycle.requests)
    (allocated : run.cycle.allocatedRequests ≤ thread.cycle.allocatedRequests) :
    Accounts conf { run with thread } := by
  obtain ⟨ledger, attached⟩ := accounts
  obtain ⟨_, _, _, _, same⟩ := spared.connection.same
  refine ⟨ledger.thread requests allocated, inv, spared.connection.used attached.used, ?_, ?_, ?_, ?_⟩
  · show (thread.cycle.objects run.connection).upstream = none
    rw [same]
    exact attached.client
  · show (thread.cycle.objects run.connection).request = _
    rw [same]
    exact attached.bound
  · intro upstreamRequest mem
    obtain ⟨connection, sub⟩ := attached.connections upstreamRequest mem
    exact ⟨connection, sub.spare (spared.held upstreamRequest mem connection sub.held sub.connected)
      (congrArg CoRequest.connection (congrFun requests upstreamRequest)) rfl id⟩
  · show ∀ first ∈ run.unfinished, ∀ second ∈ run.unfinished,
      (thread.cycle.requests first).connection = (thread.cycle.requests second).connection →
        first = second
    rw [requests]
    exact attached.apart

/-- One sub-request may come, go or change its connection; the others keep theirs. -/
theorem Attached.reconnect (attached : Attached conf run) {next : RequestRun} {upstreamRequest : Nat}
    (inv : UpstreamInv conf next.thread) (same : next.connection = run.connection)
    (sameRequest : next.request = run.request)
    (spared : Spared run.thread next.thread run.connection)
    (others : ∀ other ∈ next.unfinished, other ≠ upstreamRequest → other ∈ run.unfinished ∧
      ∀ connection, SubConnection run other connection → SubConnection next other connection)
    (changed : upstreamRequest ∈ next.unfinished → ∃ connection,
      SubConnection next upstreamRequest connection ∧
        ∀ other ∈ run.unfinished, other ≠ upstreamRequest →
          ¬ SubConnection run other connection) : Attached conf next := by
  obtain ⟨_, _, _, _, kept⟩ := spared.same
  -- the connection of another sub-request, before and after
  have old : ∀ other ∈ next.unfinished, other ≠ upstreamRequest → other ∈ run.unfinished ∧
      ∃ connection, SubConnection run other connection ∧ SubConnection next other connection := by
    intro other mem apart
    obtain ⟨before, keep⟩ := others other mem apart
    obtain ⟨connection, sub⟩ := attached.connections other before
    exact ⟨before, connection, sub, keep connection sub⟩
  have notNew : ∀ other ∈ next.unfinished, other ≠ upstreamRequest →
      upstreamRequest ∈ next.unfinished →
      (next.cycle.requests other).connection ≠ (next.cycle.requests upstreamRequest).connection := by
    intro other mem apart memNew joined
    obtain ⟨before, connection, sub, now⟩ := old other mem apart
    obtain ⟨new, subNew, none⟩ := changed memNew
    cases (now.connected.symm.trans joined).trans subNew.connected
    exact none other before apart sub
  refine ⟨inv, same ▸ spared.used attached.used, ?_, ?_, ?_, ?_⟩
  · rw [same]
    show (next.thread.cycle.objects run.connection).upstream = none
    rw [kept]
    exact attached.client
  · rw [same, sameRequest]
    show (next.thread.cycle.objects run.connection).request = _
    rw [kept]
    exact attached.bound
  · intro other mem
    by_cases isNew : other = upstreamRequest
    · subst isNew
      obtain ⟨connection, sub, -⟩ := changed mem
      exact ⟨connection, sub⟩
    · obtain ⟨-, connection, -, now⟩ := old other mem isNew
      exact ⟨connection, now⟩
  · intro first memFirst second memSecond joined
    by_cases isFirst : first = upstreamRequest <;> by_cases isSecond : second = upstreamRequest
    · exact isFirst.trans isSecond.symm
    · subst isFirst
      exact absurd joined.symm (notNew second memSecond isSecond memFirst)
    · subst isSecond
      exact absurd joined (notNew first memFirst isFirst memSecond)
    · obtain ⟨beforeFirst, connection, subFirst, nowFirst⟩ := old first memFirst isFirst
      obtain ⟨beforeSecond, other, subSecond, nowSecond⟩ := old second memSecond isSecond
      cases (nowFirst.connected.symm.trans joined).trans nowSecond.connected
      exact attached.apart first beforeFirst second beforeSecond
        (subFirst.connected.trans subSecond.connected.symm)

end

end CoServer
