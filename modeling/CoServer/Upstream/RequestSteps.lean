import CoServer.Upstream.AttemptEnds

/-! # What a step can do to a request

Its handler adds sub-requests, waits and returns; an attempt ends; and all else
that the thread does either leaves the coroutine where it is or resumes it. -/

namespace CoServer

open CoCycle RequestRun

namespace CoCycle

/-! ## The flag of a blocking function -/

section
variable (self : CoCycle) (connection other : Nat)

theorem modifyObject_blocking (f : CoConnection → CoConnection)
    (same : (f (self.objects connection)).flagThirdFuncBlocking =
      (self.objects connection).flagThirdFuncBlocking) :
    ((self.modifyObject connection f).objects other).flagThirdFuncBlocking =
      (self.objects other).flagThirdFuncBlocking := by
  by_cases isThis : other = connection
  · rw [isThis, modifyObject_same]
    exact same
  · rw [modifyObject_other _ _ _ _ isThis]

theorem markBlockDying_blocking :
    ((self.markBlockDying connection).objects other).flagThirdFuncBlocking =
      (self.objects other).flagThirdFuncBlocking := by
  unfold markBlockDying
  split
  · unfold markDying
    exact modifyObject_blocking _ _ _ _ rfl
  · rfl

theorem killUpstream_blocking (upstreamRequest : Nat) :
    ((self.killUpstream upstreamRequest).objects other).flagThirdFuncBlocking =
      (self.objects other).flagThirdFuncBlocking := by
  unfold killUpstream
  split
  · rfl
  · rename_i upstreamConnection _
    exact modifyObject_blocking self upstreamConnection other
      (fun object => { object with flagDying := true, flagParentDying := true }) rfl

theorem killUpstreams_blocking (upstreamRequests : List (Nat × Nat)) :
    ((self.killUpstreams upstreamRequests).objects other).flagThirdFuncBlocking =
      (self.objects other).flagThirdFuncBlocking := by
  unfold killUpstreams
  induction upstreamRequests generalizing self with
  | nil => rfl
  | cons entry rest ih => exact (ih _).trans (killUpstream_blocking self other entry.2)

end

end CoCycle

namespace RequestRun

/-- `m_flagThirdFuncBlocking` of the connection. -/
def blocking (self : RequestRun) : Bool :=
  (self.cycle.objects self.connection).flagThirdFuncBlocking

/-- One of the flags that make an exception. -/
def troubled (self : RequestRun) : Bool :=
  (self.cycle.objects self.connection).flagTimedOut ||
    (self.cycle.objects self.connection).flagPendingEof ||
    (self.cycle.objects self.connection).flagDying

/-- What a dispatch of the connection leaves before the coroutine goes on. -/
structure Excepted (run : RequestRun) (resumed : Bool) (cycle : CoCycle) : Prop where
  calm : Calm run cycle
  blocking : (cycle.objects run.connection).flagThirdFuncBlocking = run.blocking
  stays : resumed = false → run.blocking = true ∨ run.troubled = true ∧
    (run.cycle.requests run.request).upstreamRequests ≠ []
  untroubled : resumed = true → run.blocking = true → run.troubled = false

end RequestRun

section
variable {conf : Nat → CoConfUpstreamLimits} {run : RequestRun}

theorem Accounts.excepted (accounts : Accounts conf run) (timestamp : Nat) :
    Excepted run (run.cycle.funcDispatcher run.connection timestamp).1
      (run.cycle.funcDispatcher run.connection timestamp).2 := by
  have bound := accounts.attached.bound
  have dying := (Calm.refl run).markDying run.connection
  have marked : ((run.cycle.markDying run.connection).objects
      run.connection).flagThirdFuncBlocking = run.blocking := by
    unfold markDying
    exact modifyObject_blocking _ _ _ _ rfl
  have goesOn : (coOk != coException) = true := by decide
  have excepted : (coException != coException) = false := by decide
  unfold funcDispatcher eventException
  dsimp only
  split
  · rename_i fine
    exact ⟨.refl run, rfl, fun no => (nomatch goesOn.symm.trans no),
      fun _ _ => by simpa [troubled] using fine⟩
  · rename_i bad
    split
    · rename_i blocking
      exact ⟨dying, marked, fun _ => .inl blocking, fun yes => (nomatch excepted.symm.trans yes)⟩
    · rename_i unblocked
      split
      · refine ⟨dying.markBlockDying _, ?_, fun no => (nomatch goesOn.symm.trans no),
          fun _ blocking => absurd blocking unblocked⟩
        exact (markBlockDying_blocking _ _ _).trans marked
      · rw [bound]
        dsimp only
        split
        · rename_i hasUpstreams
          refine ⟨dying.killUpstreams _, ?_, fun _ => .inr ⟨?_, ?_⟩,
            fun _ blocking => absurd blocking unblocked⟩
          · exact (killUpstreams_blocking _ _ _).trans marked
          · cases troubled : run.troubled with
            | true => rfl
            | false => exact absurd (congrArg not troubled) bad
          · intro none
            rw [show ((run.cycle.markDying run.connection).requests run.request).upstreamRequests = []
              from none] at hasUpstreams
            cases hasUpstreams
        · exact ⟨dying, marked, fun no => (nomatch goesOn.symm.trans no),
            fun _ blocking => absurd blocking unblocked⟩

end

/-! ## The coroutine stays or is resumed -/

theorem CoCycle.resetBlock_blocking (self : CoCycle) (connection other : Nat)
    (blocking : ((self.resetBlock connection).objects other).flagThirdFuncBlocking = true) :
    (self.objects other).flagThirdFuncBlocking = true := by
  unfold CoCycle.resetBlock at blocking
  split at blocking
  · exact blocking
  · rename_i blockConn _
    by_cases isBlock : other = blockConn
    · rw [isBlock, modifyObject_same] at blocking
      cases blocking
    · rw [modifyObject_other _ _ _ _ isBlock] at blocking
      exact blocking

/-- Nothing that ends a wait sets the flag of a blocking function. -/
theorem CoCycle.leaveWait_blocking (self : CoCycle) (connection : Nat) (wait : Wait)
    (blocking : ((self.leaveWait connection wait).objects connection).flagThirdFuncBlocking = true) :
    (self.objects connection).flagThirdFuncBlocking = true ∧ wait ≠ .sleep ∧ wait ≠ .mutex := by
  cases wait with
  | sleep | mutex =>
    have off := congrArg CoConnection.flagThirdFuncBlocking (modifyObject_same self connection
      fun object => { object.setTimer .sleep false with flagThirdFuncBlocking := false })
    cases off.symm.trans blocking
  | runUpstreams | yielded | writing => exact ⟨blocking, nofun, nofun⟩
  | thirdSocket =>
    have before := CoCycle.resetBlock_blocking _ connection connection blocking
    rw [modifyObject_same] at before
    exact ⟨before, nofun, nofun⟩

namespace RequestRun

/-- The entry that wakes the coroutine is in the queue of delayed connections. -/
def Queued (self : RequestRun) : Prop :=
  (self.connection, self.version) ∈ self.cycle.delayConnections

instance (self : RequestRun) : Decidable self.Queued :=
  inferInstanceAs (Decidable (_ ∈ _))

/-- Nothing in the books changed. -/
structure SameBooks (run next : RequestRun) : Prop where
  connection : next.connection = run.connection
  request : next.request = run.request
  unfinished : next.unfinished = run.unfinished
  added : next.added = run.added
  requests : next.cycle.requests = run.cycle.requests
  version : next.version = run.version

/-- The flags of an exception that the end of a sleep does not take back. -/
def broken (self : RequestRun) : Bool :=
  (self.cycle.objects self.connection).flagPendingEof ||
    (self.cycle.objects self.connection).flagDying

/-- The sleep timer expires. -/
def Expires (event : RequestEvent) : Prop := ∃ timestamp, event = .timer .sleep timestamp

/-- An entry for the connection is taken from a queue. -/
def Popped (run : RequestRun) : RequestEvent → Prop
  | .popDelay _ => run.cycle.delayConnections.head? = some (run.connection, run.version)
  | .popResume _ => run.waitResumes.head? = some (run.connection, run.version)
  | _ => False

instance (event : RequestEvent) : Decidable (Expires event) :=
  match event with
  | .timer .sleep timestamp => isTrue ⟨timestamp, rfl⟩
  | .timer .read _ | .timer .write _ | .addUpstream .. | .runUpstreams | .wait _ | .respond
  | .writeBlocked | .finalize _ | .popDelay _ | .popResume _ | .popSingle _ | .resumeAsync ..
  | .peerClosed _ | .writable _ | .blockConnection | .endAttempt .. | .others _ | .otherRequests _
  | .otherPush _ => isFalse nofun

instance (run : RequestRun) (event : RequestEvent) : Decidable (Popped run event) := by
  unfold Popped
  split <;> infer_instance

/-- What a step did before it dispatched the connection. -/
structure Before (run : RequestRun) (event : RequestEvent) (between : RequestRun) : Prop where
  books : SameBooks run between
  place : between.place = run.place
  wakes : between.wakes = run.wakes
  blocking : between.blocking = true → run.blocking = true
  stillBlocking : run.blocking = true → between.blocking = true ∨
    Expires event ∧ (between.troubled = true → run.broken = true)

/-- The thread went on, and the coroutine is where it was. -/
structure Stays (run : RequestRun) (event : RequestEvent) (next : RequestRun) : Prop where
  books : SameBooks run next
  place : next.place = run.place
  wakes : next.wakes = run.wakes
  /-- an entry is not used up for nothing -/
  queued : run.Queued → next.Queued ∨ run.blocking = true ∨
    (run.cycle.requests run.request).upstreamRequests ≠ []
  blocking : next.blocking = true → run.blocking = true
  /-- a sleep may be over without the coroutine being resumed -/
  stillBlocking : run.blocking = true → next.blocking = true ∨ Expires event ∧ run.broken = true ∧
    (run.cycle.requests run.request).upstreamRequests ≠ []

structure Resumed (run : RequestRun) (event : RequestEvent) (wait : Wait) (waker : Waker)
    (next : RequestRun) : Prop where
  books : SameBooks run next
  suspended : run.place = .suspended wait
  place : next.place = if wait = .writing then .responding else .handler
  wakes : next.wakes = run.wakes ++ [(wait, waker)]
  blocking : next.blocking = true → run.blocking = true ∧ wait ≠ .sleep ∧ wait ≠ .mutex
  cause : wait = .sleep → run.blocking = true →
    waker = .timer .sleep ∨ run.troubled = false ∧ Popped run event

/-- One turn of the thread while the coroutine is suspended. -/
inductive Turn (run : RequestRun) (event : RequestEvent) (next : RequestRun) : Prop where
  | stays (same : Stays run event next)
  | resumed (wait : Wait) (waker : Waker) (woken : Resumed run event wait waker next)

section
variable {run between next : RequestRun} {event : RequestEvent} {cycle : CoCycle}

theorem SameBooks.refl (run : RequestRun) : SameBooks run run := ⟨rfl, rfl, rfl, rfl, rfl, rfl⟩

theorem SameBooks.trans (first : SameBooks run between) (second : SameBooks between next) :
    SameBooks run next :=
  ⟨second.connection.trans first.connection, second.request.trans first.request,
    second.unfinished.trans first.unfinished, second.added.trans first.added,
    second.requests.trans first.requests, second.version.trans first.version⟩

theorem SameBooks.of_calm (calm : Calm run cycle) (place : Place) (waitResumes : List (Nat × Nat))
    (marked : List Nat) (wakes : List (Wait × Waker)) :
    SameBooks run { run.withCycle cycle with place, waitResumes, marked, wakes } :=
  ⟨rfl, rfl, rfl, rfl, calm.requests, calm.version⟩

theorem Before.refl (run : RequestRun) : Before run event run :=
  ⟨.refl run, rfl, rfl, id, .inl⟩

/-- A step that dispatches nobody. -/
theorem Before.stays (before : Before run event next) (queued : run.Queued → next.Queued)
    (blocking : run.blocking = true → next.blocking = true) : Stays run event next :=
  ⟨before.books, before.place, before.wakes, fun before => .inl (queued before), before.blocking,
    fun before => .inl (blocking before)⟩

theorem Stays.of_excepted (before : Before run event between)
    (excepted : Excepted between false cycle) : Stays run event (between.withCycle cycle).mark := by
  have stuck := excepted.stays rfl
  rw [before.books.requests, before.books.request] at stuck
  refine ⟨before.books.trans (.of_calm excepted.calm _ _ _ _), before.place, before.wakes,
    fun _ => .inr (stuck.imp before.blocking And.right),
    fun blocking => before.blocking (excepted.blocking.symm.trans blocking), fun blocking => ?_⟩
  obtain still | ⟨expires, broken⟩ := before.stillBlocking blocking
  · exact .inl (excepted.blocking.trans still)
  · obtain still | ⟨troubled, upstreamRequests⟩ := stuck
    · exact .inl (excepted.blocking.trans still)
    · exact .inr ⟨expires, broken troubled, upstreamRequests⟩

theorem Resumed.of_excepted {wait : Wait} {waker : Waker} (before : Before run event between)
    (suspended : between.place = .suspended wait) (excepted : Excepted between true cycle)
    (calm : Calm (between.withCycle cycle) (cycle.leaveWait between.connection wait))
    (cause : wait = .sleep → run.blocking = true →
      waker = .timer .sleep ∨ run.troubled = false ∧ Popped run event) :
    Resumed run event wait waker ((between.withCycle cycle).mark.swapIn wait waker) := by
  refine ⟨before.books.trans (.of_calm (excepted.calm.trans calm) _ _ _ _),
    before.place.symm.trans suspended, rfl, congrArg (· ++ [(wait, waker)]) before.wakes, ?_, cause⟩
  intro blocking
  obtain ⟨before', other⟩ := CoCycle.leaveWait_blocking _ _ _ blocking
  exact ⟨before.blocking (excepted.blocking.symm.trans before'), other⟩

end

end RequestRun

/-- What the thread does by itself while the coroutine is suspended. -/
def RequestEvent.ofThread : RequestEvent → Prop
  | .addUpstream .. | .runUpstreams | .wait _ | .respond | .writeBlocked | .finalize _
  | .endAttempt .. => False
  | .popDelay _ | .popResume _ | .popSingle _ | .resumeAsync .. | .peerClosed _ | .writable _
  | .timer .. | .blockConnection | .others _ | .otherRequests _ | .otherPush _ => True

/-- Only `add_upstream`, the end of an attempt and the end of the request change the books. -/
def RequestEvent.unbooked : RequestEvent → Prop
  | .addUpstream .. | .endAttempt .. | .finalize _ => False
  | .runUpstreams | .wait _ | .respond | .writeBlocked | .popDelay _ | .popResume _ | .popSingle _
  | .resumeAsync .. | .peerClosed _ | .writable _ | .timer .. | .blockConnection | .others _
  | .otherRequests _ | .otherPush _ => True

/-! ## The accounts over every step -/

section
variable {conf : Nat → CoConfUpstreamLimits} {run between next : RequestRun}

theorem Calm.peerClosed (run : RequestRun) : Calm run (run.cycle.modifyObject run.connection
    fun object => { object with flagPendingEof := true }) :=
  (Calm.refl run).modifyObject _ ⟨⟨rfl, rfl, rfl, rfl⟩, ⟨rfl, rfl, rfl, rfl, rfl⟩, rfl, rfl, rfl, id⟩

theorem Calm.timerExpired (run : RequestRun) (kind : TimerKind) :
    Calm run (run.cycle.modifyObject run.connection fun object => object.timerExpired kind) := by
  refine (Calm.refl run).modifyObject _ ?_
  cases kind <;>
    exact ⟨⟨rfl, rfl, rfl, rfl⟩, ⟨rfl, rfl, rfl, rfl, rfl⟩, rfl, rfl, rfl, id⟩

theorem Calm.respond (run : RequestRun) : Calm run (run.cycle.modifyObject run.connection
    fun object => (object.setTimer .read false).setTimer .write true) :=
  (Calm.refl run).modifyObject _ ⟨⟨rfl, rfl, rfl, rfl⟩, ⟨rfl, rfl, rfl, rfl, rfl⟩, rfl, rfl, rfl, id⟩

/-- Queues and the count of requests are not in the accounts. -/
theorem Calm.queues (run : RequestRun) (delayConnections : List (Nat × Nat)) (requests requestId : Nat) :
    Calm run { run.cycle with
      delayConnections, requestId, allocatedRequests := run.cycle.allocatedRequests + requests } :=
  ⟨⟨rfl, rfl, rfl, fun _ => .refl _, fun _ _ => rfl, fun _ _ unowned => unowned⟩,
    ⟨rfl, rfl, fun _ => .refl _⟩, rfl, Nat.le_add_right _ _, rfl, rfl, fun _ _ flag => flag⟩

theorem Accounts.others (accounts : Accounts conf run) {event : CoCycle.UpstreamEvent}
    (connection : event.freed ≠ some run.connection)
    (connections : ∀ upstreamRequest ∈ run.unfinished,
      event.freed = none ∨ event.freed ≠ (run.cycle.requests upstreamRequest).connection)
    {thread : UpstreamRun} (stepped : run.thread.step event = some thread) :
    Accounts conf { run with thread } := by
  have attached := accounts.attached
  have kept := keepsRequests_step stepped
  refine accounts.spare (attached.inv.step stepped) ⟨?_, ?_⟩ kept.requests kept.allocated.ge
  · exact attached.inv.step_spared stepped attached.used attached.busy connection
  · intro upstreamRequest mem other held connected
    refine attached.inv.step_spared stepped ((attached.inv.accounted other).held held).1
      (fun idle => idle.2.1 held) fun freed => ?_
    obtain none | apart := connections upstreamRequest mem
    · cases none.symm.trans freed
    · exact apart (freed.trans connected.symm)

/-- What the step finds when an attempt ends. -/
theorem Accounts.attempt (accounts : Accounts conf run) {upstreamRequest connection : Nat}
    (unfinished : upstreamRequest ∈ run.unfinished)
    (connected : (run.cycle.requests upstreamRequest).connection = some connection) :
    Attempt conf run upstreamRequest connection := by
  obtain ⟨found, sub⟩ := accounts.attached.connections upstreamRequest unfinished
  cases connected.symm.trans sub.connected
  exact ⟨accounts, unfinished, sub⟩

/-- Whichever attempt ends, it ends in one of the two ways. -/
theorem Accounts.endAttempt_cases (accounts : Accounts conf run) {upstreamRequest : Nat} {retCode : Int}
    {timestamp : Nat} {get : GetCalls}
    (stepped : run.step (.endAttempt upstreamRequest retCode timestamp get) = some next) :
    ∃ connection, Attempt conf run upstreamRequest connection ∧
      AttemptOutcome conf run upstreamRequest connection next := by
  obtain ⟨⟨-, unfinished⟩, stepped⟩ := Option.ite_none_right_eq_some.1 stepped
  split at stepped
  · cases stepped
  · rename_i connection connected
    split at stepped
    · cases stepped
    · rename_i upstream owner
      obtain ⟨allowed, stepped⟩ := Option.ite_none_right_eq_some.1 stepped
      cases stepped
      have attempt := accounts.attempt unfinished connected
      exact ⟨connection, attempt, attempt.outcome owner allowed⟩

theorem Accounts.step (accounts : Accounts conf run) {event : RequestEvent}
    (stepped : run.step event = some next) (notLast : ∀ retCode, event ≠ .finalize retCode) :
    Accounts conf next := by
  cases event with
  | addUpstream upstream get protocol timestamp =>
    obtain ⟨⟨-, allowed⟩, stepped⟩ := Option.ite_none_right_eq_some.1 stepped
    cases stepped
    exact accounts.add (accounts.addUpstream_cases allowed protocol timestamp)
  | runUpstreams =>
    obtain ⟨-, stepped⟩ := Option.ite_none_right_eq_some.1 stepped
    split at stepped <;> cases stepped
    · exact accounts
    · exact accounts.suspend _
  | wait wait =>
    obtain ⟨-, stepped⟩ := Option.ite_none_right_eq_some.1 stepped
    cases stepped
    exact accounts.suspend wait
  | respond =>
    obtain ⟨-, stepped⟩ := Option.ite_none_right_eq_some.1 stepped
    cases stepped
    exact (accounts.calm (.respond run)).elsewhere _ _ _
  | writeBlocked =>
    obtain ⟨-, stepped⟩ := Option.ite_none_right_eq_some.1 stepped
    cases stepped
    exact accounts.suspend _
  | finalize retCode => exact absurd rfl (notLast retCode)
  | popDelay timestamp =>
    unfold RequestRun.step at stepped
    dsimp only at stepped
    split at stepped
    · cases stepped
    · rename_i entry rest _
      obtain ⟨-, stepped⟩ := Option.ite_none_right_eq_some.1 stepped
      exact (accounts.calm (.queues run rest 0 run.cycle.requestId)).popped stepped
  | popResume timestamp =>
    unfold RequestRun.step at stepped
    dsimp only at stepped
    split at stepped
    · cases stepped
    · obtain ⟨-, stepped⟩ := Option.ite_none_right_eq_some.1 stepped
      exact (accounts.elsewhere run.place _ run.wakes).popped stepped
  | popSingle timestamp =>
    obtain ⟨-, stepped⟩ := Option.ite_none_right_eq_some.1 stepped
    exact accounts.dispatch stepped
  | resumeAsync connection version =>
    cases stepped
    exact accounts.elsewhere _ _ _
  | peerClosed timestamp => exact (accounts.calm (.peerClosed run)).dispatch stepped
  | writable timestamp =>
    obtain ⟨-, stepped⟩ := Option.ite_none_right_eq_some.1 stepped
    exact accounts.dispatch stepped
  | timer kind timestamp =>
    obtain ⟨-, stepped⟩ := Option.ite_none_right_eq_some.1 stepped
    exact (accounts.calm (.timerExpired run kind)).dispatch stepped
  | blockConnection =>
    obtain ⟨-, stepped⟩ := Option.ite_none_right_eq_some.1 stepped
    cases stepped
    exact accounts.swapIn _ _
  | endAttempt upstreamRequest retCode timestamp get =>
    obtain ⟨connection, attempt, outcome⟩ := accounts.endAttempt_cases stepped
    exact attempt.accounts_after outcome
  | others event =>
    obtain ⟨⟨-, connection, connections⟩, stepped⟩ := Option.ite_none_right_eq_some.1 stepped
    obtain ⟨thread, threadStepped, rfl⟩ := Option.map_eq_some_iff.1 stepped
    exact accounts.others connection connections threadStepped
  | otherRequests requests =>
    obtain ⟨-, stepped⟩ := Option.ite_none_right_eq_some.1 stepped
    cases stepped
    exact accounts.calm (.queues run run.cycle.delayConnections requests _)
  | otherPush connection =>
    obtain ⟨-, stepped⟩ := Option.ite_none_right_eq_some.1 stepped
    cases stepped
    exact accounts.calm (.queues run _ 0 run.cycle.requestId)

/-! ## Turns -/

theorem Accounts.dispatch_turn (accounts : Accounts conf between) {event : RequestEvent}
    {timestamp : Nat} {waker : Waker} (before : Before run event between)
    (cause : between.place = .suspended .sleep → run.blocking = true →
      (between.blocking = true → between.troubled = false) →
        waker = .timer .sleep ∨ run.troubled = false ∧ Popped run event)
    (dispatched : between.dispatch timestamp waker = some next) : Turn run event next := by
  have excepted := accounts.excepted timestamp
  have attached := accounts.attached
  unfold RequestRun.dispatch at dispatched
  split at dispatched
  · rename_i wait suspended
    dsimp only at dispatched
    generalize between.cycle.funcDispatcher between.connection timestamp = outcome at excepted dispatched
    obtain ⟨resumed, cycle⟩ := outcome
    cases resumed with
    | false =>
      cases dispatched
      exact .stays (.of_excepted before excepted)
    | true =>
      cases dispatched
      have calm := (Calm.refl (between.withCycle cycle)).leaveWait (attached.calm excepted.calm) wait
      refine .resumed wait waker (.of_excepted before suspended excepted calm fun sleeps blocking => ?_)
      exact cause (sleeps ▸ suspended) blocking (excepted.untroubled rfl)
  all_goals cases dispatched

/-- An entry that is popped is for the life the connection has, or it is dropped. -/
theorem Accounts.popped_turn (accounts : Accounts conf between) {event : RequestEvent}
    {entry : Nat × Nat} {timestamp : Nat} {waker : Waker} (before : Before run event between)
    (blocking : run.blocking = true → between.blocking = true)
    (troubled : between.troubled = false → run.troubled = false)
    (mine : entry = (between.connection, between.version) → Popped run event)
    (other : entry ≠ (between.connection, between.version) → Stays run event between)
    (popped : between.popped entry timestamp waker = some next) : Turn run event next := by
  unfold RequestRun.popped at popped
  split at popped
  · rename_i isMine
    refine accounts.dispatch_turn before (fun _ before untroubled => .inr ⟨?_, mine isMine⟩) popped
    exact troubled (untroubled (blocking before))
  · rename_i isOther
    cases popped
    exact .stays (other isOther)

theorem timerExpired_blocking (object : CoConnection) {kind : TimerKind} (notSleep : kind ≠ .sleep) :
    (object.timerExpired kind).flagThirdFuncBlocking = object.flagThirdFuncBlocking := by
  cases kind with
  | sleep => exact absurd rfl notSleep
  | read | write => rfl

/-- Both set a flag that makes an exception. -/
theorem peerClosed_troubled (run : RequestRun) :
    (run.withCycle (run.cycle.modifyObject run.connection fun object =>
      { object with flagPendingEof := true })).troubled = true := by
  simp [troubled, withCycle, RequestRun.cycle, modifyObject]

theorem timerExpired_troubled (run : RequestRun) {kind : TimerKind} (notSleep : kind ≠ .sleep) :
    (run.withCycle (run.cycle.modifyObject run.connection fun object =>
      object.timerExpired kind)).troubled = true := by
  cases kind with
  | sleep => exact absurd rfl notSleep
  | read | write =>
    simp [troubled, withCycle, RequestRun.cycle, modifyObject, CoConnection.timerExpired]

theorem sleepExpired_troubled (run : RequestRun) :
    (run.withCycle (run.cycle.modifyObject run.connection fun object =>
      object.timerExpired .sleep)).troubled = run.broken := by
  simp [troubled, broken, withCycle, RequestRun.cycle, modifyObject, CoConnection.timerExpired,
    CoConnection.setTimer]

theorem RequestRun.Before.of_calm {cycle : CoCycle} {event : RequestEvent} (calm : Calm run cycle)
    (blocking : (cycle.objects run.connection).flagThirdFuncBlocking = run.blocking) :
    Before run event (run.withCycle cycle) :=
  ⟨.of_calm calm run.place run.waitResumes run.marked run.wakes, rfl, rfl, blocking.symm.trans,
    fun before => .inl (blocking.trans before)⟩

theorem Accounts.turn (accounts : Accounts conf run) {event : RequestEvent}
    (stepped : run.step event = some next) (thread : event.ofThread) : Turn run event next := by
  cases event with
  | addUpstream | runUpstreams | wait | respond | writeBlocked | finalize | endAttempt => cases thread
  | popDelay timestamp =>
    unfold RequestRun.step at stepped
    dsimp only at stepped
    split at stepped
    · cases stepped
    · rename_i entry rest queue
      obtain ⟨-, stepped⟩ := Option.ite_none_right_eq_some.1 stepped
      have calm := Calm.queues run rest 0 run.cycle.requestId
      have before : Before run (.popDelay timestamp)
          (run.withCycle { run.cycle with delayConnections := rest }) := .of_calm calm rfl
      -- the entry is of this life of the connection, or it is passed over
      refine (accounts.calm calm).popped_turn before id id (fun mine => ?_) (fun other => ?_) stepped
      · show run.cycle.delayConnections.head? = _
        rw [queue, mine]
        rfl
      · refine before.stays (fun queued => ?_) id
        unfold Queued at queued
        rw [queue] at queued
        exact (List.mem_cons.1 queued).resolve_left (Ne.symm other)
  | popResume timestamp =>
    unfold RequestRun.step at stepped
    dsimp only at stepped
    split at stepped
    · cases stepped
    · rename_i entry rest queue
      obtain ⟨-, stepped⟩ := Option.ite_none_right_eq_some.1 stepped
      have before : Before run (.popResume timestamp) { run with waitResumes := rest } :=
        ⟨.of_calm (.refl run) run.place rest run.marked run.wakes, rfl, rfl, id, .inl⟩
      refine (accounts.elsewhere run.place rest run.wakes).popped_turn before id id (fun mine => ?_)
        (fun _ => before.stays id id) stepped
      show run.waitResumes.head? = _
      rw [queue, mine]
      rfl
  | popSingle timestamp =>
    obtain ⟨mutex, stepped⟩ := Option.ite_none_right_eq_some.1 stepped
    exact accounts.dispatch_turn (.refl run) (fun sleep => nomatch sleep.symm.trans mutex) stepped
  | resumeAsync connection version =>
    cases stepped
    exact .stays (Before.stays ⟨.of_calm (.refl run) run.place _ run.marked run.wakes, rfl, rfl, id,
      .inl⟩ id id)
  | peerClosed timestamp =>
    have calm := Calm.peerClosed run
    have same := modifyObject_blocking run.cycle run.connection run.connection
      (fun object => { object with flagPendingEof := true }) rfl
    refine (accounts.calm calm).dispatch_turn (.of_calm calm same) (fun _ blocking untroubled => ?_)
      stepped
    -- a connection whose peer closed is in trouble
    cases (peerClosed_troubled run).symm.trans (untroubled (same.trans blocking))
  | writable timestamp =>
    obtain ⟨writing, stepped⟩ := Option.ite_none_right_eq_some.1 stepped
    exact accounts.dispatch_turn (.refl run) (fun sleep => nomatch sleep.symm.trans writing) stepped
  | timer kind timestamp =>
    obtain ⟨-, stepped⟩ := Option.ite_none_right_eq_some.1 stepped
    have calm := Calm.timerExpired run kind
    by_cases sleep : kind = .sleep
    · subst sleep
      refine (accounts.calm calm).dispatch_turn ⟨.of_calm calm run.place run.waitResumes run.marked
        run.wakes, rfl, rfl, fun blocking => ?_, fun _ => .inr ⟨⟨timestamp, rfl⟩, ?_⟩⟩
        (fun _ _ _ => .inl rfl) stepped
      · -- a sleep that expires takes the flag back before the dispatch
        have off := congrArg CoConnection.flagThirdFuncBlocking (modifyObject_same run.cycle
          run.connection fun object => object.timerExpired .sleep)
        cases off.symm.trans blocking
      · exact (sleepExpired_troubled run).symm.trans
    · have same := modifyObject_blocking run.cycle run.connection run.connection
        (fun object => object.timerExpired kind)
        (timerExpired_blocking (run.cycle.objects run.connection) sleep)
      refine (accounts.calm calm).dispatch_turn (.of_calm calm same) (fun _ blocking untroubled => ?_)
        stepped
      cases (timerExpired_troubled run sleep).symm.trans (untroubled (same.trans blocking))
  | blockConnection =>
    obtain ⟨suspended, stepped⟩ := Option.ite_none_right_eq_some.1 stepped
    cases stepped
    have calm := (Calm.refl run).leaveWait accounts.attached .thirdSocket
    exact .resumed .thirdSocket .blockConnection ⟨.of_calm calm _ _ run.marked _, suspended, rfl, rfl,
      CoCycle.leaveWait_blocking run.cycle run.connection .thirdSocket, nofun⟩
  | others event =>
    obtain ⟨⟨-, apart, -⟩, stepped⟩ := Option.ite_none_right_eq_some.1 stepped
    obtain ⟨thread, threadStepped, rfl⟩ := Option.map_eq_some_iff.1 stepped
    have attached := accounts.attached
    have kept := keepsRequests_step threadStepped
    have same := (attached.inv.step_spared threadStepped attached.used attached.busy apart).same
    have queued : run.Queued → ({ run with thread } : RequestRun).Queued := by
      unfold Queued
      rw [show ({ run with thread } : RequestRun).version = run.version from same.version,
        show ({ run with thread } : RequestRun).cycle.delayConnections = _ from kept.delay]
      exact id
    exact .stays (Before.stays ⟨⟨rfl, rfl, rfl, rfl, kept.requests, same.version⟩, rfl, rfl,
      same.blocking.symm.trans, fun before => .inl (same.blocking.trans before)⟩ queued
      same.blocking.trans)
  | otherRequests requests =>
    obtain ⟨-, stepped⟩ := Option.ite_none_right_eq_some.1 stepped
    cases stepped
    have calm := Calm.queues run run.cycle.delayConnections requests
      (sizeT (run.cycle.requestId + requests))
    exact .stays (Before.stays (.of_calm calm rfl) id id)
  | otherPush connection =>
    obtain ⟨-, stepped⟩ := Option.ite_none_right_eq_some.1 stepped
    cases stepped
    have calm := Calm.queues run (run.cycle.pushDelay connection).delayConnections 0
      run.cycle.requestId
    exact .stays (Before.stays (.of_calm calm rfl) (List.mem_append_left _) id)

theorem Accounts.step_books (accounts : Accounts conf run) {event : RequestEvent}
    (stepped : run.step event = some next) (unbooked : event.unbooked) : SameBooks run next := by
  have suspended : ∀ wait, SameBooks run (run.suspend wait) := fun wait =>
    .of_calm ((Calm.refl run).enterWait wait) _ run.waitResumes run.marked run.wakes
  cases event with
  | addUpstream | endAttempt | finalize => cases unbooked
  | runUpstreams =>
    obtain ⟨-, stepped⟩ := Option.ite_none_right_eq_some.1 stepped
    split at stepped <;> cases stepped
    · exact .refl run
    · exact suspended .runUpstreams
  | wait wait =>
    obtain ⟨-, stepped⟩ := Option.ite_none_right_eq_some.1 stepped
    cases stepped
    exact suspended wait
  | respond =>
    obtain ⟨-, stepped⟩ := Option.ite_none_right_eq_some.1 stepped
    cases stepped
    exact .of_calm (.respond run) _ run.waitResumes run.marked run.wakes
  | writeBlocked =>
    obtain ⟨-, stepped⟩ := Option.ite_none_right_eq_some.1 stepped
    cases stepped
    exact suspended .writing
  | popDelay | popResume | popSingle | resumeAsync | peerClosed | writable | timer | blockConnection
  | others | otherRequests | otherPush =>
    cases accounts.turn stepped trivial with
    | stays stays => exact stays.books
    | resumed wait waker woken => exact woken.books

/-! ## The invariant -/

/-- The books outlive the request, and its connections are there until it is destroyed. -/
structure RequestInv (conf : Nat → CoConfUpstreamLimits) (run : RequestRun) : Prop where
  ledger : Ledger conf run
  attached : run.place ≠ .finalized → Attached conf run

theorem RequestInv.accounts (inv : RequestInv conf run) (alive : run.place ≠ .finalized) :
    Accounts conf run :=
  ⟨inv.ledger, inv.attached alive⟩

theorem RequestInv.no_upstreamRequests (inv : RequestInv conf run) (none : run.unfinished = []) :
    (run.cycle.requests run.request).upstreamRequests = [] := by
  refine List.eq_nil_iff_forall_not_mem.2 fun entry mem => ?_
  obtain ⟨_, unfinished, -⟩ := inv.ledger.map entry mem
  rw [none] at unfinished
  cases unfinished

theorem dispatch_place {timestamp : Nat} {waker : Waker}
    (dispatched : run.dispatch timestamp waker = some next) : run.Suspended := by
  unfold RequestRun.dispatch at dispatched
  unfold Suspended
  split at dispatched
  · trivial
  all_goals cases dispatched

/-- Only a request whose handler is at work or suspended takes a step. -/
theorem step_alive {event : RequestEvent} (stepped : run.step event = some next)
    (final : run.place = .finalized) : ∃ connection version, event = .resumeAsync connection version := by
  have notSuspended : ¬ run.Suspended := by
    unfold Suspended
    rw [final]
    exact id
  cases event with
  | addUpstream upstream get protocol timestamp =>
    obtain ⟨⟨place, -⟩, -⟩ := Option.ite_none_right_eq_some.1 stepped
    cases final.symm.trans place
  | runUpstreams | respond | finalize =>
    obtain ⟨place, -⟩ := Option.ite_none_right_eq_some.1 stepped
    cases final.symm.trans place
  | wait | writeBlocked =>
    obtain ⟨⟨place, -⟩, -⟩ := Option.ite_none_right_eq_some.1 stepped
    cases final.symm.trans place
  | popSingle timestamp =>
    obtain ⟨place, -⟩ := Option.ite_none_right_eq_some.1 stepped
    cases final.symm.trans place
  | writable timestamp =>
    obtain ⟨place, -⟩ := Option.ite_none_right_eq_some.1 stepped
    cases final.symm.trans place
  | blockConnection =>
    obtain ⟨place, -⟩ := Option.ite_none_right_eq_some.1 stepped
    cases final.symm.trans place
  | popDelay timestamp =>
    unfold RequestRun.step at stepped
    dsimp only at stepped
    split at stepped
    · cases stepped
    · exact absurd (Option.ite_none_right_eq_some.1 stepped).1 notSuspended
  | popResume timestamp =>
    unfold RequestRun.step at stepped
    dsimp only at stepped
    split at stepped
    · cases stepped
    · exact absurd (Option.ite_none_right_eq_some.1 stepped).1 notSuspended
  | resumeAsync connection version => exact ⟨connection, version, rfl⟩
  | peerClosed timestamp => exact absurd (dispatch_place stepped) notSuspended
  | timer kind timestamp =>
    obtain ⟨-, stepped⟩ := Option.ite_none_right_eq_some.1 stepped
    exact absurd (dispatch_place stepped) notSuspended
  | endAttempt | others | otherPush =>
    obtain ⟨⟨place, -⟩, -⟩ := Option.ite_none_right_eq_some.1 stepped
    exact absurd place notSuspended
  | otherRequests requests =>
    exact absurd (Option.ite_none_right_eq_some.1 stepped).1 notSuspended

/-- Of the requests, `request_finalize` only destroys its own. -/
theorem step_finalize {retCode : Int} (stepped : run.step (.finalize retCode) = some next) :
    run.place = .responding ∧ ∃ thread : UpstreamRun, next = { run with thread, place := .finalized } ∧
      thread.cycle.requests = Function.update run.cycle.requests run.request
        { run.cycle.requests run.request with destroyed := true } ∧
      thread.cycle.allocatedRequests = run.cycle.allocatedRequests := by
  obtain ⟨responding, stepped⟩ := Option.ite_none_right_eq_some.1 stepped
  cases stepped
  have kept := keepsRequests_freeRequestConnection (run.cycle.destroyRequest run.request)
    run.connection retCode
  exact ⟨responding, _, rfl, kept.requests, kept.allocated⟩

theorem RequestInv.step (inv : RequestInv conf run) {event : RequestEvent}
    (stepped : run.step event = some next) : RequestInv conf next := by
  by_cases final : run.place = .finalized
  · obtain ⟨connection, version, rfl⟩ := step_alive stepped final
    cases stepped
    exact ⟨inv.ledger.elsewhere _ _ _, fun alive => absurd final alive⟩
  have accounts := inv.accounts final
  cases event with
  | finalize retCode =>
    obtain ⟨-, thread, rfl, requests, allocated⟩ := step_finalize stepped
    refine ⟨@Ledger.records conf run accounts.ledger thread true ?_ ?_ allocated.ge .finalized,
      fun alive => absurd rfl alive⟩
    · rw [requests, Function.update_self]
    · intro other apart
      rw [requests, Function.update_of_ne apart]
  | _ =>
    obtain ⟨ledger, attached⟩ := accounts.step stepped nofun
    exact ⟨ledger, fun _ => attached⟩

theorem RequestInv.reached (inv : RequestInv conf run) {events : List RequestEvent}
    (ran : events.foldlM RequestRun.step run = some next) : RequestInv conf next :=
  Lib.run_keeps RequestRun.step (RequestInv conf) (fun _ _ _ inv stepped => inv.step stepped) inv ran

end

/-! ## The start -/

/-- `request_init` made the request. -/
def RequestRun.init (thread : UpstreamRun) (connection : Nat) : RequestRun :=
  { thread :=
      { thread with
        cycle := (thread.cycle.newRequest false).initRequest thread.cycle.allocatedRequests connection }
    connection
    request := thread.cycle.allocatedRequests }

/-- `request_process` bounds the time of the handler and calls it. -/
def RequestRun.begin (thread : UpstreamRun) (connection : Nat) : RequestRun :=
  let run := RequestRun.init thread connection
  run.withCycle (run.cycle.modifyObject connection fun object => object.setTimer .read true)

/-- The connection of a client, on a thread in any state that its pool and its upstreams
    can be in. -/
structure Begins (conf : Nat → CoConfUpstreamLimits) (thread : UpstreamRun) (connection : Nat) :
    Prop where
  inv : UpstreamInv conf thread
  used : connection ∈ thread.inUse
  client : (thread.cycle.objects connection).upstream = none
  unblocked : (thread.cycle.objects connection).flagThirdFuncBlocking = false

section
variable {conf : Nat → CoConfUpstreamLimits} {thread : UpstreamRun} {connection : Nat}

theorem init_requestsOnly (thread : UpstreamRun) (connection : Nat) :
    RequestsOnly (thread.cycle.bindRequest connection thread.cycle.allocatedRequests)
      (RequestRun.init thread connection).cycle :=
  ⟨_, _, _, _, rfl⟩

theorem init_record (thread : UpstreamRun) (connection : Nat) :
    (RequestRun.init thread connection).cycle.requests thread.cycle.allocatedRequests =
      { connection := some connection
        requestId := uint32 (sizeT (thread.cycle.requestId + 1))
        count := 1 } := by
  simp [RequestRun.init, RequestRun.cycle, newRequest, initRequest, modifyRequest, bindRequest,
    modifyObject]

theorem Begins.init (begins : Begins conf thread connection) :
    Accounts conf (.init thread connection) := by
  have only := init_requestsOnly thread connection
  have record := init_record thread connection
  have bound := congrFun only.objects connection
  rw [bindRequest_same] at bound
  refine ⟨⟨Nat.lt_succ_self _, ?_, ?_, ?_, List.nodup_nil, nofun, nofun, nofun, nofun, nofun, nofun,
    nofun, nofun, nofun, nofun⟩, ?_, begins.used, ?_, ?_, nofun, nofun⟩
  · exact congrArg CoRequest.count record
  · exact congrArg CoRequest.connection record
  · show ∀ entry ∈ ((RequestRun.init thread connection).cycle.requests
      thread.cycle.allocatedRequests).upstreamRequests, _
    rw [record]
    exact nofun
  · exact (begins.inv.bindClient begins.used begins.client _).keep (only.keepsPool _) only.keepsOwners
  · exact (congrArg CoConnection.upstream bound).trans begins.client
  · exact congrArg CoConnection.request bound

theorem Begins.requestInv (begins : Begins conf thread connection) :
    RequestInv conf (.begin thread connection) := by
  have accounts : Accounts conf (.begin thread connection) := by
    refine begins.init.calm ((Calm.refl _).modifyObject connection ?_)
    exact ⟨⟨rfl, rfl, rfl, rfl⟩, ⟨rfl, rfl, rfl, rfl, rfl⟩, rfl, rfl, rfl, id⟩
  exact ⟨accounts.ledger, fun _ => accounts.attached⟩

end

/-- A thread with one client, whose upstreams have one backend. -/
def oneClient : UpstreamRun :=
  let start := UpstreamRun.start ((fresh {} (fun _ => {}) oneBackend).initPool 1 8).2
  (start.step (.getOther { socket := 5 } 1 [] 0 false)).getD start

theorem oneClient_begins : Begins (fun upstream => (oneBackend upstream).confUpstream) oneClient 0 := by
  have start := UpstreamInv.start {} (fun _ => {}) (fun _ => ⟨rfl, fun _ => rfl⟩)
    (by decide : (1 : Int) ≤ 2147483644)
    (by decide +kernel : ((fresh {} (fun _ => {}) oneBackend).initPool 1 8).1 = coOk)
  have stepped : (UpstreamRun.start ((fresh {} (fun _ => {}) oneBackend).initPool 1 8).2).step
      (.getOther { socket := 5 } 1 [] 0 false) = some oneClient :=
    (Option.some_get (by decide +kernel)).symm.trans (congrArg some (Option.get_eq_getD _))
  exact ⟨start.step stepped, by decide +kernel, by decide +kernel, by decide +kernel⟩

end CoServer
