import CoServer.Lib.Simulation
import CoServer.Base.Spinlock
import CoServer.Core.ResumeAsync

/-! # The sections under `m_mtxResume`

Here `lock`, `empty`, `push`, `front`, `pop` and `unlock` are steps of their own.
What the threads do between `lock` and `unlock` can be taken as one step. -/

namespace CoServer

/-- Where a thread stands in `resume_async` or `resume_single_async`. -/
inductive ResumeCall where
  | outside
  /-- in `lock`, or behind it -/
  | lock (queue : ResumeQueue) (coroutineData : Nat × Nat)
  /-- behind `empty` -/
  | push (queue : ResumeQueue) (coroutineData : Nat × Nat) (writeSocket : Bool)
  | unlock (queue : ResumeQueue) (writeSocket : Bool)
  | write (queue : ResumeQueue) (writeSocket : Bool)
deriving DecidableEq

/-- Where the worker stands. -/
inductive ResumeTurn where
  /-- not behind `front` -/
  | worker (state : WorkerState)
  /-- behind `front`, with its copy of the entry -/
  | pop (queue : ResumeQueue) (coroutineData : Nat × Nat)
  | unlock (queue : ResumeQueue) (coroutineData : Nat × Nat)
deriving DecidableEq

/-- The section as one step: a call has pushed or not. -/
def ResumeCall.section : ResumeCall → CallerState
  | .outside | .lock .. | .push .. => .outside
  | .unlock queue writeSocket | .write queue writeSocket => .pushed queue writeSocket

def ResumeTurn.section : ResumeTurn → WorkerState
  | .worker state => state
  | .pop queue _ => .pop queue
  | .unlock queue coroutineData => .resume queue coroutineData

structure ResumeThreads where
  /-- `none` is the worker -/
  mtxResume : CoSpinlock (Option Nat) := {}
  queue : ResumeQueue → List (Nat × Nat) := fun _ => []
  delayConnections : List (Nat × Nat) := []
  socketBytes : Nat := 0
  edge : Bool := false
  worker : ResumeTurn := .worker .epollWait
  callers : Nat → ResumeCall := fun _ => .outside

inductive ResumeThreadEvent where
  /-- `resume_async` or `resume_single_async` is called and calls `lock` -/
  | call (thread : Nat) (queue : ResumeQueue) (coroutineData : Nat × Nat)
  | testAndSet (thread : Option Nat)
  | schedYield (thread : Option Nat)
  | empty (thread : Nat)
  | push (thread : Nat)
  | unlock (thread : Nat)
  | write (thread : Nat)
  /-- the worker calls `lock` -/
  | popLock
  | front
  | pop
  | popUnlock
  /-- a step of the worker without the lock -/
  | worker (event : ResumeEvent)

/-- The steps of the worker that take no lock. -/
def ResumeEvent.Unlocked : ResumeEvent → Bool
  | .push .. | .write _ | .pop => false
  | _ => true

namespace ResumeThreads

/-- The state with each section as one step. -/
def sections (self : ResumeThreads) : ResumeState where
  queue := self.queue
  delayConnections := self.delayConnections
  socketBytes := self.socketBytes
  edge := self.edge
  worker := self.worker.section
  callers thread := (self.callers thread).section

def moveCaller (self : ResumeThreads) (thread : Nat) (call : ResumeCall) : ResumeThreads :=
  { self with callers := Function.update self.callers thread call }

def step (self : ResumeThreads) : ResumeThreadEvent → Option ResumeThreads
  | .call thread queue coroutineData =>
    match self.callers thread with
    | .outside => (self.mtxResume.step (.call (some thread))).map fun mtxResume =>
      { self.moveCaller thread (.lock queue coroutineData) with mtxResume }
    | _ => none
  | .testAndSet thread =>
    (self.mtxResume.step (.testAndSet thread)).map fun mtxResume => { self with mtxResume }
  | .schedYield thread =>
    (self.mtxResume.step (.schedYield thread)).map fun mtxResume => { self with mtxResume }
  | .empty thread =>
    match self.callers thread with
    | .lock queue coroutineData =>
      if self.mtxResume.threads (some thread) = .inside then
        some (self.moveCaller thread (.push queue coroutineData (self.queue queue).isEmpty))
      else none
    | _ => none
  | .push thread =>
    match self.callers thread with
    | .push queue coroutineData writeSocket =>
      some { self.moveCaller thread (.unlock queue writeSocket) with
        queue := Function.update self.queue queue (self.queue queue ++ [coroutineData]) }
    | _ => none
  | .unlock thread =>
    match self.callers thread with
    | .unlock queue writeSocket => (self.mtxResume.step (.unlock (some thread))).map fun mtxResume =>
      { self.moveCaller thread (.write queue writeSocket) with mtxResume }
    | _ => none
  | .write thread =>
    match self.callers thread with
    | .write _ true =>
      some { self.moveCaller thread .outside with socketBytes := self.socketBytes + 1, edge := true }
    | .write _ false => some (self.moveCaller thread .outside)
    | _ => none
  | .popLock =>
    match self.worker with
    | .worker (.pop _) => (self.mtxResume.step (.call none)).map fun mtxResume => { self with mtxResume }
    | _ => none
  | .front =>
    match self.worker with
    | .worker (.pop queue) =>
      if self.mtxResume.threads none = .inside then
        (self.queue queue).head?.map fun coroutineData => { self with worker := .pop queue coroutineData }
      else none
    | _ => none
  | .pop =>
    match self.worker with
    | .pop queue coroutineData =>
      some { self with
        queue := Function.update self.queue queue (self.queue queue).tail
        worker := .unlock queue coroutineData }
    | _ => none
  | .popUnlock =>
    match self.worker with
    | .unlock queue coroutineData => (self.mtxResume.step (.unlock none)).map fun mtxResume =>
      { self with mtxResume, worker := .worker (.resume queue coroutineData) }
    | _ => none
  | .worker event =>
    match self.worker with
    | .worker _ =>
      if event.Unlocked then
        (self.sections.step event).map fun next => { self with
          delayConnections := next.delayConnections, socketBytes := next.socketBytes
          edge := next.edge, worker := .worker next.worker }
      else none
    | _ => none

/-- The section that ends with the step, taken as one step. -/
def labels (self : ResumeThreads) : ResumeThreadEvent → List ResumeEvent
  | .push thread =>
    match self.callers thread with
    | .push queue coroutineData _ => [.push thread queue coroutineData]
    | _ => []
  | .pop => [.pop]
  | .write thread => [.write thread]
  | .worker event => [event]
  | _ => []

/-- The entries that a step pushes to the queue. -/
def pushed (queue : ResumeQueue) (self : ResumeThreads) : ResumeThreadEvent → List (Nat × Nat)
  | .push thread =>
    match self.callers thread with
    | .push other coroutineData _ => if other = queue then [coroutineData] else []
    | _ => []
  | _ => []

/-- The worker's copies of the entries that it pops from the queue. -/
def popped (queue : ResumeQueue) (self : ResumeThreads) : ResumeThreadEvent → List (Nat × Nat)
  | .pop =>
    match self.worker with
    | .pop other coroutineData => if other = queue then [coroutineData] else []
    | _ => []
  | _ => []

end ResumeThreads

/-! ## One thread in a section -/

/-- Between `lock` and `unlock`. -/
def ResumeCall.Locked : ResumeCall → Prop
  | .push .. | .unlock .. => True
  | _ => False

def ResumeTurn.Locked : ResumeTurn → Prop
  | .pop .. | .unlock .. => True
  | .worker _ => False

def ResumeThreads.Locked (self : ResumeThreads) : Option Nat → Prop
  | none => self.worker.Locked
  | some thread => (self.callers thread).Locked

/-- The lock is held in the sections, so what a thread has found there is still so. -/
structure Sectioned (threads : ResumeThreads) : Prop where
  exclusive : Exclusive threads.mtxResume
  held : ∀ thread, threads.Locked thread → threads.mtxResume.threads thread = .inside
  empty : ∀ thread queue coroutineData writeSocket,
    threads.callers thread = .push queue coroutineData writeSocket → writeSocket = (threads.queue queue).isEmpty
  front : ∀ queue coroutineData, threads.worker = .pop queue coroutineData →
    (threads.queue queue).head? = some coroutineData

section
variable {threads next : ResumeThreads} {mtxResume : CoSpinlock (Option Nat)}

theorem Sectioned.one (sectioned : Sectioned threads) {first second : Option Nat} (one : threads.Locked first)
    (two : threads.Locked second) : first = second :=
  sectioned.exclusive.one first second (sectioned.held first one) (sectioned.held second two)

theorem Sectioned.moveCaller (sectioned : Sectioned threads) (thread : Nat) (call : ResumeCall)
    (exclusive : Exclusive mtxResume)
    (held : ∀ other, other ≠ some thread → threads.Locked other → mtxResume.threads other = .inside)
    (own : call.Locked → mtxResume.threads (some thread) = .inside)
    (empty : ∀ queue coroutineData writeSocket, call = .push queue coroutineData writeSocket →
      writeSocket = (threads.queue queue).isEmpty) :
    Sectioned { threads.moveCaller thread call with mtxResume } := by
  refine ⟨exclusive, fun other locked => ?_, fun other queue coroutineData writeSocket pushes => ?_, sectioned.front⟩
  · by_cases moved : other = some thread
    · subst moved
      refine own ?_
      simpa [ResumeThreads.Locked, ResumeThreads.moveCaller] using locked
    · refine held other moved ?_
      cases other with
      | none => exact locked
      | some other =>
        have apart : other ≠ thread := fun same => moved (congrArg some same)
        simpa [ResumeThreads.Locked, ResumeThreads.moveCaller, Function.update_of_ne apart] using locked
  · by_cases moved : other = thread
    · subst moved
      exact empty queue coroutineData writeSocket (by simpa [ResumeThreads.moveCaller] using pushes)
    · refine sectioned.empty other queue coroutineData writeSocket ?_
      simpa [ResumeThreads.moveCaller, Function.update_of_ne moved] using pushes

theorem Sectioned.moveWorker (sectioned : Sectioned threads) (worker : ResumeTurn) (exclusive : Exclusive mtxResume)
    (held : ∀ other, other ≠ none → threads.Locked other → mtxResume.threads other = .inside)
    (own : worker.Locked → mtxResume.threads none = .inside)
    (front : ∀ queue coroutineData, worker = .pop queue coroutineData →
      (threads.queue queue).head? = some coroutineData) :
    Sectioned { threads with mtxResume, worker } := by
  refine ⟨exclusive, fun other locked => ?_, sectioned.empty, front⟩
  cases other with
  | none => exact own locked
  | some other => exact held (some other) (Option.some_ne_none other) locked

/-- The lock is worked on by a thread in no section. -/
theorem Sectioned.lock (sectioned : Sectioned threads) {event : SpinEvent (Option Nat)}
    (stepped : threads.mtxResume.step event = some mtxResume) (stays : ∀ thread, event ≠ .unlock thread) :
    Sectioned { threads with mtxResume } :=
  ⟨sectioned.exclusive.step stepped,
    fun thread locked => CoSpinlock.step_inside stepped (sectioned.held thread locked) (stays thread),
    sectioned.empty, sectioned.front⟩

/-- Nobody else is in a section, so nobody else has looked at the queue. -/
theorem Sectioned.push (sectioned : Sectioned threads) {thread : Nat}
    (stepped : threads.step (.push thread) = some next) : Sectioned next := by
  unfold ResumeThreads.step at stepped
  dsimp only at stepped
  split at stepped
  · rename_i queue coroutineData writeSocket pushes
    cases stepped
    have locked : threads.Locked (some thread) := by simp [ResumeThreads.Locked, pushes, ResumeCall.Locked]
    have moved : Sectioned (threads.moveCaller thread (.unlock queue writeSocket)) :=
      sectioned.moveCaller _ _ sectioned.exclusive (fun other _ => sectioned.held other)
        (fun _ => sectioned.held _ locked) fun _ _ _ unlocks => by cases unlocks
    refine ⟨moved.exclusive, moved.held, fun other into data writes there => ?_, fun from_ data pops => ?_⟩
    · have same : some other = some thread := moved.one
        (by simp only [ResumeThreads.Locked]; rw [there]; trivial)
        (by simp [ResumeThreads.Locked, ResumeThreads.moveCaller, ResumeCall.Locked])
      cases same
      simp [ResumeThreads.moveCaller] at there
    · have worker : threads.Locked none := by
        simp only [ResumeThreads.Locked]
        rw [show threads.worker = .pop from_ data from pops]
        trivial
      cases sectioned.one worker locked
  · cases stepped

theorem Sectioned.pop (sectioned : Sectioned threads) (stepped : threads.step .pop = some next) : Sectioned next := by
  unfold ResumeThreads.step at stepped
  dsimp only at stepped
  split at stepped
  · rename_i queue coroutineData pops
    cases stepped
    have locked : threads.Locked none := by simp [ResumeThreads.Locked, pops, ResumeTurn.Locked]
    have moved : Sectioned { threads with worker := .unlock queue coroutineData } :=
      sectioned.moveWorker _ sectioned.exclusive (fun other _ => sectioned.held other)
        (fun _ => sectioned.held _ locked) fun _ _ unlocks => by cases unlocks
    refine ⟨moved.exclusive, moved.held, fun other into data writes there => ?_, fun from_ data pops => by cases pops⟩
    have caller : threads.Locked (some other) := by
      simp only [ResumeThreads.Locked]
      rw [show threads.callers other = .push into data writes from there]
      trivial
    cases sectioned.one caller locked
  · cases stepped

/-- The worker takes no entry without the lock. -/
theorem ResumeState.unlocked_queue {state after : ResumeState} {event : ResumeEvent}
    (unlocked : event.Unlocked = true) (stepped : state.step event = some after) :
    after.queue = state.queue ∧ after.callers = state.callers := by
  unfold ResumeState.step at stepped
  cases event with
  | push thread queue coroutineData => cases unlocked
  | write thread => cases unlocked
  | pop => cases unlocked
  | epollReturn resumeRead =>
    obtain ⟨-, stepped⟩ := Option.ite_none_right_eq_some.1 stepped
    cases stepped
    exact ⟨rfl, rfl⟩
  | processed delayed =>
    dsimp only at stepped
    split at stepped <;> cases stepped <;> exact ⟨rfl, rfl⟩
  | delay delayed =>
    obtain ⟨-, stepped⟩ := Option.ite_none_right_eq_some.1 stepped
    split at stepped <;> cases stepped <;> exact ⟨rfl, rfl⟩
  | test =>
    dsimp only at stepped
    split at stepped <;> cases stepped
    exact ⟨rfl, rfl⟩
  | resumed delayed =>
    dsimp only at stepped
    split at stepped <;> cases stepped
    exact ⟨rfl, rfl⟩
  | timersDone needContinue delayed =>
    obtain ⟨-, stepped⟩ := Option.ite_none_right_eq_some.1 stepped
    cases stepped
    exact ⟨rfl, rfl⟩

theorem Sectioned.step {event : ResumeThreadEvent} (sectioned : Sectioned threads)
    (stepped : threads.step event = some next) : Sectioned next := by
  cases event with
  | push thread => exact sectioned.push stepped
  | pop => exact sectioned.pop stepped
  | call thread queue coroutineData =>
    unfold ResumeThreads.step at stepped
    dsimp only at stepped
    split at stepped
    · obtain ⟨mtxResume, locks, rfl⟩ := Option.map_eq_some_iff.1 stepped
      exact sectioned.moveCaller _ _ (sectioned.exclusive.step locks)
        (fun other _ locked => CoSpinlock.step_inside locks (sectioned.held other locked) fun same => by cases same)
        False.elim fun _ _ _ pushes => by cases pushes
    · cases stepped
  | testAndSet thread =>
    obtain ⟨mtxResume, locks, rfl⟩ := Option.map_eq_some_iff.1 stepped
    exact sectioned.lock locks fun _ same => by cases same
  | schedYield thread =>
    obtain ⟨mtxResume, locks, rfl⟩ := Option.map_eq_some_iff.1 stepped
    exact sectioned.lock locks fun _ same => by cases same
  | empty thread =>
    unfold ResumeThreads.step at stepped
    dsimp only at stepped
    split at stepped
    · obtain ⟨inside, stepped⟩ := Option.ite_none_right_eq_some.1 stepped
      cases stepped
      exact sectioned.moveCaller _ _ sectioned.exclusive (fun other _ => sectioned.held other) (fun _ => inside)
        fun _ _ _ pushes => by cases pushes; rfl
    · cases stepped
  | unlock thread =>
    unfold ResumeThreads.step at stepped
    dsimp only at stepped
    split at stepped
    · obtain ⟨mtxResume, unlocks, rfl⟩ := Option.map_eq_some_iff.1 stepped
      refine sectioned.moveCaller _ _ (sectioned.exclusive.step unlocks) (fun other apart locked => ?_)
        False.elim fun _ _ _ pushes => by cases pushes
      refine CoSpinlock.step_inside unlocks (sectioned.held other locked) fun same => ?_
      exact apart (SpinEvent.unlock.inj same).symm
    · cases stepped
  | write thread =>
    have moved := sectioned.moveCaller thread .outside sectioned.exclusive
      (fun other _ => sectioned.held other) False.elim fun _ _ _ pushes => by cases pushes
    unfold ResumeThreads.step at stepped
    dsimp only at stepped
    split at stepped
    · cases stepped
      exact ⟨moved.exclusive, moved.held, moved.empty, moved.front⟩
    · cases stepped
      exact moved
    · cases stepped
  | popLock =>
    unfold ResumeThreads.step at stepped
    dsimp only at stepped
    split at stepped
    · obtain ⟨mtxResume, locks, rfl⟩ := Option.map_eq_some_iff.1 stepped
      exact sectioned.lock locks fun _ same => by cases same
    · cases stepped
  | front =>
    unfold ResumeThreads.step at stepped
    dsimp only at stepped
    split at stepped
    · obtain ⟨inside, stepped⟩ := Option.ite_none_right_eq_some.1 stepped
      obtain ⟨coroutineData, head, rfl⟩ := Option.map_eq_some_iff.1 stepped
      exact sectioned.moveWorker _ sectioned.exclusive (fun other _ => sectioned.held other) (fun _ => inside)
        fun _ _ pops => by cases pops; exact head
    · cases stepped
  | popUnlock =>
    unfold ResumeThreads.step at stepped
    dsimp only at stepped
    split at stepped
    · obtain ⟨mtxResume, unlocks, rfl⟩ := Option.map_eq_some_iff.1 stepped
      refine sectioned.moveWorker _ (sectioned.exclusive.step unlocks) (fun other apart locked => ?_)
        False.elim fun _ _ pops => by cases pops
      refine CoSpinlock.step_inside unlocks (sectioned.held other locked) fun same => ?_
      exact apart (SpinEvent.unlock.inj same).symm
    · cases stepped
  | worker event =>
    unfold ResumeThreads.step at stepped
    dsimp only at stepped
    split at stepped
    · obtain ⟨-, stepped⟩ := Option.ite_none_right_eq_some.1 stepped
      obtain ⟨after, ran, rfl⟩ := Option.map_eq_some_iff.1 stepped
      have moved := sectioned.moveWorker (.worker after.worker) sectioned.exclusive
        (fun other _ => sectioned.held other) False.elim fun _ _ pops => by cases pops
      exact ⟨moved.exclusive, moved.held, moved.empty, moved.front⟩
    · cases stepped

/-! ## Sections as single steps -/

theorem ResumeThreads.sections_moveCaller (threads : ResumeThreads) (thread : Nat) (call : ResumeCall) :
    (threads.moveCaller thread call).sections =
      { threads.sections with callers := Function.update threads.sections.callers thread call.section } := by
  have callers : (threads.moveCaller thread call).sections.callers =
      Function.update threads.sections.callers thread call.section := by
    funext other
    by_cases moved : other = thread
    · subst moved
      simp [ResumeThreads.sections, ResumeThreads.moveCaller]
    · simp [ResumeThreads.sections, ResumeThreads.moveCaller, Function.update_of_ne moved]
  rw [← callers]
  rfl

/-- A call that moves within its section, or up to it, does not show. -/
theorem ResumeThreads.sections_moved {thread : Nat} (call : ResumeCall)
    (same : call.section = (threads.callers thread).section) :
    (threads.moveCaller thread call).sections = threads.sections := by
  have unmoved : Function.update threads.sections.callers thread call.section = threads.sections.callers := by
    rw [same]
    exact Function.update_eq_self thread threads.sections.callers
  rw [ResumeThreads.sections_moveCaller, unmoved]

theorem Sectioned.push_sections (sectioned : Sectioned threads) {thread : Nat}
    (stepped : threads.step (.push thread) = some next) :
    (threads.labels (.push thread)).foldlM ResumeState.step threads.sections = some next.sections := by
  unfold ResumeThreads.step at stepped
  dsimp only at stepped
  split at stepped
  · rename_i queue coroutineData writeSocket pushes
    cases stepped
    have label : threads.labels (.push thread) = [.push thread queue coroutineData] := by
      simp [ResumeThreads.labels, pushes]
    have outside : threads.sections.callers thread = .outside := by
      simp [ResumeThreads.sections, pushes, ResumeCall.section]
    rw [label]
    refine Lib.run_cons.2 ⟨_, if_pos outside, ?_⟩
    have tested := sectioned.empty thread queue coroutineData writeSocket pushes
    have callers := congrArg ResumeState.callers
      (ResumeThreads.sections_moveCaller threads thread (.unlock queue writeSocket))
    subst tested
    exact congrArg (fun callers => some ({ threads.sections with
      queue := Function.update threads.queue queue (threads.queue queue ++ [coroutineData]), callers } : ResumeState))
      callers.symm
  · cases stepped

theorem Sectioned.pop_sections (sectioned : Sectioned threads) (stepped : threads.step .pop = some next) :
    threads.sections.step .pop = some next.sections := by
  unfold ResumeThreads.step at stepped
  dsimp only at stepped
  split at stepped
  · rename_i queue coroutineData pops
    cases stepped
    have head := sectioned.front queue coroutineData pops
    obtain ⟨rest, entries⟩ := List.head?_eq_some_iff.1 head
    simp [ResumeState.step, pops, entries, ResumeThreads.sections, ResumeState.moveTo, ResumeTurn.section]
  · cases stepped

theorem ResumeThreads.write_sections {thread : Nat} (stepped : threads.step (.write thread) = some next) :
    threads.sections.step (.write thread) = some next.sections := by
  have moved := ResumeThreads.sections_moveCaller threads thread .outside
  unfold ResumeThreads.step at stepped
  dsimp only at stepped
  split at stepped
  · rename_i queue writes
    cases stepped
    have caller : threads.sections.callers thread = .pushed queue true := by
      simp [ResumeThreads.sections, writes, ResumeCall.section]
    have callers := congrArg ResumeState.callers moved
    simp only [ResumeState.step, caller, if_true]
    exact congrArg (fun callers => some ({ threads.sections with
      socketBytes := threads.socketBytes + 1, edge := true, callers } : ResumeState)) callers.symm
  · rename_i queue writes
    cases stepped
    have caller : threads.sections.callers thread = .pushed queue false := by
      simp [ResumeThreads.sections, writes, ResumeCall.section]
    simp only [ResumeState.step, caller, Bool.false_eq_true, if_false]
    exact congrArg some moved.symm
  · cases stepped

theorem ResumeThreads.worker_sections {event : ResumeEvent} (stepped : threads.step (.worker event) = some next) :
    threads.sections.step event = some next.sections := by
  unfold ResumeThreads.step at stepped
  dsimp only at stepped
  split at stepped
  · obtain ⟨unlocked, stepped⟩ := Option.ite_none_right_eq_some.1 stepped
    obtain ⟨after, ran, rfl⟩ := Option.map_eq_some_iff.1 stepped
    obtain ⟨queue, callers⟩ := ResumeState.unlocked_queue unlocked ran
    rw [ran]
    cases after
    cases queue
    cases callers
    rfl
  · cases stepped

/-- The thread that is in a section is the only one, so the section can be one step. -/
theorem resume_simulates : Lib.Simulates ResumeThreads.step ResumeState.step ResumeThreads.labels
    fun threads state => Sectioned threads ∧ state = threads.sections := by
  rintro threads event next _ ⟨sectioned, rfl⟩ stepped
  suffices matched : (threads.labels event).foldlM ResumeState.step threads.sections = some next.sections from
    ⟨next.sections, matched, sectioned.step stepped, rfl⟩
  have one : ∀ {label : ResumeEvent}, threads.sections.step label = some next.sections →
      [label].foldlM ResumeState.step threads.sections = some next.sections :=
    fun ran => Lib.run_cons.2 ⟨_, ran, rfl⟩
  cases event with
  | push thread => exact sectioned.push_sections stepped
  | pop => exact one (sectioned.pop_sections stepped)
  | write thread => exact one (ResumeThreads.write_sections stepped)
  | worker event => exact one (ResumeThreads.worker_sections stepped)
  | call thread queue coroutineData =>
    unfold ResumeThreads.step at stepped
    dsimp only at stepped
    split at stepped
    · rename_i outside
      obtain ⟨mtxResume, -, rfl⟩ := Option.map_eq_some_iff.1 stepped
      refine congrArg some (ResumeThreads.sections_moved (.lock queue coroutineData) ?_).symm
      rw [outside]
      rfl
    · cases stepped
  | testAndSet thread =>
    obtain ⟨mtxResume, -, rfl⟩ := Option.map_eq_some_iff.1 stepped
    rfl
  | schedYield thread =>
    obtain ⟨mtxResume, -, rfl⟩ := Option.map_eq_some_iff.1 stepped
    rfl
  | empty thread =>
    unfold ResumeThreads.step at stepped
    dsimp only at stepped
    split at stepped
    · rename_i locks
      obtain ⟨-, stepped⟩ := Option.ite_none_right_eq_some.1 stepped
      cases stepped
      refine congrArg some (ResumeThreads.sections_moved _ ?_).symm
      rw [locks]
      rfl
    · cases stepped
  | unlock thread =>
    unfold ResumeThreads.step at stepped
    dsimp only at stepped
    split at stepped
    · rename_i queue writeSocket unlocks
      obtain ⟨mtxResume, -, rfl⟩ := Option.map_eq_some_iff.1 stepped
      refine congrArg some (ResumeThreads.sections_moved (.write queue writeSocket) ?_).symm
      rw [unlocks]
      rfl
    · cases stepped
  | popLock =>
    unfold ResumeThreads.step at stepped
    dsimp only at stepped
    split at stepped
    · obtain ⟨mtxResume, -, rfl⟩ := Option.map_eq_some_iff.1 stepped
      rfl
    · cases stepped
  | front =>
    unfold ResumeThreads.step at stepped
    dsimp only at stepped
    split at stepped
    · rename_i queue pops
      obtain ⟨-, stepped⟩ := Option.ite_none_right_eq_some.1 stepped
      obtain ⟨coroutineData, -, rfl⟩ := Option.map_eq_some_iff.1 stepped
      simp [ResumeThreads.labels, ResumeThreads.sections, pops, ResumeTurn.section]
    · cases stepped
  | popUnlock =>
    unfold ResumeThreads.step at stepped
    dsimp only at stepped
    split at stepped
    · rename_i queue coroutineData unlocks
      obtain ⟨mtxResume, -, rfl⟩ := Option.map_eq_some_iff.1 stepped
      simp [ResumeThreads.labels, ResumeThreads.sections, unlocks, ResumeTurn.section]
    · cases stepped

theorem guarded_fresh : Sectioned {} :=
  ⟨exclusive_fresh, fun thread locked => by cases thread <;> exact locked.elim,
    fun _ _ _ _ pushes => (by cases pushes), fun _ _ pops => (by cases pops)⟩

/-- What holds of the threads after any number of steps from a fresh start. -/
structure ResumeLocked (events : List ResumeThreadEvent) (final : ResumeThreads) : Prop where
  /-- the sections took place one after the other, each as one step -/
  serial : (Lib.runLabels ResumeThreads.step ResumeThreads.labels {} events).foldlM ResumeState.step {} =
    some final.sections
  one : ∀ first second, final.Locked first → final.Locked second → first = second
  /-- the worker does not call `front` on an empty queue -/
  front : ∀ queue, final.worker = .worker (.pop queue) → final.queue queue ≠ []

theorem resume_locked {events : List ResumeThreadEvent} {final : ResumeThreads}
    (ran : events.foldlM ResumeThreads.step {} = some final) : ResumeLocked events final := by
  obtain ⟨_, serial, sectioned, rfl⟩ := resume_simulates.run ⟨guarded_fresh, rfl⟩ ran
  have poppable : final.sections.Poppable :=
    Lib.run_keeps ResumeState.step ResumeState.Poppable (fun _ _ _ poppable => poppable.step)
      (fun _ popping => by cases popping) serial
  refine ⟨serial, fun _ _ one two => sectioned.one one two, fun queue pops => poppable queue ?_⟩
  simp [ResumeThreads.sections, pops, ResumeTurn.section]

/-- A second thread waits for the lock while the first one is behind `empty`. -/
def waitsForPush : List ResumeThreadEvent := [
  .call 1 .waitResumes (4, 0), .testAndSet (some 1), .empty 1,
  .call 2 .waitResumes (6, 0), .testAndSet (some 2), .push 1, .unlock 1,
  .testAndSet (some 2), .empty 2]

theorem resume_locked_waits : ∃ final, ResumeLocked waitsForPush final ∧
    final.callers 2 = .push .waitResumes (6, 0) false := by
  have ran : (waitsForPush.foldlM ResumeThreads.step {}).map (·.callers 2) =
      some (.push .waitResumes (6, 0) false) := by
    decide
  obtain ⟨final, ran, pushes⟩ := Option.map_eq_some_iff.1 ran
  exact ⟨final, resume_locked ran, pushes⟩

/-! ## First in, first out -/

theorem Sectioned.fifo (sectioned : Sectioned threads) {event : ResumeThreadEvent}
    (stepped : threads.step event = some next) (queue : ResumeQueue) :
    threads.queue queue ++ threads.pushed queue event = threads.popped queue event ++ next.queue queue := by
  have still : threads.pushed queue event = [] → threads.popped queue event = [] →
      next.queue = threads.queue → threads.queue queue ++ threads.pushed queue event =
        threads.popped queue event ++ next.queue queue := fun none neither same => by
    rw [none, neither, same]
    simp
  cases event with
  | push thread =>
    unfold ResumeThreads.step at stepped
    dsimp only at stepped
    split at stepped
    · rename_i other coroutineData writeSocket pushes
      cases stepped
      by_cases same : other = queue
      · subst same
        simp [ResumeThreads.pushed, ResumeThreads.popped, pushes]
      · simp [ResumeThreads.pushed, ResumeThreads.popped, pushes, same,
          Function.update_of_ne (Ne.symm same)]
    · cases stepped
  | pop =>
    unfold ResumeThreads.step at stepped
    dsimp only at stepped
    split at stepped
    · rename_i other coroutineData pops
      cases stepped
      obtain ⟨rest, entries⟩ := List.head?_eq_some_iff.1 (sectioned.front other coroutineData pops)
      by_cases same : other = queue
      · subst same
        simp [ResumeThreads.pushed, ResumeThreads.popped, pops, entries]
      · simp [ResumeThreads.pushed, ResumeThreads.popped, pops, same,
          Function.update_of_ne (Ne.symm same)]
    · cases stepped
  | worker event =>
    refine still rfl rfl ?_
    unfold ResumeThreads.step at stepped
    dsimp only at stepped
    split at stepped
    · obtain ⟨-, stepped⟩ := Option.ite_none_right_eq_some.1 stepped
      obtain ⟨after, -, rfl⟩ := Option.map_eq_some_iff.1 stepped
      rfl
    · cases stepped
  | testAndSet thread | schedYield thread =>
    obtain ⟨mtxResume, -, rfl⟩ := Option.map_eq_some_iff.1 stepped
    exact still rfl rfl rfl
  | call thread _ _ | unlock thread | popLock | popUnlock =>
    refine still rfl rfl ?_
    unfold ResumeThreads.step at stepped
    dsimp only at stepped
    split at stepped
    · obtain ⟨mtxResume, -, rfl⟩ := Option.map_eq_some_iff.1 stepped
      rfl
    · cases stepped
  | empty thread =>
    refine still rfl rfl ?_
    unfold ResumeThreads.step at stepped
    dsimp only at stepped
    split at stepped
    · obtain ⟨-, stepped⟩ := Option.ite_none_right_eq_some.1 stepped
      cases stepped
      rfl
    · cases stepped
  | front =>
    refine still rfl rfl ?_
    unfold ResumeThreads.step at stepped
    dsimp only at stepped
    split at stepped
    · obtain ⟨-, stepped⟩ := Option.ite_none_right_eq_some.1 stepped
      obtain ⟨coroutineData, -, rfl⟩ := Option.map_eq_some_iff.1 stepped
      rfl
    · cases stepped
  | write thread =>
    refine still rfl rfl ?_
    unfold ResumeThreads.step at stepped
    dsimp only at stepped
    split at stepped <;> cases stepped <;> rfl

def popsOne : List ResumeThreadEvent := [
  .push 2, .unlock 2, .worker (.epollReturn false), .worker (.processed []), .worker (.delay []),
  .worker .test, .popLock, .testAndSet none, .front, .pop, .popUnlock]

/-- Each entry is popped once, in the order of the pushes, or still waits. -/
theorem resume_fifo {events : List ResumeThreadEvent} {final : ResumeThreads}
    (ran : events.foldlM ResumeThreads.step {} = some final) (queue : ResumeQueue) :
    Lib.runLabels ResumeThreads.step (ResumeThreads.pushed queue) {} events =
      Lib.runLabels ResumeThreads.step (ResumeThreads.popped queue) {} events ++ final.queue queue :=
  Lib.run_fifo (·.queue queue) Sectioned (fun _ _ _ sectioned => sectioned.step)
    (fun _ _ _ sectioned stepped => sectioned.fifo stepped queue) guarded_fresh ran

/-- Two entries, of which the worker has popped one. -/
theorem resume_fifo_second : ∃ final : ResumeThreads,
    Lib.runLabels ResumeThreads.step (ResumeThreads.pushed .waitResumes) {} (waitsForPush ++ popsOne) =
      Lib.runLabels ResumeThreads.step (ResumeThreads.popped .waitResumes) {} (waitsForPush ++ popsOne) ++
        final.queue .waitResumes ∧ final.queue .waitResumes = [(6, 0)] := by
  have ran : ((waitsForPush ++ popsOne).foldlM ResumeThreads.step {}).map (·.queue .waitResumes) =
      some [(6, 0)] := by
    decide
  obtain ⟨final, ran, waits⟩ := Option.map_eq_some_iff.1 ran
  exact ⟨final, resume_fifo ran .waitResumes, waits⟩

end

end CoServer
