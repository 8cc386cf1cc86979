import CoServer.Lib.Run
import Mathlib.Logic.Function.Basic

/-! # Resuming coroutines from other threads

`resume_async` and `resume_single_async` push to a queue under a lock and write
one byte to the resume socket, but only when the queue was empty.  The worker
tests the queues without the lock.  Each section under the lock, each test, each
write and each `epoll_wait` is one step, and the steps of the callers and of the
worker come in any order. -/

namespace CoServer

/-- `m_waitResumes` and `m_waitSingles` -/
inductive ResumeQueue where
  | waitResumes
  | waitSingles
deriving DecidableEq

/-- Where a thread stands that may call `resume_async` or `resume_single_async`. -/
inductive CallerState where
  | outside
  /-- behind the section under the lock -/
  | pushed (queue : ResumeQueue) (writeSocket : Bool)
deriving DecidableEq

/-- Where the worker stands in `process_events_and_timers`. -/
inductive WorkerState where
  | epollWait
  /-- `epoll_wait` returned, perhaps with an event on the resume socket -/
  | processEvents (resumeRead : Bool)
  | delayConnections
  /-- `while (!queue.empty())` -/
  | emptyTest (queue : ResumeQueue)
  | pop (queue : ResumeQueue)
  | resume (queue : ResumeQueue) (coroutineData : Nat × Nat)
  | timers
deriving DecidableEq

/-- What follows the loop over a queue. -/
def ResumeQueue.next : ResumeQueue → WorkerState
  | .waitResumes => .emptyTest .waitSingles
  | .waitSingles => .timers

structure ResumeState where
  queue : ResumeQueue → List (Nat × Nat) := fun _ => []
  delayConnections : List (Nat × Nat) := []
  /-- the bytes in the resume socket -/
  socketBytes : Nat := 0
  /-- an edge on the resume socket that `epoll_wait` has not reported -/
  edge : Bool := false
  worker : WorkerState := .epollWait
  callers : Nat → CallerState := fun _ => .outside

inductive ResumeEvent where
  /-- the section under the lock, by any thread -/
  | push (thread : Nat) (queue : ResumeQueue) (coroutineData : Nat × Nat)
  /-- the rest of the call -/
  | write (thread : Nat)
  /-- `epoll_wait` returns: with the edge, with other events, or at a timeout -/
  | epollReturn (resumeRead : Bool)
  /-- the handlers of the events ran -/
  | processed (delayed : List (Nat × Nat))
  /-- one turn of the loop over `m_delayConnections` -/
  | delay (delayed : List (Nat × Nat))
  | test
  | pop
  /-- the resumed coroutine ran -/
  | resumed (delayed : List (Nat × Nat))
  | timersDone (needContinue : Bool) (delayed : List (Nat × Nat))

namespace ResumeState

/-- The handlers that ran pushed to `m_delayConnections`. -/
def moveTo (self : ResumeState) (worker : WorkerState) (delayed : List (Nat × Nat) := []) :
    ResumeState :=
  { self with worker, delayConnections := self.delayConnections ++ delayed }

def step (self : ResumeState) : ResumeEvent → Option ResumeState
  | .push thread queue coroutineData =>
    if self.callers thread = .outside then
      some { self with
        queue := Function.update self.queue queue (self.queue queue ++ [coroutineData])
        callers := Function.update self.callers thread (.pushed queue (self.queue queue).isEmpty) }
    else none
  | .write thread =>
    match self.callers thread with
    | .outside => none
    | .pushed _ writeSocket =>
      let self := { self with callers := Function.update self.callers thread .outside }
      if writeSocket then some { self with socketBytes := self.socketBytes + 1, edge := true }
      else some self
  | .epollReturn resumeRead =>
    if self.worker = .epollWait ∧ (resumeRead = true → self.edge = true) then
      some { self.moveTo (.processEvents resumeRead) with edge := self.edge && !resumeRead }
    else none
  | .processed delayed =>
    match self.worker with
    | .processEvents true =>
      some { self.moveTo .delayConnections delayed with socketBytes := self.socketBytes - 8 }
    | .processEvents false => some (self.moveTo .delayConnections delayed)
    | _ => none
  | .delay delayed =>
    if self.worker = .delayConnections then
      match self.delayConnections with
      | [] => some (self.moveTo (.emptyTest .waitResumes))
      | _ :: rest => some ({ self with delayConnections := rest }.moveTo .delayConnections delayed)
    else none
  | .test =>
    match self.worker with
    | .emptyTest queue =>
      some (self.moveTo (if (self.queue queue).isEmpty then queue.next else .pop queue))
    | _ => none
  | .pop =>
    match self.worker with
    | .pop queue =>
      match self.queue queue with
      | [] => none
      | coroutineData :: rest =>
        some ({ self with queue := Function.update self.queue queue rest }.moveTo
          (.resume queue coroutineData))
    | _ => none
  | .resumed delayed =>
    match self.worker with
    | .resume queue _ => some (self.moveTo (.emptyTest queue) delayed)
    | _ => none
  | .timersDone needContinue delayed =>
    if self.worker = .timers then
      some (self.moveTo (if needContinue then .delayConnections else .epollWait) delayed)
    else none

end ResumeState

/-! ## No entry is stranded -/

/-- The worker is behind its last test of the queue, which was empty then. -/
def WorkerState.Passed : ResumeQueue → WorkerState → Prop
  | _, .epollWait | _, .timers => True
  | .waitResumes, .emptyTest .waitSingles | .waitResumes, .pop .waitSingles
  | .waitResumes, .resume .waitSingles _ => True
  | _, _ => False

/-- The worker will be woken up. -/
def ResumeState.Noticed (self : ResumeState) (queue : ResumeQueue) : Prop :=
  self.edge = true ∨ ∃ thread, self.callers thread = .pushed queue true

/-- Entries that came after the last test are noticed. -/
def ResumeState.Awake (self : ResumeState) (queue : ResumeQueue) : Prop :=
  self.worker.Passed queue → self.queue queue ≠ [] → self.Noticed queue

/-- The entry that the worker is about to pop is there: only the worker pops. -/
def ResumeState.Poppable (self : ResumeState) : Prop :=
  ∀ queue, self.worker = .pop queue → self.queue queue ≠ []

section
variable {self next : ResumeState} {queue : ResumeQueue} {thread : Nat}

theorem ResumeState.Noticed.push (noticed : self.Noticed queue)
    (outside : self.callers thread = .outside) (state : CallerState) :
    ({ self with callers := Function.update self.callers thread state } : ResumeState).Noticed
      queue := by
  obtain edge | ⟨other, pushed⟩ := noticed
  · exact .inl edge
  · refine .inr ⟨other, ?_⟩
    have apart : other ≠ thread := by
      rintro rfl
      cases outside.symm.trans pushed
    exact (Function.update_of_ne apart _ _).trans pushed

/-- The worker moves on without passing a test of the queue. -/
theorem ResumeState.Awake.move (awake : self.Awake queue) (same : next.queue queue = self.queue queue)
    (edge : next.edge = self.edge) (callers : next.callers = self.callers)
    (passed : next.worker.Passed queue → self.worker.Passed queue) : next.Awake queue := by
  intro behind waiting
  rw [same] at waiting
  obtain pending | ⟨thread, pushed⟩ := awake (passed behind) waiting
  · exact .inl (edge.trans pending)
  · exact .inr ⟨thread, callers ▸ pushed⟩

theorem ResumeState.Awake.test (awake : self.Awake queue)
    (stepped : self.step .test = some next) : next.Awake queue := by
  unfold ResumeState.step at stepped
  dsimp only at stepped
  split at stepped
  · rename_i tested testing
    cases stepped
    by_cases empty : (self.queue tested).isEmpty
    · rw [if_pos empty]
      by_cases same : queue = tested
      · subst same
        exact fun _ waiting => absurd (List.isEmpty_iff.1 empty) waiting
      · refine awake.move rfl rfl rfl fun behind => ?_
        rw [testing]
        -- only the second loop has passed the queue of the first
        cases tested <;> cases queue <;> trivial
    · rw [if_neg empty]
      refine awake.move rfl rfl rfl fun behind => ?_
      rw [testing]
      cases tested <;> cases queue <;> trivial
  · cases stepped

theorem ResumeState.Awake.pop (awake : self.Awake queue) (stepped : self.step .pop = some next) :
    next.Awake queue := by
  unfold ResumeState.step at stepped
  dsimp only at stepped
  split at stepped
  · rename_i popped popping
    split at stepped
    · cases stepped
    · rename_i coroutineData rest front
      cases stepped
      by_cases same : queue = popped
      · subst same
        cases queue <;> exact fun behind => behind.elim
      · refine awake.move (Function.update_of_ne same _ _) rfl rfl fun behind => ?_
        rw [popping]
        cases popped <;> cases queue <;> trivial
  · cases stepped

theorem ResumeState.Awake.push (awake : self.Awake queue) {pushed : ResumeQueue}
    {coroutineData : Nat × Nat} (stepped : self.step (.push thread pushed coroutineData) = some next) :
    next.Awake queue := by
  obtain ⟨outside, stepped⟩ := Option.ite_none_right_eq_some.1 stepped
  cases stepped
  intro behind waiting
  by_cases same : queue = pushed
  · subst same
    by_cases empty : (self.queue queue).isEmpty
    · refine .inr ⟨thread, ?_⟩
      simp [empty]
    · exact (awake behind (by simpa using empty)).push outside _
  · dsimp only at waiting
    rw [Function.update_of_ne same] at waiting
    exact (awake behind waiting).push outside _

theorem ResumeState.Awake.write (awake : self.Awake queue)
    (stepped : self.step (.write thread) = some next) : next.Awake queue := by
  unfold ResumeState.step at stepped
  dsimp only at stepped
  split at stepped
  · cases stepped
  · rename_i pushed writeSocket writing
    split at stepped
    · cases stepped
      exact fun _ _ => .inl rfl
    · rename_i skipped
      cases stepped
      intro behind waiting
      obtain pending | ⟨other, wrote⟩ := awake behind waiting
      · exact .inl pending
      · refine .inr ⟨other, ?_⟩
        have apart : other ≠ thread := by
          rintro rfl
          cases writing.symm.trans wrote
          exact skipped rfl
        exact (Function.update_of_ne apart _ _).trans wrote

theorem ResumeState.Awake.step (awake : self.Awake queue) {event : ResumeEvent}
    (stepped : self.step event = some next) : next.Awake queue := by
  cases event with
  | push thread pushed coroutineData => exact awake.push stepped
  | write thread => exact awake.write stepped
  | epollReturn resumeRead =>
    obtain ⟨-, stepped⟩ := Option.ite_none_right_eq_some.1 stepped
    cases stepped
    cases queue <;> exact fun behind => behind.elim
  | processed delayed =>
    unfold ResumeState.step at stepped
    dsimp only at stepped
    split at stepped
    · cases stepped
      cases queue <;> exact fun behind => behind.elim
    · cases stepped
      cases queue <;> exact fun behind => behind.elim
    · cases stepped
  | delay delayed =>
    obtain ⟨-, stepped⟩ := Option.ite_none_right_eq_some.1 stepped
    split at stepped
    · cases stepped
      cases queue <;> exact fun behind => behind.elim
    · cases stepped
      cases queue <;> exact fun behind => behind.elim
  | test => exact awake.test stepped
  | pop => exact awake.pop stepped
  | resumed delayed =>
    unfold ResumeState.step at stepped
    dsimp only at stepped
    split at stepped
    · rename_i resumed coroutineData resuming
      cases stepped
      refine awake.move rfl rfl rfl fun behind => ?_
      rw [resuming]
      cases resumed <;> cases queue <;> trivial
    · cases stepped
  | timersDone needContinue delayed =>
    obtain ⟨timers, stepped⟩ := Option.ite_none_right_eq_some.1 stepped
    cases stepped
    refine awake.move rfl rfl rfl fun _ => ?_
    rw [timers]
    cases queue <;> trivial

/-- Nobody else pops: an entry that was found by the test is still there. -/
theorem ResumeState.Poppable.step (poppable : self.Poppable) {event : ResumeEvent}
    (stepped : self.step event = some next) : next.Poppable := by
  intro found popping
  cases event with
  | push thread pushed coroutineData =>
    obtain ⟨-, stepped⟩ := Option.ite_none_right_eq_some.1 stepped
    cases stepped
    dsimp only
    -- a push never empties a queue
    by_cases same : found = pushed
    · subst same
      simp
    · rw [Function.update_of_ne same]
      exact poppable found popping
  | write thread =>
    unfold ResumeState.step at stepped
    dsimp only at stepped
    split at stepped
    · cases stepped
    · split at stepped
      · cases stepped
        exact poppable found popping
      · cases stepped
        exact poppable found popping
  | epollReturn resumeRead =>
    obtain ⟨-, stepped⟩ := Option.ite_none_right_eq_some.1 stepped
    cases stepped
    cases popping
  | processed delayed =>
    unfold ResumeState.step at stepped
    dsimp only at stepped
    split at stepped
    · cases stepped
      cases popping
    · cases stepped
      cases popping
    · cases stepped
  | delay delayed =>
    obtain ⟨-, stepped⟩ := Option.ite_none_right_eq_some.1 stepped
    split at stepped
    · cases stepped
      cases popping
    · cases stepped
      cases popping
  | test =>
    unfold ResumeState.step at stepped
    dsimp only at stepped
    split at stepped
    · rename_i tested testing
      cases stepped
      -- the worker pops what it has found not empty, and nobody else pops
      by_cases empty : (self.queue tested).isEmpty
      · simp only [ResumeState.moveTo, if_pos empty] at popping
        cases tested <;> cases popping
      · simp only [ResumeState.moveTo, if_neg empty] at popping
        cases popping
        exact fun none => empty (List.isEmpty_iff.2 none)
    · cases stepped
  | pop =>
    unfold ResumeState.step at stepped
    dsimp only at stepped
    split at stepped
    · split at stepped
      · cases stepped
      · cases stepped
        cases popping
    · cases stepped
  | resumed delayed =>
    unfold ResumeState.step at stepped
    dsimp only at stepped
    split at stepped
    · cases stepped
      cases popping
    · cases stepped
  | timersDone needContinue delayed =>
    obtain ⟨-, stepped⟩ := Option.ite_none_right_eq_some.1 stepped
    cases stepped
    cases needContinue <;> cases popping

/-- In every interleaving: a worker that blocks in `epoll_wait` before entries of a
    queue has an edge pending, or the thread that pushed the first of them is about to
    write. -/
theorem resume_not_stranded {events : List ResumeEvent} {final : ResumeState}
    (ran : events.foldlM ResumeState.step {} = some final) (queue : ResumeQueue)
    (blocked : final.worker = .epollWait) (waiting : final.queue queue ≠ []) :
    final.edge = true ∨ ∃ thread, final.callers thread = .pushed queue true := by
  have awake : final.Awake queue :=
    Lib.run_keeps ResumeState.step (·.Awake queue) (fun _ _ _ awake => awake.step)
      (fun _ waiting => absurd rfl waiting) ran
  refine awake ?_ waiting
  rw [blocked]
  cases queue <;> trivial

/-- A thread pushes behind the last test of the worker, a second one skips its write,
    and the worker blocks before the first one has written. -/
def pushedBehindTest : List ResumeEvent := [
  .epollReturn false, .processed [], .delay [], .test,
  .push 1 .waitResumes (4, 0), .test, .timersDone false [],
  .push 2 .waitResumes (6, 0), .write 2]

theorem resume_not_stranded_behind : ∃ final, pushedBehindTest.foldlM ResumeState.step {} = some final ∧
    final.queue .waitResumes = [(4, 0), (6, 0)] ∧
    (final.edge = true ∨ ∃ thread, final.callers thread = .pushed .waitResumes true) :=
  ⟨_, rfl, rfl, @resume_not_stranded pushedBehindTest _ rfl .waitResumes rfl (by decide)⟩

/-- The worker never pops from an empty queue, although it tests without the lock. -/
theorem resume_pops {events : List ResumeEvent} {final : ResumeState}
    (ran : events.foldlM ResumeState.step {} = some final) (queue : ResumeQueue)
    (popping : final.worker = .pop queue) : final.queue queue ≠ [] :=
  Lib.run_keeps ResumeState.step ResumeState.Poppable (fun _ _ _ poppable => poppable.step)
    (fun _ popping => by cases popping) ran queue popping

end

end CoServer
