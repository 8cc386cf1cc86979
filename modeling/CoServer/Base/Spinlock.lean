import CoServer.Lib.Run
import Mathlib.Logic.Function.Basic

/-! # `CoSpinlock`

`lock` tries the flag once, then four times between two calls of `sched_yield`.
A `test_and_set` is one step; the steps of the threads come in any order. -/

namespace CoServer

/-- Where a thread stands in `lock`. -/
inductive SpinState where
  /-- before the first `test_and_set` -/
  | first
  /-- in the inner loop -/
  | spin (i : Nat)
  | schedYield
deriving DecidableEq

/-- Behind a `test_and_set` that found the flag set. -/
def SpinState.failed : SpinState → SpinState
  | .first => .spin 0
  | .spin i => if i + 1 < 4 then .spin (i + 1) else .schedYield
  | .schedYield => .schedYield

inductive SpinThread where
  | outside
  | locking (state : SpinState)
  /-- behind `lock` or a `try_lock` that succeeded -/
  | inside
deriving DecidableEq

structure CoSpinlock (Thread : Type) where
  /-- `m_lock` -/
  lock : Bool := false
  threads : Thread → SpinThread := fun _ => .outside

inductive SpinEvent (Thread : Type) where
  /-- `lock` is called -/
  | call (thread : Thread)
  | testAndSet (thread : Thread)
  | schedYield (thread : Thread)
  | tryLock (thread : Thread)
  | unlock (thread : Thread)
deriving DecidableEq

variable {Thread : Type} [DecidableEq Thread]

namespace CoSpinlock

def move (self : CoSpinlock Thread) (thread : Thread) (state : SpinThread) : CoSpinlock Thread :=
  { self with threads := Function.update self.threads thread state }

/-- `test_and_set` by a thread that goes on at `failed` if the flag was set. -/
def test (self : CoSpinlock Thread) (thread : Thread) (failed : SpinThread) : CoSpinlock Thread :=
  { self.move thread (if self.lock then failed else .inside) with lock := true }

/-- A thread calls `unlock` behind `lock` only. -/
def step (self : CoSpinlock Thread) : SpinEvent Thread → Option (CoSpinlock Thread)
  | .call thread =>
    if self.threads thread = .outside then some (self.move thread (.locking .first)) else none
  | .testAndSet thread =>
    match self.threads thread with
    | .locking .schedYield => none
    | .locking state => some (self.test thread (.locking state.failed))
    | _ => none
  | .schedYield thread =>
    if self.threads thread = .locking .schedYield then some (self.move thread (.locking (.spin 0))) else none
  | .tryLock thread =>
    if self.threads thread = .outside then some (self.test thread .outside) else none
  | .unlock thread =>
    if self.threads thread = .inside then some { self.move thread .outside with lock := false } else none

end CoSpinlock

/-! ## One thread at a time -/

/-- The flag is set while a thread is inside, and no two are. -/
structure Exclusive (lock : CoSpinlock Thread) : Prop where
  set : lock.lock = true ↔ ∃ thread, lock.threads thread = .inside
  one : ∀ first second, lock.threads first = .inside → lock.threads second = .inside → first = second

section
variable {lock next : CoSpinlock Thread} {thread : Thread}

/-- A thread moves that is not inside and does not get inside. -/
theorem Exclusive.move (exclusive : Exclusive lock) (was : lock.threads thread ≠ .inside) {state : SpinThread}
    (stays : state ≠ .inside) : Exclusive (lock.move thread state) := by
  have same : ∀ other, (lock.move thread state).threads other = .inside ↔ lock.threads other = .inside :=
    fun other => by
      by_cases moved : other = thread
      · subst moved
        simp only [CoSpinlock.move, Function.update_self, stays, was]
      · simp only [CoSpinlock.move, Function.update_of_ne moved]
  refine ⟨exclusive.set.trans (exists_congr fun other => (same other).symm), fun first second one two => ?_⟩
  exact exclusive.one first second ((same first).1 one) ((same second).1 two)

theorem Exclusive.test (exclusive : Exclusive lock) (was : lock.threads thread ≠ .inside) {failed : SpinThread}
    (stays : failed ≠ .inside) : Exclusive (lock.test thread failed) := by
  cases held : lock.lock with
  | true =>
    have kept : lock.test thread failed = lock.move thread failed := by
      unfold CoSpinlock.test
      rw [held, if_pos rfl]
      unfold CoSpinlock.move
      rw [held]
    rw [kept]
    exact exclusive.move was stays
  | false =>
    have none : ∀ other, lock.threads other ≠ .inside := fun other inside =>
      Bool.false_ne_true (held.symm.trans (exclusive.set.2 ⟨other, inside⟩))
    have only : ∀ other, (lock.test thread failed).threads other = .inside → other = thread :=
      fun other inside => by
        by_contra moved
        simp only [CoSpinlock.test, CoSpinlock.move, Function.update_of_ne moved] at inside
        exact none other inside
    refine ⟨iff_of_true rfl ⟨thread, ?_⟩, fun first second one two => ?_⟩
    · simp only [CoSpinlock.test, CoSpinlock.move, held, Bool.false_eq_true, if_false, Function.update_self]
    · exact (only first one).trans (only second two).symm

theorem Exclusive.unlock (exclusive : Exclusive lock) (was : lock.threads thread = .inside) :
    Exclusive { lock.move thread .outside with lock := false } := by
  have none : ∀ other, (lock.move thread .outside).threads other ≠ .inside := fun other inside => by
    by_cases moved : other = thread
    · subst moved
      simp only [CoSpinlock.move, Function.update_self] at inside
      cases inside
    · simp only [CoSpinlock.move, Function.update_of_ne moved] at inside
      exact moved (exclusive.one other thread inside was)
  exact ⟨iff_of_false Bool.false_ne_true fun ⟨other, inside⟩ => none other inside,
    fun first _ inside => absurd inside (none first)⟩

theorem Exclusive.step {event : SpinEvent Thread} (exclusive : Exclusive lock)
    (stepped : lock.step event = some next) : Exclusive next := by
  unfold CoSpinlock.step at stepped
  cases event with
  | call thread =>
    obtain ⟨outside, stepped⟩ := Option.ite_none_right_eq_some.1 stepped
    cases stepped
    exact exclusive.move (by rw [outside]; decide) SpinThread.noConfusion
  | testAndSet thread =>
    dsimp only at stepped
    split at stepped
    · cases stepped
    · rename_i state _ locking
      cases stepped
      exact exclusive.test (by rw [locking]; exact SpinThread.noConfusion) SpinThread.noConfusion
    · cases stepped
  | schedYield thread =>
    obtain ⟨yields, stepped⟩ := Option.ite_none_right_eq_some.1 stepped
    cases stepped
    exact exclusive.move (by rw [yields]; decide) SpinThread.noConfusion
  | tryLock thread =>
    obtain ⟨outside, stepped⟩ := Option.ite_none_right_eq_some.1 stepped
    cases stepped
    exact exclusive.test (by rw [outside]; decide) SpinThread.noConfusion
  | unlock thread =>
    obtain ⟨inside, stepped⟩ := Option.ite_none_right_eq_some.1 stepped
    cases stepped
    exact exclusive.unlock inside

/-- A thread that is inside stays there when another one works on the lock. -/
theorem CoSpinlock.step_inside {event : SpinEvent Thread}
    (stepped : lock.step event = some next) (inside : lock.threads thread = .inside) (stays : event ≠ .unlock thread) :
    next.threads thread = .inside := by
  have others : ∀ (other : Thread) state, lock.threads other ≠ .inside →
      Function.update lock.threads other state thread = .inside := fun other state out => by
    have apart : thread ≠ other := fun same => out (same ▸ inside)
    exact (Function.update_of_ne apart _ _).trans inside
  unfold CoSpinlock.step at stepped
  cases event with
  | call other =>
    obtain ⟨outside, stepped⟩ := Option.ite_none_right_eq_some.1 stepped
    cases stepped
    exact others other _ (by simp [outside])
  | testAndSet other =>
    dsimp only at stepped
    split at stepped
    · cases stepped
    · rename_i locking
      cases stepped
      exact others other _ (by simp [locking])
    · cases stepped
  | schedYield other =>
    obtain ⟨yields, stepped⟩ := Option.ite_none_right_eq_some.1 stepped
    cases stepped
    exact others other _ (by simp [yields])
  | tryLock other =>
    obtain ⟨outside, stepped⟩ := Option.ite_none_right_eq_some.1 stepped
    cases stepped
    exact others other _ (by simp [outside])
  | unlock other =>
    obtain ⟨-, stepped⟩ := Option.ite_none_right_eq_some.1 stepped
    cases stepped
    have apart : thread ≠ other := fun same => stays (same ▸ rfl)
    exact (Function.update_of_ne apart _ _).trans inside

omit [DecidableEq Thread] in
theorem exclusive_fresh : Exclusive ({} : CoSpinlock Thread) :=
  ⟨iff_of_false Bool.false_ne_true fun ⟨_, inside⟩ => SpinThread.noConfusion inside,
    fun _ _ inside => SpinThread.noConfusion inside⟩

/-! ## Nobody spins in vain -/

/-- The inner loop counts to four. -/
def Counted (lock : CoSpinlock Thread) : Prop :=
  ∀ thread i, lock.threads thread = .locking (.spin i) → i < 4

theorem SpinState.failed_counted {state : SpinState} (i : Nat) (spins : state.failed = .spin i) : i < 4 := by
  cases state with
  | first =>
    cases spins
    decide
  | spin j =>
    simp only [SpinState.failed] at spins
    by_cases more : j + 1 < 4
    · rw [if_pos more] at spins
      cases spins
      exact more
    · rw [if_neg more] at spins
      cases spins
  | schedYield => cases spins

/-- Only one thread moves, and it is counted where it gets to. -/
theorem Counted.move (counted : Counted lock) {state : SpinThread}
    (there : ∀ i, state = .locking (.spin i) → i < 4) (flag : Bool) :
    Counted { lock.move thread state with lock := flag } := by
  intro other i spins
  by_cases moved : other = thread
  · subst moved
    simp only [CoSpinlock.move, Function.update_self] at spins
    exact there i spins
  · simp only [CoSpinlock.move, Function.update_of_ne moved] at spins
    exact counted other i spins

theorem Counted.step {event : SpinEvent Thread} (counted : Counted lock)
    (stepped : lock.step event = some next) : Counted next := by
  unfold CoSpinlock.step at stepped
  cases event with
  | call thread =>
    obtain ⟨-, stepped⟩ := Option.ite_none_right_eq_some.1 stepped
    cases stepped
    exact counted.move (fun _ spins => by cases spins) lock.lock
  | testAndSet thread =>
    dsimp only at stepped
    split at stepped
    · cases stepped
    · cases stepped
      refine counted.move (fun i spins => ?_) true
      split at spins
      · exact SpinState.failed_counted i (SpinThread.locking.inj spins)
      · cases spins
    · cases stepped
  | schedYield thread =>
    obtain ⟨-, stepped⟩ := Option.ite_none_right_eq_some.1 stepped
    cases stepped
    exact counted.move (fun _ spins => by cases spins; decide) lock.lock
  | tryLock thread =>
    obtain ⟨-, stepped⟩ := Option.ite_none_right_eq_some.1 stepped
    cases stepped
    refine counted.move (fun i spins => ?_) true
    split at spins <;> cases spins
  | unlock thread =>
    obtain ⟨-, stepped⟩ := Option.ite_none_right_eq_some.1 stepped
    cases stepped
    exact counted.move (fun _ spins => by cases spins) false

/-- What a thread does that is still in `lock`, up to its next `test_and_set`. -/
def SpinState.nextTest (thread : Thread) : SpinState → List (SpinEvent Thread)
  | .schedYield => [.schedYield thread, .testAndSet thread]
  | _ => [.testAndSet thread]

/-- A thread that finds the flag clear at its next `test_and_set` is inside. -/
theorem CoSpinlock.enters {state : SpinState} (locking : lock.threads thread = .locking state)
    (free : lock.lock = false) :
    ∃ next, (state.nextTest thread).foldlM CoSpinlock.step lock = some next ∧ next.threads thread = .inside ∧
      ∀ other, other ≠ thread → next.threads other = lock.threads other := by
  have tests : ∀ (at_ : CoSpinlock Thread) (state : SpinState), at_.lock = false →
      at_.threads thread = .locking state → state ≠ .schedYield →
      at_.step (.testAndSet thread) = some (at_.test thread (.locking state.failed)) :=
    fun at_ state _ locking runs => by
      unfold CoSpinlock.step
      dsimp only
      rw [locking]
      cases state with
      | first => rfl
      | spin i => rfl
      | schedYield => exact absurd rfl runs
  have inside : ∀ (at_ : CoSpinlock Thread) (failed : SpinThread), at_.lock = false →
      (at_.test thread failed).threads thread = .inside := fun at_ failed free => by
    simp only [CoSpinlock.test, CoSpinlock.move, free, Bool.false_eq_true, if_false, Function.update_self]
  have others : ∀ (at_ : CoSpinlock Thread) (failed : SpinThread) other, other ≠ thread →
      (at_.test thread failed).threads other = at_.threads other := fun at_ failed other moved => by
    simp only [CoSpinlock.test, CoSpinlock.move, Function.update_of_ne moved]
  by_cases yields : state = .schedYield
  · subst yields
    have woken : (lock.move thread (.locking (.spin 0))).threads thread = .locking (.spin 0) :=
      Function.update_self _ _ _
    refine ⟨(lock.move thread (.locking (.spin 0))).test thread (.locking (.spin 1)), ?_, inside _ _ free,
      fun other moved => ?_⟩
    · refine Lib.run_cons.2 ⟨_, if_pos locking, ?_⟩
      exact Lib.run_cons.2 ⟨_, tests _ _ free woken SpinState.noConfusion, rfl⟩
    · rw [others _ _ other moved]
      exact Function.update_of_ne moved _ _
  · refine ⟨lock.test thread (.locking state.failed), ?_, inside _ _ free, others _ _⟩
    have one : state.nextTest thread = [.testAndSet thread] := by
      cases state with
      | first => rfl
      | spin i => rfl
      | schedYield => exact absurd rfl yields
    rw [one]
    exact Lib.run_cons.2 ⟨_, tests lock state free locking yields, rfl⟩

/-- What holds of a spinlock after any number of steps. -/
structure SpinlockSound (lock : CoSpinlock Thread) : Prop where
  one : ∀ first second, lock.threads first = .inside → lock.threads second = .inside → first = second
  /-- the flag is set exactly while a thread is inside -/
  taken : lock.lock = true ↔ ∃ thread, lock.threads thread = .inside
  /-- at most four tests between two calls of `sched_yield` -/
  spins : ∀ thread i, lock.threads thread = .locking (.spin i) → i < 4
  /-- once the flag is clear, the next thread that tests is inside, and the others stay where they are -/
  enters : ∀ thread state, lock.threads thread = .locking state → lock.lock = false →
    ∃ next, (state.nextTest thread).foldlM CoSpinlock.step lock = some next ∧ next.threads thread = .inside ∧
      ∀ other, other ≠ thread → next.threads other = lock.threads other

theorem spinlock_sound {events : List (SpinEvent Thread)} {final : CoSpinlock Thread}
    (ran : events.foldlM CoSpinlock.step {} = some final) : SpinlockSound final := by
  have exclusive : Exclusive final :=
    Lib.run_keeps _ Exclusive (fun _ _ _ exclusive => exclusive.step) exclusive_fresh ran
  have counted : Counted final :=
    Lib.run_keeps _ Counted (fun _ _ _ counted => counted.step) (fun _ _ spins => by cases spins) ran
  exact ⟨exclusive.one, exclusive.set, counted, fun thread state locking free => CoSpinlock.enters locking free⟩

/-- A thread that waits for another one, which has just left. -/
theorem spinlock_sound_waited : ∃ final : CoSpinlock Nat, SpinlockSound final ∧
    final.threads 2 = .locking (.spin 1) := by
  have ran : ([.call 1, .testAndSet 1, .call 2, .testAndSet 2, .testAndSet 2, .unlock 1].foldlM CoSpinlock.step
      ({} : CoSpinlock Nat)).map (·.threads 2) = some (.locking (.spin 1)) := by
    decide
  obtain ⟨final, ran, waits⟩ := Option.map_eq_some_iff.1 ran
  exact ⟨final, spinlock_sound ran, waits⟩

end

end CoServer
