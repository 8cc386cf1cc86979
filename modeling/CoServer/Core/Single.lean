import CoServer.Core.Connection
import CoServer.Lib.Run
import Mathlib.Data.Finset.Basic

/-! # `CoSingle`: coroutines that wait for a mutex

A coroutine that finds a mutex locked enters its connection in the queue of the
mutex and is suspended; `free_block_mutex` looks for somebody to resume.  A
waiter also leaves by a timer, and its entry stays behind: entries of
connections that do not wait any more are dropped when the queue is searched. -/

namespace CoServer

/-- A connection of one of the worker threads. -/
structure ThreadConnection where
  innerThreadId : Nat
  connId : Nat
  thread_lt : innerThreadId < 2 ^ 32
  conn_lt : connId < 2 ^ 32
deriving DecidableEq

/-- `GEN_U64(innerThreadId, connId)` -/
def ThreadConnection.threadConnectionId (self : ThreadConnection) : Nat :=
  self.innerThreadId * 2 ^ 32 + self.connId

theorem ThreadConnection.threadConnectionId_inj {a b : ThreadConnection}
    (same : a.threadConnectionId = b.threadConnectionId) : a = b := by
  obtain ⟨threadA, connA, _, smallA⟩ := a
  obtain ⟨threadB, connB, _, smallB⟩ := b
  change threadA * 2 ^ 32 + connA = threadB * 2 ^ 32 + connB at same
  have threads : threadA = threadB := by omega
  have conns : connA = connB := by omega
  subst threads conns
  rfl

/-- A connection with the version it had when it was entered. -/
abbrev MutexInfo := ThreadConnection × Nat

structure CoSingle where
  threadConnectionIds : Finset Nat := ∅
  /-- an absent queue is an empty one -/
  blockMutexs : Nat → List MutexInfo := fun _ => []

namespace CoSingle

def findBlockMutex (self : CoSingle) (connection : ThreadConnection) : Bool :=
  connection.threadConnectionId ∈ self.threadConnectionIds

/-- `add_block_mutex` up to the point where the coroutine is swapped out. -/
def addBlockMutex (self : CoSingle) (mutex : Nat) (connection : ThreadConnection) (version : Nat) :
    CoSingle :=
  if connection.threadConnectionId ∈ self.threadConnectionIds then self
  else
    { threadConnectionIds := insert connection.threadConnectionId self.threadConnectionIds
      blockMutexs := Function.update self.blockMutexs mutex
        (self.blockMutexs mutex ++ [(connection, version)]) }

/-- `add_block_mutex` from the point where the coroutine is swapped in. -/
def leaveBlockMutex (self : CoSingle) (connection : ThreadConnection) : CoSingle :=
  { self with
    threadConnectionIds := self.threadConnectionIds.erase connection.threadConnectionId }

/-- The loop of `free_block_mutex`: the entry to resume, and what is left. -/
def takeWaiter (threadConnectionIds : Finset Nat) : List MutexInfo → Option MutexInfo × List MutexInfo
  | [] => (none, [])
  | mutexInfo :: rest =>
    if mutexInfo.1.threadConnectionId ∈ threadConnectionIds then (some mutexInfo, rest)
    else takeWaiter threadConnectionIds rest

/-- The section of `free_block_mutex` under the lock. -/
def freeBlockMutex (self : CoSingle) (mutex : Nat) : Option MutexInfo × CoSingle :=
  let (found, rest) := takeWaiter self.threadConnectionIds (self.blockMutexs mutex)
  (found, { self with blockMutexs := Function.update self.blockMutexs mutex rest })

/-- Dead entries are dropped up to the first one of somebody who waits. -/
theorem takeWaiter_spec (threadConnectionIds : Finset Nat) (entries : List MutexInfo) :
    ∃ dropped, (∀ entry ∈ dropped, entry.1.threadConnectionId ∉ threadConnectionIds) ∧
      ((∃ entry, (takeWaiter threadConnectionIds entries).1 = some entry ∧
        entry.1.threadConnectionId ∈ threadConnectionIds ∧
        entries = dropped ++ entry :: (takeWaiter threadConnectionIds entries).2) ∨
      (takeWaiter threadConnectionIds entries = (none, []) ∧ entries = dropped)) := by
  induction entries with
  | nil => exact ⟨[], fun _ mem => (nomatch mem), .inr ⟨rfl, rfl⟩⟩
  | cons first rest ih =>
    by_cases waits : first.1.threadConnectionId ∈ threadConnectionIds
    · refine ⟨[], fun _ mem => (nomatch mem), .inl ⟨first, ?_⟩⟩
      rw [takeWaiter, if_pos waits]
      exact ⟨rfl, waits, rfl⟩
    · obtain ⟨dropped, dead, outcome⟩ := ih
      rw [takeWaiter, if_neg waits]
      refine ⟨first :: dropped, List.forall_mem_cons.2 ⟨waits, dead⟩, ?_⟩
      obtain ⟨entry, found, alive, split⟩ | ⟨none, split⟩ := outcome
      · exact .inl ⟨entry, found, alive, congrArg (first :: ·) split⟩
      · exact .inr ⟨none, congrArg (first :: ·) split⟩

end CoSingle

/-! ## Runs -/

/-- All threads together.  `suspended` is the mutex in whose `add_block_mutex` a
    coroutine is suspended, `calls` the entries made for a mutex so far, and
    `taken` says that a `free_block_mutex` of that mutex took an entry of the
    connection since it was suspended. -/
structure MutexRun where
  single : CoSingle := {}
  version : ThreadConnection → Nat := fun _ => 0
  /-- `m_waitSingles` of each thread -/
  waitSingles : Nat → List MutexInfo := fun _ => []
  /-- what a thread inside `free_block_mutex` is about to resume -/
  freeing : Nat → Option MutexInfo := fun _ => none
  suspended : ThreadConnection → Option Nat := fun _ => none
  calls : Nat → List MutexInfo := fun _ => []
  taken : ThreadConnection → Bool := fun _ => false

inductive MutexEvent where
  | addBlockMutex (mutex : Nat) (connection : ThreadConnection)
  /-- the retry timer, or whoever else dispatches the connection -/
  | wake (connection : ThreadConnection)
  /-- a turn of the loop over `m_waitSingles`; a connection with an exception stays
      suspended -/
  | single (innerThreadId : Nat) (exception : Bool)
  /-- the section under the lock, by any thread -/
  | freeBlockMutex (thread mutex : Nat)
  /-- the call of `resume_single_async` behind it -/
  | resumeSingle (thread : Nat)
  /-- the connection is reset between two requests -/
  | reset (connection : ThreadConnection)

namespace MutexRun

def leave (self : MutexRun) (connection : ThreadConnection) : MutexRun :=
  { self with
    single := self.single.leaveBlockMutex connection
    suspended := Function.update self.suspended connection none }

/-- The entry was taken from the queue of the mutex its connection waits for. -/
def take (self : MutexRun) (mutex : Nat) : Option MutexInfo → MutexRun
  | none => self
  | some (connection, _) =>
    if self.suspended connection = some mutex then
      { self with taken := Function.update self.taken connection true }
    else self

def step (self : MutexRun) : MutexEvent → Option MutexRun
  | .addBlockMutex mutex connection =>
    if self.suspended connection = none then
      some { self with
        single := self.single.addBlockMutex mutex connection (self.version connection)
        suspended := Function.update self.suspended connection (some mutex)
        calls := Function.update self.calls mutex
          (self.calls mutex ++ [(connection, self.version connection)])
        taken := Function.update self.taken connection false }
    else none
  | .wake connection =>
    if self.suspended connection ≠ none then some (self.leave connection) else none
  | .single innerThreadId exception =>
    match self.waitSingles innerThreadId with
    | [] => none
    | (connection, version) :: rest =>
      let self := { self with waitSingles := Function.update self.waitSingles innerThreadId rest }
      if self.single.findBlockMutex connection && self.version connection == version && !exception then
        some (self.leave connection)
      else some self
  | .freeBlockMutex thread mutex =>
    if self.freeing thread = none then
      let (found, single) := self.single.freeBlockMutex mutex
      some { self.take mutex found with
        single
        freeing := Function.update self.freeing thread found }
    else none
  | .resumeSingle thread =>
    match self.freeing thread with
    | none => none
    | some (connection, version) =>
      some { self with
        waitSingles := Function.update self.waitSingles connection.innerThreadId
          (self.waitSingles connection.innerThreadId ++ [(connection, version)])
        freeing := Function.update self.freeing thread none }
  | .reset connection =>
    if self.suspended connection = none then
      some { self with
        version := Function.update self.version connection (uint32 (self.version connection + 1)) }
    else none

end MutexRun

namespace MutexRun

section
variable (self : MutexRun) (mutex : Nat) (found : Option MutexInfo)

theorem take_suspended : (self.take mutex found).suspended = self.suspended := by
  unfold take
  split
  · rfl
  · split <;> rfl

theorem take_version : (self.take mutex found).version = self.version := by
  unfold take
  split
  · rfl
  · split <;> rfl

theorem take_calls : (self.take mutex found).calls = self.calls := by
  unfold take
  split
  · rfl
  · split <;> rfl

/-- A connection whose entry is not taken was not found. -/
theorem take_untaken {connection : ThreadConnection} {awaited : Nat}
    (untaken : (self.take mutex found).taken connection = false)
    (waits : self.suspended connection = some awaited) :
    self.taken connection = false ∧
      (awaited = mutex → ∀ version, found ≠ some (connection, version)) := by
  unfold take at untaken
  split at untaken
  · exact ⟨untaken, fun _ version same => nomatch same⟩
  · rename_i entered version
    split at untaken
    · dsimp only at untaken
      have apart : connection ≠ entered := by
        rintro rfl
        rw [Function.update_self] at untaken
        cases untaken
      rw [Function.update_of_ne apart] at untaken
      exact ⟨untaken, fun _ _ same => apart (by cases same; rfl)⟩
    · rename_i elsewhere
      refine ⟨untaken, fun here _ same => elsewhere ?_⟩
      cases same
      rw [waits, here]

end

end MutexRun

/-! ## The invariant -/

structure MutexInv (run : MutexRun) : Prop where
  waiting : ∀ connection, connection.threadConnectionId ∈ run.single.threadConnectionIds ↔
    run.suspended connection ≠ none
  entered : ∀ connection mutex, run.suspended connection = some mutex →
    run.taken connection = false →
    (connection, run.version connection) ∈ run.single.blockMutexs mutex
  queued : ∀ mutex, run.single.blockMutexs mutex <:+ run.calls mutex

section
variable {run next : MutexRun} {connection : ThreadConnection}

theorem mem_waiting_of_ne {ids : Finset Nat} {other : ThreadConnection} (apart : other ≠ connection) :
    other.threadConnectionId ∈ ids.erase connection.threadConnectionId ↔
      other.threadConnectionId ∈ ids := by
  rw [Finset.mem_erase]
  exact and_iff_right fun same => apart (ThreadConnection.threadConnectionId_inj same)

/-- Whoever calls `add_block_mutex` does not wait yet, so it is always entered. -/
theorem MutexInv.addBlockMutex (inv : MutexInv run) (outside : run.suspended connection = none)
    (mutex version : Nat) : run.single.addBlockMutex mutex connection version =
      { threadConnectionIds := insert connection.threadConnectionId run.single.threadConnectionIds
        blockMutexs := Function.update run.single.blockMutexs mutex
          (run.single.blockMutexs mutex ++ [(connection, version)]) } :=
  if_neg fun mem => (inv.waiting connection).1 mem outside

theorem MutexInv.add (inv : MutexInv run) (outside : run.suspended connection = none) (mutex : Nat) :
    MutexInv { run with
      single := run.single.addBlockMutex mutex connection (run.version connection)
      suspended := Function.update run.suspended connection (some mutex)
      calls := Function.update run.calls mutex
        (run.calls mutex ++ [(connection, run.version connection)])
      taken := Function.update run.taken connection false } := by
  rw [inv.addBlockMutex outside]
  refine ⟨?_, ?_, ?_⟩
  · intro other
    dsimp only
    rw [Finset.mem_insert]
    by_cases same : other = connection
    · subst same
      simp
    · rw [Function.update_of_ne same, inv.waiting]
      exact or_iff_right fun ids => same (ThreadConnection.threadConnectionId_inj ids)
  · intro other awaited
    dsimp only
    by_cases same : other = connection
    · subst same
      rw [Function.update_self]
      rintro waits -
      cases waits
      rw [Function.update_self]
      exact List.mem_append_right _ List.mem_cons_self
    · rw [Function.update_of_ne same, Function.update_of_ne same]
      intro waits untaken
      have entered := inv.entered other awaited waits untaken
      by_cases sameMutex : awaited = mutex
      · subst sameMutex
        rw [Function.update_self]
        exact List.mem_append_left _ entered
      · rw [Function.update_of_ne sameMutex]
        exact entered
  · intro other
    dsimp only
    by_cases same : other = mutex
    · subst same
      rw [Function.update_self, Function.update_self]
      obtain ⟨removed, split⟩ := inv.queued other
      exact ⟨removed, by rw [← List.append_assoc, split]⟩
    · rw [Function.update_of_ne same, Function.update_of_ne same]
      exact inv.queued other

theorem MutexInv.leave (inv : MutexInv run) (connection : ThreadConnection) :
    MutexInv (run.leave connection) := by
  refine ⟨?_, ?_, inv.queued⟩
  · intro other
    dsimp only [MutexRun.leave, CoSingle.leaveBlockMutex]
    by_cases same : other = connection
    · subst same
      simp
    · rw [mem_waiting_of_ne same, Function.update_of_ne same]
      exact inv.waiting other
  · intro other mutex
    dsimp only [MutexRun.leave, CoSingle.leaveBlockMutex]
    by_cases same : other = connection
    · subst same
      rw [Function.update_self]
      exact fun waits => nomatch waits
    · rw [Function.update_of_ne same]
      exact inv.entered other mutex

/-- What `free_block_mutex` drops and finds, in terms of who waits. -/
theorem MutexInv.freed (inv : MutexInv run) (mutex : Nat) :
    ∃ dropped, (∀ entry ∈ dropped, run.suspended entry.1 = none) ∧
      ((∃ entry, (run.single.freeBlockMutex mutex).1 = some entry ∧ run.suspended entry.1 ≠ none ∧
        run.single.blockMutexs mutex =
          dropped ++ entry :: (run.single.freeBlockMutex mutex).2.blockMutexs mutex) ∨
      ((run.single.freeBlockMutex mutex).1 = none ∧
        (run.single.freeBlockMutex mutex).2.blockMutexs mutex = [] ∧
        run.single.blockMutexs mutex = dropped)) := by
  obtain ⟨dropped, dead, outcome⟩ := CoSingle.takeWaiter_spec run.single.threadConnectionIds
    (run.single.blockMutexs mutex)
  have left : (run.single.freeBlockMutex mutex).2.blockMutexs mutex =
      (CoSingle.takeWaiter run.single.threadConnectionIds (run.single.blockMutexs mutex)).2 :=
    Function.update_self _ _ _
  rw [left]
  refine ⟨dropped, fun entry mem => ?_, ?_⟩
  · exact not_not.1 fun waits => dead entry mem ((inv.waiting entry.1).2 waits)
  · obtain ⟨entry, found, alive, split⟩ | ⟨none, split⟩ := outcome
    · exact .inl ⟨entry, found, (inv.waiting entry.1).1 alive, split⟩
    · exact .inr ⟨congrArg Prod.fst none, congrArg Prod.snd none, split⟩

theorem MutexInv.free (inv : MutexInv run) (thread mutex : Nat) :
    MutexInv { run.take mutex (run.single.freeBlockMutex mutex).1 with
      single := (run.single.freeBlockMutex mutex).2
      freeing := Function.update run.freeing thread (run.single.freeBlockMutex mutex).1 } := by
  have others : ∀ other, other ≠ mutex → (run.single.freeBlockMutex mutex).2.blockMutexs other =
      run.single.blockMutexs other := fun other apart => Function.update_of_ne apart _ _
  have suspended : (run.take mutex (run.single.freeBlockMutex mutex).1).suspended = run.suspended :=
    run.take_suspended mutex _
  have version : (run.take mutex (run.single.freeBlockMutex mutex).1).version = run.version :=
    run.take_version mutex _
  have calls : (run.take mutex (run.single.freeBlockMutex mutex).1).calls = run.calls :=
    run.take_calls mutex _
  refine ⟨?_, ?_, ?_⟩
  · dsimp only
    rw [suspended]
    exact inv.waiting
  · intro other awaited
    dsimp only
    rw [suspended, version]
    intro waits untaken
    obtain ⟨untakenBefore, notFound⟩ := run.take_untaken mutex _ untaken waits
    have entered := inv.entered other awaited waits untakenBefore
    by_cases same : awaited = mutex
    · subst same
      obtain ⟨dropped, dead, ⟨entry, found, -, split⟩ | ⟨-, -, split⟩⟩ := inv.freed awaited
      · rw [split, List.mem_append, List.mem_cons] at entered
        obtain inDropped | isEntry | inRest := entered
        · cases (dead _ inDropped).symm.trans waits
        · exact absurd (found.trans (congrArg some isEntry.symm)) (notFound rfl _)
        · exact inRest
      · rw [split] at entered
        cases (dead _ entered).symm.trans waits
    · rw [others awaited same]
      exact entered
  · intro other
    dsimp only
    rw [calls]
    by_cases same : other = mutex
    · subst same
      refine List.IsSuffix.trans ?_ (inv.queued other)
      obtain ⟨dropped, -, ⟨entry, -, -, split⟩ | ⟨-, empty, -⟩⟩ := inv.freed other
      · exact ⟨dropped ++ [entry], by rw [split, List.append_assoc]; rfl⟩
      · rw [empty]
        exact List.nil_suffix
    · rw [others other same]
      exact inv.queued other

theorem MutexInv.step (inv : MutexInv run) {event : MutexEvent}
    (stepped : run.step event = some next) : MutexInv next := by
  cases event with
  | addBlockMutex mutex connection =>
    obtain ⟨outside, stepped⟩ := Option.ite_none_right_eq_some.1 stepped
    cases stepped
    exact inv.add outside mutex
  | wake connection =>
    obtain ⟨-, stepped⟩ := Option.ite_none_right_eq_some.1 stepped
    cases stepped
    exact inv.leave connection
  | single innerThreadId exception =>
    unfold MutexRun.step at stepped
    dsimp only at stepped
    split at stepped
    · cases stepped
    · have popped : ∀ waitSingles, MutexInv { run with waitSingles } :=
        fun _ => ⟨inv.waiting, inv.entered, inv.queued⟩
      split at stepped
      · cases stepped
        exact (popped _).leave _
      · cases stepped
        exact popped _
  | freeBlockMutex thread mutex =>
    obtain ⟨-, stepped⟩ := Option.ite_none_right_eq_some.1 stepped
    cases stepped
    exact inv.free thread mutex
  | resumeSingle thread =>
    unfold MutexRun.step at stepped
    dsimp only at stepped
    split at stepped
    · cases stepped
    · cases stepped
      exact ⟨inv.waiting, inv.entered, inv.queued⟩
  | reset connection =>
    obtain ⟨outside, stepped⟩ := Option.ite_none_right_eq_some.1 stepped
    cases stepped
    refine ⟨inv.waiting, ?_, inv.queued⟩
    intro other mutex waits untaken
    have apart : other ≠ connection := by
      rintro rfl
      cases outside.symm.trans waits
    dsimp only
    rw [Function.update_of_ne apart]
    exact inv.entered other mutex waits untaken

end

/-! ## Every run -/

/-- What holds of the queues and of the set of waiting connections. -/
structure MutexSound (run : MutexRun) : Prop where
  waiting : ∀ connection, connection.threadConnectionId ∈ run.single.threadConnectionIds ↔
    ∃ mutex, run.suspended connection = some mutex
  /-- An entry stays until a `free_block_mutex` of the mutex takes one of its connection. -/
  entered : ∀ connection mutex, run.suspended connection = some mutex →
    run.taken connection = false →
    (connection, run.version connection) ∈ run.single.blockMutexs mutex
  /-- Entries are removed from the front only, in the order of the calls. -/
  queued : ∀ mutex, run.single.blockMutexs mutex <:+ run.calls mutex
  /-- `free_block_mutex` drops the entries of connections that do not wait, and takes the
      first entry of one that does. -/
  freed : ∀ mutex, ∃ dropped, (∀ entry ∈ dropped, run.suspended entry.1 = none) ∧
    ((∃ entry, (run.single.freeBlockMutex mutex).1 = some entry ∧ run.suspended entry.1 ≠ none ∧
      run.single.blockMutexs mutex =
        dropped ++ entry :: (run.single.freeBlockMutex mutex).2.blockMutexs mutex) ∨
    ((run.single.freeBlockMutex mutex).1 = none ∧
      (run.single.freeBlockMutex mutex).2.blockMutexs mutex = [] ∧
      run.single.blockMutexs mutex = dropped))
  /-- So it takes one to resume whenever somebody waits for the mutex whose entry no
      `free_block_mutex` has taken. -/
  resumes : ∀ connection mutex, run.suspended connection = some mutex →
    run.taken connection = false → ∃ entry, (run.single.freeBlockMutex mutex).1 = some entry ∧
      run.suspended entry.1 ≠ none

theorem MutexInv.sound {run : MutexRun} (inv : MutexInv run) : MutexSound run where
  waiting connection := (inv.waiting connection).trans Option.ne_none_iff_exists'
  entered := inv.entered
  queued := inv.queued
  freed := inv.freed
  resumes connection mutex waits untaken := by
    have entered := inv.entered connection mutex waits untaken
    obtain ⟨dropped, dead, ⟨entry, found, alive, -⟩ | ⟨-, -, split⟩⟩ := inv.freed mutex
    · exact ⟨entry, found, alive⟩
    · rw [split] at entered
      cases (dead _ entered).symm.trans waits

theorem mutex_sound {events : List MutexEvent} {final : MutexRun}
    (ran : events.foldlM MutexRun.step {} = some final) : MutexSound final := by
  have start : MutexInv {} := by
    refine ⟨fun connection => ?_, fun _ _ waits => ?_, fun _ => List.nil_suffix⟩
    · exact iff_of_false (Finset.notMem_empty _) fun waits => waits rfl
    · cases waits
  exact (Lib.run_keeps MutexRun.step MutexInv (fun _ _ _ inv stepped => inv.step stepped) start
    ran).sound

def firstWaiter : ThreadConnection := ⟨0, 5, by decide, by decide⟩

def secondWaiter : ThreadConnection := ⟨1, 7, by decide, by decide⟩

/-- The first waiter times out and waits again, the second one waits behind it; the
    mutex is unlocked by a third thread. -/
def waitTwice : List MutexEvent := [
  .addBlockMutex 9 firstWaiter, .wake firstWaiter, .addBlockMutex 9 firstWaiter,
  .addBlockMutex 9 secondWaiter, .freeBlockMutex 3 9, .resumeSingle 3, .single 0 false]

theorem mutex_sound_twice : ∃ final, waitTwice.foldlM MutexRun.step {} = some final ∧
    (final.single.blockMutexs 9, final.suspended secondWaiter) =
      ([(firstWaiter, 0), (secondWaiter, 0)], some 9) ∧ MutexSound final := by
  have defined : (waitTwice.foldlM MutexRun.step {}).map
      (fun final => (final.single.blockMutexs 9, final.suspended secondWaiter)) =
        some ([(firstWaiter, 0), (secondWaiter, 0)], some 9) := by
    decide +kernel
  obtain ⟨final, ran, seen⟩ := Option.map_eq_some_iff.1 defined
  exact ⟨final, ran, seen, mutex_sound ran⟩

/-- The entry of a waiter that left by its timer stays in the queue. -/
theorem queue_not_exact : ¬ ∀ (events : List MutexEvent) (final : MutexRun),
    events.foldlM MutexRun.step {} = some final → ∀ mutex connection,
      (final.single.blockMutexs mutex).countP (fun entry => entry.1 = connection) =
        if final.suspended connection = some mutex then 1 else 0 := by
  intro exact_
  have defined : ([.addBlockMutex 9 firstWaiter, .wake firstWaiter].foldlM MutexRun.step {}).map
      (fun final => (final.single.blockMutexs 9, final.suspended firstWaiter)) =
        some ([(firstWaiter, 0)], none) := by
    decide +kernel
  obtain ⟨final, ran, seen⟩ := Option.map_eq_some_iff.1 defined
  have count := exact_ _ final ran 9 firstWaiter
  obtain ⟨queue, left⟩ := Prod.mk.inj seen
  rw [queue, left] at count
  exact absurd count (by decide)

end CoServer
