import CoServer.Core.BlockWaits

/-! # Hooked calls and their connection

Only an event of a block connection leaves `m_curConnection` wrong, and
`yield_thirdsocket` repairs it.  So the coroutine that such an event resumes has to
be in `yield_thirdsocket`, and it is, as long as no coroutine enters it after its
connection was given back. -/

namespace CoServer

open CoCycle

/-- A block connection that is armed belongs to a coroutine in `yield_thirdsocket`, and a coroutine
    that runs is that of `m_curConnection`. -/
structure ThreadInv (run : ThreadRun) : Prop where
  pairs : PairsInv run.cycle
  sleeps : ∀ k, 2 * k + 1 < run.cycle.allocated →
    (run.cycle.objects (2 * k + 1)).sleepEvent.flagTimerSet = false
  waiting : ∀ k, 2 * k + 1 < run.cycle.allocated → ¬(run.cycle.objects (2 * k + 1)).Rests →
    (run.cycle.objects (2 * k)).coroutineStatus = .suspend ∧
      ∃ eventOP, run.suspended (2 * k) = some (.yieldThirdsocket eventOP)
  running : ∀ connection, run.running = some connection → run.curConnection = some connection ∧
    run.suspended connection = none ∧ ∃ k, connection = 2 * k ∧ connection < run.cycle.allocated

/-- A coroutine waits for a third-party socket only on a connection that was not given back since it
    was dispatched first: its status is not `COROUTINE_READY` again. -/
def WaitsOwned (run : ThreadRun) : ThreadEvent → Prop
  | .yieldThirdsocket _ _ _ => ∀ connection ∈ run.running,
    (run.cycle.objects connection).coroutineStatus = .suspend
  | _ => True

instance (run : ThreadRun) (event : ThreadEvent) : Decidable (WaitsOwned run event) := by
  cases event <;> unfold WaitsOwned <;> infer_instance

/-! ## Steps that leave the waits alone -/

section
variable {run next : ThreadRun} {cycle : CoCycle} {k : Nat}

theorem ThreadInv.keep (inv : ThreadInv run) (keeps : KeepsWaits run.cycle cycle) :
    ThreadInv { run with cycle } where
  pairs := inv.pairs.keep keeps
  sleeps k below := by
    rw [keeps.sleeps]
    exact inv.sleeps k (keeps.allocated ▸ below)
  waiting k below waits := by
    obtain ⟨before, status⟩ := keeps.waits k waits
    rw [status]
    exact inv.waiting k (keeps.allocated ▸ below) before
  running connection runs := by
    rw [keeps.allocated]
    exact inv.running connection runs

theorem replaceOthers_keepsWaits (inv : PairsInv run.cycle) (cycle : CoCycle) :
    KeepsWaits run.cycle (run.cycle.replaceOthers cycle) := by
  have block : ∀ k, (run.cycle.replaceOthers cycle).objects (2 * k + 1) = run.cycle.objects (2 * k + 1) := by
    intro k
    apply if_pos
    by_cases below : 2 * k + 1 < run.cycle.allocated
    · simp [(inv.block k below).flagBlockConn, blockPlace]
    · simp [Nat.le_of_not_lt below]
  constructor
  · rfl
  · intro connection
    simp only [replaceOthers]
    split
    · exact .refl _
    · exact ⟨rfl, rfl, rfl, rfl⟩
  · intro server
    rfl
  · intro k
    rw [block]
  · intro k waits
    rw [block] at waits
    refine ⟨waits, ?_⟩
    simp only [replaceOthers]
    split <;> rfl

/-- A coroutine that runs is not waiting for a third-party socket. -/
theorem ThreadInv.rests (inv : ThreadInv run) (runs : run.running = some (2 * k)) :
    (run.cycle.objects (2 * k + 1)).Rests := by
  obtain ⟨-, none, j, -, below⟩ := inv.running _ runs
  obtain ⟨pairs, even⟩ := inv.pairs.even
  by_contra waits
  obtain ⟨-, eventOP, suspended⟩ := inv.waiting k (by omega) waits
  cases none.symm.trans suspended

/-- The thread after one of its coroutines was swapped out. -/
theorem ThreadInv.swapOut (inv : ThreadInv run) {suspension : Option Suspension} (pairs : PairsInv cycle)
    (allocated : cycle.allocated = run.cycle.allocated)
    (sleeps : ∀ j, (cycle.objects (2 * j + 1)).sleepEvent = (run.cycle.objects (2 * j + 1)).sleepEvent)
    (others : ∀ j, j ≠ k → cycle.objects (2 * j) = run.cycle.objects (2 * j) ∧
      cycle.objects (2 * j + 1) = run.cycle.objects (2 * j + 1))
    (own : ¬(cycle.objects (2 * k + 1)).Rests → (cycle.objects (2 * k)).coroutineStatus = .suspend ∧
      ∃ eventOP, suspension = some (.yieldThirdsocket eventOP)) :
    ThreadInv (run.swapOut (2 * k) cycle suspension) where
  pairs := pairs
  sleeps j below := by
    simp only [ThreadRun.swapOut] at below ⊢
    rw [sleeps]
    exact inv.sleeps j (allocated ▸ below)
  waiting j below waits := by
    simp only [ThreadRun.swapOut] at below waits ⊢
    by_cases same : j = k
    · subst same
      rw [Function.update_self]
      exact own waits
    · obtain ⟨main, block⟩ := others j same
      rw [block] at waits
      rw [main, Function.update_of_ne (by omega)]
      exact inv.waiting j (allocated ▸ below) waits
  running := nofun

/-! ## Steps of the coroutine that runs -/

theorem setStatus_place (self : CoCycle) (connection other : Nat) (status : CoroutineStatus) :
    CoConnection.SamePlace (self.objects other) ((self.setStatus connection status).objects other) :=
  places_modifyObject self connection (fun object => { object with coroutineStatus := status })
    (fun _ => ⟨rfl, rfl, rfl, rfl⟩) other

theorem setStatus_other (self : CoCycle) {connection other : Nat} (status : CoroutineStatus)
    (apart : other ≠ connection) : (self.setStatus connection status).objects other = self.objects other :=
  modifyObject_other _ _ _ _ apart

theorem ThreadInv.swapOut_keeps (inv : ThreadInv run) {suspension : Option Suspension}
    (keeps : KeepsOthers k run.cycle cycle)
    (own : ¬(cycle.objects (2 * k + 1)).Rests → (cycle.objects (2 * k)).coroutineStatus = .suspend ∧
      ∃ eventOP, suspension = some (.yieldThirdsocket eventOP)) :
    ThreadInv (run.swapOut (2 * k) cycle suspension) :=
  inv.swapOut (keeps.pairs inv.pairs) keeps.allocated keeps.sleeps keeps.others own

theorem ThreadInv.yield (inv : ThreadInv run) (runs : run.running = some (2 * k)) :
    ThreadInv (run.swapOut (2 * k) run.cycle (some .yield)) :=
  inv.swapOut_keeps (.of_objects rfl rfl rfl) fun waits => absurd (inv.rests runs) waits

theorem ThreadInv.yieldTimer (inv : ThreadInv run) (runs : run.running = some (2 * k)) :
    ThreadInv (run.swapOut (2 * k) (run.cycle.yieldTimer (2 * k)) (some .yieldTimer)) := by
  apply inv.swapOut_keeps
  · exact keepsOthers_main _ k _ (fun _ => ⟨rfl, rfl, rfl, rfl⟩) fun _ => rfl
  · intro waits
    unfold CoCycle.yieldTimer at waits
    rw [modifyObject_other _ _ _ _ (by omega)] at waits
    exact absurd (inv.rests runs) waits

theorem ThreadInv.complete (inv : ThreadInv run) (runs : run.running = some (2 * k)) :
    ThreadInv (run.swapOut (2 * k) (run.cycle.setStatus (2 * k) .ready) none) := by
  apply inv.swapOut
  · exact inv.pairs.places rfl (fun other => setStatus_place _ _ other _) fun _ => rfl
  · rfl
  · intro j
    rw [setStatus_other _ _ (by omega)]
  · intro j apart
    rw [setStatus_other _ _ (by omega), setStatus_other _ _ (by omega)]
    exact ⟨rfl, rfl⟩
  · intro waits
    rw [setStatus_other _ _ (by omega)] at waits
    exact absurd (inv.rests runs) waits

theorem ThreadInv.yieldThirdsocket (inv : ThreadInv run)
    (owned : (run.cycle.objects (2 * k)).coroutineStatus = .suspend) (calls : OpenCalls) (socketFd : Int)
    (eventOP : EpollEvents) :
    ThreadInv (run.swapOut (2 * k) (run.cycle.yieldThirdsocket (2 * k) (2 * k + 1) calls socketFd eventOP)
      (some (.yieldThirdsocket eventOP))) := by
  have keeps := keepsOthers_yieldThirdsocket run.cycle k calls socketFd eventOP
  apply inv.swapOut_keeps keeps
  intro _
  exact ⟨keeps.status.trans owned, eventOP, rfl⟩

/-! ## Steps of the dispatcher -/

/-- The thread after a coroutine was swapped in or started. -/
theorem ThreadInv.enter (inv : ThreadInv run) (below : 2 * k < run.cycle.allocated) (pairs : PairsInv cycle)
    (allocated : cycle.allocated = run.cycle.allocated)
    (sleeps : ∀ j, (cycle.objects (2 * j + 1)).sleepEvent = (run.cycle.objects (2 * j + 1)).sleepEvent)
    (others : ∀ j, j ≠ k → ¬(cycle.objects (2 * j + 1)).Rests →
      ¬(run.cycle.objects (2 * j + 1)).Rests ∧
        (cycle.objects (2 * j)).coroutineStatus = (run.cycle.objects (2 * j)).coroutineStatus)
    (rests : (cycle.objects (2 * k + 1)).Rests) :
    ThreadInv { cycle, curConnection := some (2 * k), running := some (2 * k),
                suspended := Function.update run.suspended (2 * k) none } where
  pairs := pairs
  sleeps j inUse := by
    rw [sleeps]
    exact inv.sleeps j (allocated ▸ inUse)
  waiting j inUse waits := by
    by_cases same : j = k
    · subst same
      exact absurd rests waits
    · obtain ⟨before, status⟩ := others j same waits
      have apart : 2 * j ≠ 2 * k := by omega
      simp only [status, Function.update_of_ne apart]
      exact inv.waiting j (allocated ▸ inUse) before
  running connection runs := by
    cases runs
    exact ⟨rfl, Function.update_self _ _ _, k, rfl, allocated ▸ below⟩

theorem ThreadInv.enter_keeps (inv : ThreadInv run) (below : 2 * k < run.cycle.allocated)
    (keeps : KeepsWaits run.cycle cycle) (rests : (cycle.objects (2 * k + 1)).Rests) :
    ThreadInv { cycle, curConnection := some (2 * k), running := some (2 * k),
                suspended := Function.update run.suspended (2 * k) none } :=
  inv.enter below (inv.pairs.keep keeps) keeps.allocated keeps.sleeps (fun j _ => keeps.waits j) rests

/-- A coroutine is swapped in that belongs to `m_curConnection`, or that waits for a third-party
    socket. -/
theorem ThreadInv.swapIn (inv : ThreadInv run) (below : 2 * k < run.cycle.allocated)
    (right : run.curConnection = some (2 * k) ∨
      ∃ eventOP, run.suspended (2 * k) = some (.yieldThirdsocket eventOP))
    (swapped : run.swapIn (2 * k) = some next) : ThreadInv next := by
  obtain ⟨pairs, even⟩ := inv.pairs.even
  have inUse : 2 * k + 1 < run.cycle.allocated := by omega
  -- a coroutine elsewhere has no block connection that is armed
  have rests : (∀ eventOP, run.suspended (2 * k) ≠ some (.yieldThirdsocket eventOP)) →
      (run.cycle.objects (2 * k + 1)).Rests := by
    intro elsewhere
    by_contra waits
    obtain ⟨-, eventOP, suspended⟩ := inv.waiting k inUse waits
    exact elsewhere eventOP suspended
  unfold ThreadRun.swapIn at swapped
  cases suspended : run.suspended (2 * k) with
  | none => simp [suspended] at swapped
  | some suspension =>
    cases suspension with
    | yield =>
      have current : run.curConnection = some (2 * k) := by simpa [suspended] using right
      simp only [suspended] at swapped
      cases swapped
      rw [current]
      exact inv.enter_keeps below (.refl _) (rests (by simp [suspended]))
    | yieldTimer =>
      have current : run.curConnection = some (2 * k) := by simpa [suspended] using right
      simp only [suspended] at swapped
      cases swapped
      rw [current]
      have keeps : KeepsWaits run.cycle (run.cycle.resumeTimer (2 * k)) :=
        keepsWaits_main _ k _ ⟨rfl, rfl, rfl, rfl⟩ rfl
      apply inv.enter_keeps below keeps
      by_contra waits
      exact (keeps.waits k waits).1 (rests (by simp [suspended]))
    | yieldThirdsocket eventOP =>
      have owner : (run.cycle.objects (2 * k)).blockConn = some (2 * k + 1) :=
        (inv.pairs.main k below).blockConn
      simp only [suspended, owner] at swapped
      cases swapped
      obtain ⟨keeps, rests⟩ := resumeThirdsocket_keepsOthers inv.pairs below eventOP
      exact inv.enter_keeps below (keeps.keepsWaits rests) rests

/-- A main connection is dispatched, or the block connection of a coroutine that waits for a
    third-party socket. -/
theorem ThreadInv.funcDispatcher (inv : ThreadInv run) (idle : run.running = none)
    {connection timestamp : Nat} (below : connection < run.cycle.allocated)
    (waits : ∀ k, connection = 2 * k + 1 → (run.cycle.objects (2 * k)).coroutineStatus = .suspend ∧
      ∃ eventOP, run.suspended (2 * k) = some (.yieldThirdsocket eventOP))
    (dispatched : run.funcDispatcher connection timestamp = some next) : ThreadInv next := by
  obtain ⟨pairs, even⟩ := inv.pairs.even
  have keeps := keepsWaits_handlerException inv.pairs below timestamp
  have status := fun isBlock => @handlerException_block_status run.cycle connection isBlock timestamp
  unfold ThreadRun.funcDispatcher at dispatched
  dsimp only at dispatched
  generalize run.cycle.handlerException connection timestamp = handled at keeps status dispatched
  obtain ⟨ret, after⟩ := handled
  dsimp only at keeps status dispatched
  have kept := inv.keep keeps
  have current : ThreadInv { run with curConnection := some connection, cycle := after } := by
    refine ⟨kept.pairs, kept.sleeps, kept.waiting, ?_⟩
    intro other runs
    cases idle.symm.trans runs
  by_cases exception : ret = coException
  · rw [if_pos exception] at dispatched
    cases dispatched
    exact current
  · rw [if_neg exception] at dispatched
    obtain ⟨k, isMain, notBlock⟩ | ⟨k, isBlock, block⟩ := inv.pairs.cases below
    · subst isMain
      have inUse : 2 * k < after.allocated := keeps.allocated ▸ below
      rw [(keeps.places _).flagBlockConn, notBlock] at dispatched
      simp only [Bool.false_eq_true, if_false, Option.bind_some] at dispatched
      cases staged : (after.objects (2 * k)).coroutineStatus with
      | ready =>
        simp only [staged] at dispatched
        cases dispatched
        apply current.enter inUse
        · exact current.pairs.places rfl (fun other => setStatus_place _ _ other _) fun _ => rfl
        · rfl
        · intro j
          rw [setStatus_other _ _ (by omega)]
        · intro j apart armed
          rw [setStatus_other _ _ (by omega)] at armed
          rw [setStatus_other _ _ (by omega)]
          exact ⟨armed, rfl⟩
        · rw [setStatus_other _ _ (by omega)]
          by_contra armed
          have evenAfter := keeps.allocated
          have suspended := (current.waiting k (by dsimp only; omega) armed).1
          cases staged.symm.trans suspended
      | suspend =>
        simp only [staged] at dispatched
        exact current.swapIn inUse (.inl rfl) dispatched
    · subst isBlock
      obtain ⟨suspend, third⟩ := waits k rfl
      have inUse : 2 * k < after.allocated := by
        rw [keeps.allocated]
        omega
      have origin : (after.objects (2 * k + 1)).blockOriginConn = some (2 * k) :=
        (keeps.places _).blockOriginConn.trans (inv.pairs.block k below).blockOriginConn
      rw [(keeps.places _).flagBlockConn, block, origin] at dispatched
      simp only [if_true, Option.bind_some, status block, suspend] at dispatched
      exact current.swapIn inUse (.inr third) dispatched

/-- A timer that expires ends no wait by itself, and starts none. -/
theorem keepsWaits_timerExpired (self : CoCycle) {connection : Nat} {kind : TimerKind}
    (main : (∃ j, connection = 2 * j) ∨ kind ≠ .sleep) :
    KeepsWaits self (self.modifyObject connection fun object => object.timerExpired kind) := by
  have place : ∀ object : CoConnection, CoConnection.SamePlace object (object.timerExpired kind) := by
    intro object
    cases kind <;> exact ⟨rfl, rfl, rfl, rfl⟩
  have status : ∀ object : CoConnection, (object.timerExpired kind).coroutineStatus = object.coroutineStatus := by
    intro object
    cases kind <;> rfl
  obtain ⟨j, isMain⟩ | notSleep := main
  · subst isMain
    exact keepsWaits_main self j _ (place _) (status _)
  · have rests : ∀ object : CoConnection, object.Rests → (object.timerExpired kind).Rests := by
      intro object rests
      obtain ⟨read, write⟩ := rests
      cases kind with
      | read | write => simp [CoConnection.Rests, CoConnection.timerExpired, CoConnection.setTimer, read, write]
      | sleep => exact absurd rfl notSleep
    constructor
    · rfl
    · exact places_modifyObject self connection _ place
    · intro server
      rfl
    · intro j
      rw [modifyObject_objects]
      split
      · rename_i same
        rw [same]
        cases kind with
        | read | write => rfl
        | sleep => exact absurd rfl notSleep
      · rfl
    · intro j waits
      rw [modifyObject_objects] at waits ⊢
      constructor
      · split at waits
        · rename_i same
          rw [same]
          exact fun before => waits (rests _ before)
        · exact waits
      · split
        · rename_i same
          rw [status, same]
        · rfl

/-- An event of a connection; a block connection has to be armed for it. -/
theorem ThreadInv.dispatch (inv : ThreadInv run) {connection timestamp : Nat}
    (dispatches : run.dispatches connection = true) (keeps : KeepsWaits run.cycle cycle)
    (others : ∀ other, other ≠ connection → cycle.objects other = run.cycle.objects other)
    (armed : (run.cycle.objects connection).flagBlockConn = true → ¬(run.cycle.objects connection).Rests)
    (dispatched : { run with cycle }.funcDispatcher connection timestamp = some next) : ThreadInv next := by
  simp only [ThreadRun.dispatches, Bool.and_eq_true, Option.isNone_iff_eq_none, decide_eq_true_eq] at dispatches
  obtain ⟨idle, below⟩ := dispatches
  apply (inv.keep keeps).funcDispatcher idle (keeps.allocated ▸ below) _ dispatched
  intro k isBlock
  subst isBlock
  simp only [others (2 * k) (by omega)]
  exact inv.waiting k below (armed (inv.pairs.block k below).flagBlockConn)

theorem createPair_other (self : CoCycle) (i : Nat) {other : Nat} (old : other < self.allocated) :
    (self.createPair i).objects other = self.objects other := by
  unfold createPair
  simp only
  rw [Function.update_of_ne (by omega), Function.update_of_ne (by omega)]

theorem ThreadInv.createPair (inv : ThreadInv run) :
    ThreadInv { run with cycle := run.cycle.createPair run.cycle.allocated } := by
  obtain ⟨pairs, even⟩ := inv.pairs.even
  have allocated : (run.cycle.createPair run.cycle.allocated).allocated = 2 * (pairs + 1) := by
    show run.cycle.allocated + 2 = _
    omega
  have newMain : (run.cycle.createPair run.cycle.allocated).objects (2 * pairs) = mainPlace pairs := by
    unfold CoCycle.createPair mainPlace
    simp only [even]
    rw [Function.update_of_ne (by omega), Function.update_self]
  have newBlock : (run.cycle.createPair run.cycle.allocated).objects (2 * pairs + 1) = blockPlace pairs := by
    unfold CoCycle.createPair blockPlace
    simp only [even]
    rw [Function.update_self]
  have old : ∀ j, j ≠ pairs → 2 * j < (run.cycle.createPair run.cycle.allocated).allocated →
      2 * j + 1 < run.cycle.allocated := by
    intro j apart below
    omega
  constructor
  · constructor
    · exact ⟨pairs + 1, allocated⟩
    · intro j below
      by_cases same : j = pairs
      · subst same
        rw [newMain]
        exact .refl _
      · have before := old j same below
        rw [createPair_other _ _ (by omega)]
        exact inv.pairs.main j (by omega)
    · intro j below
      by_cases same : j = pairs
      · subst same
        rw [newBlock]
        exact .refl _
      · have before := old j same (Nat.lt_of_succ_lt below)
        rw [createPair_other _ _ before]
        exact inv.pairs.block j before
    · exact inv.pairs.listens
  · intro j below
    by_cases same : j = pairs
    · subst same
      simp only [newBlock]
      rfl
    · have before := old j same (Nat.lt_of_succ_lt below)
      simp only [createPair_other _ _ before]
      exact inv.sleeps j before
  · intro j below waits
    by_cases same : j = pairs
    · subst same
      simp only [newBlock] at waits
      exact absurd ⟨rfl, rfl⟩ waits
    · have before := old j same (Nat.lt_of_succ_lt below)
      simp only [createPair_other _ _ before] at waits
      have main : 2 * j < run.cycle.allocated := by omega
      simp only [createPair_other _ _ main]
      exact inv.waiting j before waits
  · intro connection runs
    obtain ⟨current, none, k, isMain, below⟩ := inv.running connection runs
    refine ⟨current, none, k, isMain, ?_⟩
    rw [allocated]
    omega

theorem ThreadInv.step {event : ThreadEvent} (inv : ThreadInv run) (owned : WaitsOwned run event)
    (stepped : run.step event = some next) : ThreadInv next := by
  cases event with
  | readHalf connection revents timestamp =>
    obtain ⟨dispatches, bound⟩ := Option.ite_none_right_eq_some.1 stepped
    obtain ⟨cycle, read, dispatched⟩ := Option.bind_eq_some_iff.1 bound
    obtain ⟨active, same⟩ := Option.ite_none_right_eq_some.1 read
    -- an active event shows that the connection waits
    have armed : ¬(run.cycle.objects connection).Rests := by
      intro rests
      simp [rests.1] at active
    cases same
    split at dispatched
    · apply inv.dispatch dispatches _ _ (fun _ => armed) dispatched
      · exact keepsWaits_flags _ _ _ (fun _ => ⟨rfl, rfl, rfl, rfl⟩) fun _ => ⟨rfl, rfl, rfl, rfl⟩
      · intro other apart
        exact modifyObject_other _ _ _ _ apart
    · exact inv.dispatch dispatches (.refl _) (fun _ _ => rfl) (fun _ => armed) dispatched
  | writeHalf connection revents timestamp =>
    obtain ⟨allowed, dispatched⟩ := Option.ite_none_right_eq_some.1 stepped
    obtain ⟨dispatches, active⟩ := Bool.and_eq_true_iff.1 allowed
    apply inv.dispatch dispatches (.refl _) (fun _ _ => rfl) _ dispatched
    intro _ rests
    simp [writeHalf, rests.2] at active
  | timer connection kind timestamp =>
    obtain ⟨allowed, dispatched⟩ := Option.ite_none_right_eq_some.1 stepped
    obtain ⟨dispatches, timed⟩ := Bool.and_eq_true_iff.1 allowed
    have below : connection < run.cycle.allocated := by
      simp only [ThreadRun.dispatches, Bool.and_eq_true, decide_eq_true_eq] at dispatches
      exact dispatches.2
    -- a block connection has no sleep timer
    have main : (∃ j, connection = 2 * j) ∨ kind ≠ .sleep := by
      obtain ⟨k, isMain, -⟩ | ⟨k, isBlock, -⟩ := inv.pairs.cases below
      · exact .inl ⟨k, isMain⟩
      · right
        intro isSleep
        subst isBlock isSleep
        cases (inv.sleeps k below).symm.trans timed
    apply inv.dispatch dispatches (keepsWaits_timerExpired run.cycle main) _ _ dispatched
    · intro other apart
      exact modifyObject_other _ _ _ _ apart
    · intro isBlock rests
      obtain ⟨k, isMain⟩ | notSleep := main
      · subst isMain
        cases (inv.pairs.main k below).flagBlockConn.symm.trans isBlock
      · cases kind with
        | read => simp [CoConnection.timerEvent, rests.1] at timed
        | write => simp [CoConnection.timerEvent, rests.2] at timed
        | sleep => exact notSleep rfl
  | queued connection timestamp =>
    obtain ⟨allowed, dispatched⟩ := Option.ite_none_right_eq_some.1 stepped
    obtain ⟨dispatches, notBlock⟩ := Bool.and_eq_true_iff.1 allowed
    apply inv.dispatch dispatches (.refl _) (fun _ _ => rfl) _ dispatched
    intro isBlock
    simp [isBlock] at notBlock
  | yield =>
    obtain ⟨connection, runs, same⟩ := Option.map_eq_some_iff.1 stepped
    cases same
    obtain ⟨-, -, k, isMain, -⟩ := inv.running connection runs
    subst isMain
    exact inv.yield runs
  | yieldTimer =>
    obtain ⟨connection, runs, same⟩ := Option.map_eq_some_iff.1 stepped
    cases same
    obtain ⟨-, -, k, isMain, -⟩ := inv.running connection runs
    subst isMain
    exact inv.yieldTimer runs
  | yieldThirdsocket calls socketFd eventOP =>
    obtain ⟨connection, runs, goesOn⟩ := Option.bind_eq_some_iff.1 stepped
    obtain ⟨blockConn, paired, same⟩ := Option.map_eq_some_iff.1 goesOn
    cases same
    obtain ⟨-, -, k, isMain, below⟩ := inv.running connection runs
    subst isMain
    -- the block connection is the one of the pair
    cases paired.symm.trans (inv.pairs.main k below).blockConn
    exact inv.yieldThirdsocket (owned _ runs) calls socketFd eventOP
  | complete =>
    obtain ⟨connection, runs, same⟩ := Option.map_eq_some_iff.1 stepped
    cases same
    obtain ⟨-, -, k, isMain, -⟩ := inv.running connection runs
    subst isMain
    exact inv.complete runs
  | reset connection keepalive =>
    obtain ⟨allowed, same⟩ := Option.ite_none_right_eq_some.1 stepped
    cases same
    simp only [Bool.and_eq_true, Bool.not_eq_true', decide_eq_true_eq] at allowed
    obtain ⟨⟨-, below⟩, notBlock⟩ := allowed
    obtain ⟨k, isMain, -⟩ | ⟨k, -, isBlock⟩ := inv.pairs.cases below
    · subst isMain
      exact inv.keep (keepsWaits_reset inv.pairs below keepalive)
    · cases notBlock.symm.trans isBlock
  | createPair =>
    cases stepped
    exact inv.createPair
  | others cycle =>
    cases stepped
    exact inv.keep (replaceOthers_keepsWaits inv.pairs cycle)

end

/-! ## Runs -/

/-- A thread before its first dispatch. -/
structure ThreadStart (run : ThreadRun) : Prop where
  pairs : PairsInv run.cycle
  rests : ∀ k, 2 * k + 1 < run.cycle.allocated → (run.cycle.objects (2 * k + 1)).Rests ∧
    (run.cycle.objects (2 * k + 1)).sleepEvent.flagTimerSet = false
  idle : run.running = none

theorem ThreadStart.inv {run : ThreadRun} (start : ThreadStart run) : ThreadInv run where
  pairs := start.pairs
  sleeps k below := (start.rests k below).2
  waiting k below waits := absurd (start.rests k below).1 waits
  running connection runs := by cases start.idle.symm.trans runs

/-- In a thread whose coroutines wait for third-party sockets only on connections that were not given
    back, code of a coroutine always runs under its own connection. -/
theorem attributed_along {start final : ThreadRun} (started : ThreadStart start)
    {events : List ThreadEvent} (owned : Lib.Along ThreadRun.step WaitsOwned start events)
    (ran : events.foldlM ThreadRun.step start = some final) : final.Attributed := by
  have inv : ThreadInv final := Lib.run_keeps_along ThreadRun.step WaitsOwned ThreadInv
    (fun _ _ _ inv owned stepped => inv.step owned stepped) started.inv owned ran
  intro connection runs
  exact (inv.running connection runs).1

/-- A thread with one pair of connections. -/
def onePair : ThreadRun := { cycle := ({} : CoCycle).createPair 0 }

theorem onePair_started : ThreadStart onePair where
  pairs := by
    refine ⟨⟨1, rfl⟩, ?_, ?_, fun _ => ⟨0, rfl⟩⟩
    · intro k below
      obtain rfl : k = 0 := by
        have := show 2 * k < 2 from below
        omega
      exact ⟨rfl, rfl, rfl, rfl⟩
    · intro k below
      obtain rfl : k = 0 := by
        have := show 2 * k + 1 < 2 from below
        omega
      exact ⟨rfl, rfl, rfl, rfl⟩
  rests k below := by
    obtain rfl : k = 0 := by
      have := show 2 * k + 1 < 2 from below
      omega
    exact ⟨⟨rfl, rfl⟩, rfl⟩
  idle := rfl

/-- A handler waits for a third-party socket until the timeout. -/
def waitsOnce : List ThreadEvent :=
  [.queued 0 0, .yieldThirdsocket { socket := 5 } 5 coEventRead, .timer 1 .read 0]

theorem waitsOnce_attributed : ∃ final, waitsOnce.foldlM ThreadRun.step onePair = some final ∧
    final.running = some 0 ∧ final.Attributed := by
  refine ⟨_, rfl, rfl, ?_⟩
  exact @attributed_along onePair _ onePair_started waitsOnce (by decide) rfl

/-- The connection is given back, and then the handler waits for a third-party socket on it; the
    connection is handed out again, and its next handler waits for its client. -/
def waitsReleased : List ThreadEvent :=
  [.queued 0 0, .reset 0 false, .yieldThirdsocket { socket := 5 } 5 coEventRead, .queued 0 0, .yield, .timer 1 .read 0]

/-- The timeout of the first wait resumes the second one under the block connection. -/
theorem waitsReleased_misattributed : ¬∀ start (events : List ThreadEvent) final, ThreadStart start →
    events.foldlM ThreadRun.step start = some final → final.Attributed := by
  intro all
  have attributed := all onePair waitsReleased _ onePair_started rfl
  have current := attributed 0 rfl
  exact absurd current (by decide)

end CoServer
