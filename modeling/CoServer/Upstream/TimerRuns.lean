import CoServer.Upstream.TimedLives

/-! # No timer is left behind, and nobody waits without one

In every run, all entries of `m_timers` belong to timers that are set, also right
after a reset, so no timer of a request expires when its connection has another one.
And whatever a connection waits for, something is pending that brings it on. -/

namespace CoServer

/-! ## Timers -/

/-- The entries of `m_timers` are the timer that is set. -/
def EventTimer.Clean (self : EventTimer) : Prop := self.entries = if self.flagTimerSet then 1 else 0

namespace EventTimer.Clean

variable {timer : EventTimer}

theorem addTimer (clean : timer.Clean) : timer.addTimer.Clean := by
  unfold EventTimer.addTimer
  split
  · exact clean
  · rename_i unset
    simp only [EventTimer.Clean, if_neg unset] at clean
    simp [EventTimer.Clean, clean]

theorem delTimer (clean : timer.Clean) : timer.delTimer.Clean := by
  unfold EventTimer.delTimer
  split
  · exact clean
  · rename_i set
    simp only [Bool.not_eq_true', Bool.not_eq_false] at set
    simp only [EventTimer.Clean, set, if_true] at clean
    simp [EventTimer.Clean, clean]

theorem unset (clean : timer.Clean) (off : timer.flagTimerSet = false) : timer = {} := by
  obtain ⟨flag, entries⟩ := timer
  cases off
  simp only [EventTimer.Clean, Bool.false_eq_true, if_false] at clean
  rw [clean]

/-- An entry that expires is the only one. -/
theorem expire (clean : timer.Clean) (some : 0 < timer.entries) :
    timer.flagTimerSet = true ∧ timer.expire = {} := by
  obtain ⟨flag, entries⟩ := timer
  cases flag
  · simp only [EventTimer.Clean, Bool.false_eq_true, if_false] at clean some
    omega
  · simp only [EventTimer.Clean, if_true] at clean
    simp [EventTimer.expire, clean]

end EventTimer.Clean

@[simp] theorem EventTimer.addTimer_set (timer : EventTimer) : timer.addTimer.flagTimerSet = true := by
  unfold EventTimer.addTimer
  split
  · assumption
  · rfl

@[simp] theorem EventTimer.delTimer_unset (timer : EventTimer) : timer.delTimer.flagTimerSet = false := by
  unfold EventTimer.delTimer
  split
  · rename_i unset
    exact Bool.not_eq_true' _ ▸ unset
  · rfl

/-! ## The invariant -/

/-- There is no sub-request: the user's functions come later, or the request has gone. -/
def ChainPoint.Quiet : ChainPoint → Bool
  | .requestWrite _ | .userProcess | .requestDestroy _ | .upstreamDestroy _ => false
  | _ => true

/-- A request without its connection. -/
def ChainPoint.Retry : ChainPoint → Bool
  | .retryUpstream | .retryDestroy => true
  | _ => false

/-- The timer that limits the time at a point. -/
def ChainPoint.timer : ChainPoint → Option TimerKind
  | .requestRead | .userProcess | .upstreamRead => some .read
  | .requestWrite _ | .clientConnect | .upstreamWrite => some .write
  | _ => none

/-- The user's function suspends its coroutine. -/
def TimedEvent.suspends : TimedEvent → Bool
  | .yield | .sleep | .third _ => true
  | _ => false

namespace TimedConnection

/-- What a connection that waits is brought on by.  The last two are a request whose
    sub-requests are told to end, and a user's function that has called `yield` itself. -/
def Attended (self : TimedConnection) : Prop :=
  self.owner = .pool ∨ self.running = true ∨ self.queued = true ∨ (∃ kind, self.armed kind = true) ∨
    (∃ half, (self.blockTimers half).flagTimerSet = true) ∨
    (self.flagDying = true ∧ 0 < self.subRequests) ∨
    (self.wait = .yield ∧ (self.flagDying = true ∨ self.point ≠ .userProcess))

/-- What holds at every point of a dispatch. -/
structure Tidy (connection : TimedConnection) : Prop where
  clean : ∀ kind, (connection.timers kind).Clean
  block : ∀ half, connection.blockTimers half = if connection.wait = .third half then ⟨true, 1⟩ else {}
  user : connection.wait ≠ .executing → connection.point.User = true ∧ connection.owner = .request
  awake : connection.armed .sleep = true → connection.wait = .sleep
  blocking : connection.flagThirdFuncBlocking = true → connection.armed .sleep = true
  owned : connection.point ≠ .returned → connection.point.Retry = false → connection.owner = .request
  freed : connection.owner = .pool → ∀ kind, connection.armed kind = false
  retried : connection.point.Retry = true → connection.owner = .pool
  quiet : connection.point.Quiet = true → connection.subRequests = 0

structure TimedInv (connection : TimedConnection) : Prop extends Tidy connection where
  timed : ∀ kind, connection.point.timer = some kind →
    connection.armed kind = true ∨ connection.flagDying = true
  attended : connection.Attended

/-- No function of the user is suspended. -/
structure Still (connection : TimedConnection) : Prop where
  clean : ∀ kind, (connection.timers kind).Clean
  block : ∀ half, connection.blockTimers half = {}
  executing : connection.wait = .executing
  awake : connection.armed .sleep = false

/-- A handler has the thread. -/
structure Calm (connection : TimedConnection) : Prop extends Still connection where
  unblocked : connection.flagThirdFuncBlocking = false
  owned : connection.owner = .request

variable {connection next : TimedConnection} {calls : TimedCalls} {retCode ret : Int} {kind : TimerKind}

@[simp] theorem subRequests_addTimer : (connection.addTimer kind).subRequests = connection.subRequests := rfl

@[simp] theorem subRequests_delTimer : (connection.delTimer kind).subRequests = connection.subRequests := rfl

theorem armed_addTimer_of {other : TimerKind} (armed : connection.armed other = true) :
    (connection.addTimer kind).armed other = true := by
  by_cases same : other = kind
  · subst same
    simp [TimedConnection.armed, addTimer, setTimers]
  · simpa [TimedConnection.armed, addTimer, setTimers, same] using armed

@[simp] theorem armed_addTimer : (connection.addTimer kind).armed kind = true := by
  simp [armed, addTimer, setTimers]

/-! ## The callbacks -/

theorem clean_setTimers {f : EventTimer → EventTimer} (clean : ∀ kind, (connection.timers kind).Clean)
    (keeps : (f (connection.timers kind)).Clean) (other : TimerKind) :
    ((connection.setTimers kind f).timers other).Clean := by
  by_cases same : other = kind
  · subst same
    simpa [setTimers] using keeps
  · simpa [setTimers, same] using clean other

namespace Still

theorem addTimer (still : Still connection) (kept : kind ≠ .sleep) : Still (connection.addTimer kind) := by
  refine { still with clean := clean_setTimers still.clean (still.clean kind).addTimer, awake := ?_ }
  simpa [armed, TimedConnection.addTimer, setTimers, kept.symm] using still.awake

theorem delTimer (still : Still connection) (kept : kind ≠ .sleep) : Still (connection.delTimer kind) := by
  refine { still with clean := clean_setTimers still.clean (still.clean kind).delTimer, awake := ?_ }
  simpa [armed, TimedConnection.delTimer, setTimers, kept.symm] using still.awake

/-- The three timers are off when a connection is reset. -/
theorem cleaned (still : Still connection) (kind : TimerKind) :
    (((connection.delTimer .write).delTimer .read).reset.timers kind) = {} := by
  have deleted := (still.delTimer (by decide : TimerKind.write ≠ .sleep)).delTimer (by decide : TimerKind.read ≠ .sleep)
  have off : ((connection.delTimer .write).delTimer .read).armed kind = false := by
    cases kind with
    | read => simp [armed, TimedConnection.delTimer, setTimers]
    | write => simp [armed, TimedConnection.delTimer, setTimers]
    | sleep => exact deleted.awake
  have none := (deleted.clean kind).unset off
  simp only [TimedConnection.reset, resetBlock, none, EventTimer.reset]

theorem free (still : Still connection) (keep : Bool) {kept : ConnOwner}
    (opened : keep = true → kept ≠ .pool) : TimedInv (connection.free keep kept) := by
  have off := still.cleaned
  have block : ∀ half, ((connection.delTimer .write).delTimer .read).reset.blockTimers half = {} := fun half => by
    have none := still.block half
    simp_all [TimedConnection.reset, resetBlock, TimedConnection.delTimer, setTimers, EventTimer.reset]
  generalize reset : ((connection.delTimer .write).delTimer .read).reset = fresh at off block
  have executing : fresh.wait = .executing := by
    rw [← reset]
    exact still.executing
  have unblocked : fresh.flagThirdFuncBlocking = false := by rw [← reset]; rfl
  have none : fresh.subRequests = 0 := by rw [← reset]; rfl
  cases keep with
  | false =>
    simp only [TimedConnection.free, reset, Bool.false_eq_true, if_false]
    exact {
      clean := fun kind => by simp [off, EventTimer.Clean]
      block := fun half => by simp [executing, block]
      user := fun suspended => absurd executing suspended
      awake := fun sleeps => by simp [armed, off] at sleeps
      blocking := fun blocks => by simp [unblocked] at blocks
      owned := fun away => absurd rfl away
      freed := fun _ kind => by simp [armed, off]
      retried := fun retry => by cases retry
      quiet := fun _ => none
      timed := fun _ limits => by cases limits
      attended := .inl rfl }
  | true =>
    simp only [TimedConnection.free, reset, if_true]
    exact {
      clean := clean_setTimers (fun kind => by simp [off, EventTimer.Clean])
        (by simp [off, EventTimer.Clean, EventTimer.addTimer])
      block := fun half => by simp [TimedConnection.addTimer, setTimers, executing, block]
      user := fun suspended => absurd executing suspended
      awake := fun sleeps => by simp [armed, TimedConnection.addTimer, setTimers, off] at sleeps
      blocking := fun blocks => by simp [TimedConnection.addTimer, setTimers, unblocked] at blocks
      owned := fun away => absurd rfl away
      freed := fun pooled => absurd pooled (opened rfl)
      retried := fun retry => by cases retry
      quiet := fun _ => none
      timed := fun _ limits => by cases limits
      attended := .inr (.inr (.inr (.inl ⟨.read, armed_addTimer⟩))) }

end Still

namespace Calm

theorem addTimer (calm : Calm connection) (kept : kind ≠ .sleep) : Calm (connection.addTimer kind) :=
  { calm.toStill.addTimer kept with unblocked := calm.unblocked, owned := calm.owned }

theorem delTimer (calm : Calm connection) (kept : kind ≠ .sleep) : Calm (connection.delTimer kind) :=
  { calm.toStill.delTimer kept with unblocked := calm.unblocked, owned := calm.owned }

/-- The coroutine is at a point. -/
theorem stays (calm : Calm connection) {point : ChainPoint}
    (kept : point.Retry = false) (quiet : point.Quiet = true → connection.subRequests = 0)
    (timed : ∀ kind, point.timer = some kind → connection.armed kind = true ∨ connection.flagDying = true)
    (waits : point.User = true ∨ ∃ kind, connection.armed kind = true) :
    TimedInv { connection with point } where
  clean := calm.clean
  block := by simpa [calm.executing] using calm.block
  user suspended := absurd calm.executing suspended
  awake sleeps := by
    have awake := calm.awake
    simp_all [armed]
  blocking blocks := by
    have unblocked := calm.unblocked
    simp_all
  owned _ _ := calm.owned
  freed pooled := by
    have owned := calm.owned
    simp_all
  retried retry := by simp_all
  quiet := quiet
  timed := timed
  attended := by
    obtain user | armed := waits
    · exact .inr (.inl (by simp [running, user, calm.executing]))
    · exact .inr (.inr (.inr (.inl armed)))

/-- The handler goes on to a point. -/
theorem reaches (calm : Calm connection) {point : ChainPoint} (away : point ≠ .returned)
    (kept : point.Retry = false) (quiet : point.Quiet = true → connection.subRequests = 0)
    (timed : ∀ kind, point.timer = some kind → connection.armed kind = true) :
    TimedInv { connection with point } := by
  refine calm.stays kept quiet (fun kind limits => .inl (timed kind limits)) ?_
  cases user : point.User with
  | true => exact .inl rfl
  | false =>
    have limited : ∃ kind, point.timer = some kind := by
      cases point <;> simp_all [ChainPoint.User, ChainPoint.Retry, ChainPoint.timer]
    obtain ⟨kind, limits⟩ := limited
    exact .inr ⟨kind, timed kind limits⟩

/-! ### `CoCallbackRequest` -/

theorem requestFinalize (calm : Calm connection) : TimedInv (connection.requestFinalize retCode) := by
  unfold TimedConnection.requestFinalize
  split
  · exact calm.reaches (fun same => by cases same) rfl (fun quiet => by cases quiet)
      (fun _ limits => by cases limits)
  · exact calm.free _ (fun _ => by decide)

theorem requestWritten (calm : Calm connection) : TimedInv (connection.requestWritten retCode) :=
  (calm.delTimer (by decide)).requestFinalize

theorem requestSend (calm : Calm connection) (timed : connection.armed .write = true ∨ connection.flagDying = true) :
    TimedInv (connection.requestSend retCode calls) := by
  unfold TimedConnection.requestSend
  split
  · exact calm.requestWritten
  · rename_i alive
    split
    · exact calm.reaches (fun same => by cases same) rfl (fun quiet => by cases quiet)
        (fun _ limits => by cases limits; exact timed.resolve_right alive)
    · exact calm.requestWritten

theorem requestWrite (calm : Calm connection) : TimedInv (connection.requestWrite retCode calls) := by
  have calm := calm.addTimer (by decide : TimerKind.write ≠ .sleep)
  simp only [TimedConnection.requestWrite]
  split
  · exact calm.requestWritten
  · exact calm.requestSend (.inl armed_addTimer)

theorem requestReceived (calm : Calm connection) : TimedInv (connection.requestReceived ret calls) := by
  have calm := calm.delTimer (by decide : TimerKind.read ≠ .sleep)
  simp only [TimedConnection.requestReceived]
  split
  · exact calm.requestWrite
  · exact (calm.addTimer (by decide)).reaches (fun same => by cases same) rfl
      (fun quiet => by cases quiet) (fun _ limits => by cases limits; exact armed_addTimer)

theorem requestRecv (calm : Calm connection) (quiet : connection.subRequests = 0)
    (timed : connection.armed .read = true ∨ connection.flagDying = true) : TimedInv (connection.requestRecv calls) := by
  unfold TimedConnection.requestRecv
  split
  · exact calm.requestReceived
  · rename_i alive
    split
    · exact calm.reaches (fun same => by cases same) rfl (fun _ => quiet)
        (fun _ limits => by cases limits; exact timed.resolve_right alive)
    · exact calm.requestReceived

theorem requestProcessed (calm : Calm connection) : TimedInv (connection.requestProcessed ret calls) :=
  (calm.delTimer (by decide)).requestWrite

/-! ### `CoCallbackUpstream` -/

theorem upstreamFinalize (calm : Calm connection) : TimedInv (connection.upstreamFinalize retCode calls) := by
  unfold TimedConnection.upstreamFinalize
  split
  · rename_i retries
    -- a failed attempt is never kept
    have failed : (decide (retCode = coOk) && calls.keep) = false := by simp_all
    have freed := @Still.free _ calm.toStill false .reuse (fun kept => by cases kept)
    rw [TimedConnection.freeUpstream, failed]
    exact { freed with
      user := fun suspended => absurd calm.executing suspended
      owned := fun _ retry => by cases retry
      retried := fun _ => rfl
      quiet := fun _ => freed.quiet rfl
      timed := fun _ limits => by cases limits
      attended := .inl rfl }
  · split
    · exact calm.reaches (fun same => by cases same) rfl (fun quiet => by cases quiet)
        (fun _ limits => by cases limits)
    · exact calm.free _ (fun _ => by decide)

theorem upstreamReceived (calm : Calm connection) : TimedInv (connection.upstreamReceived ret calls) :=
  (calm.delTimer (by decide)).upstreamFinalize

theorem upstreamRecv (calm : Calm connection) (quiet : connection.subRequests = 0)
    (timed : connection.armed .read = true ∨ connection.flagDying = true) : TimedInv (connection.upstreamRecv calls) := by
  unfold TimedConnection.upstreamRecv
  split
  · exact calm.upstreamReceived
  · rename_i alive
    split
    · exact calm.reaches (fun same => by cases same) rfl (fun _ => quiet)
        (fun _ limits => by cases limits; exact timed.resolve_right alive)
    · exact calm.upstreamReceived

theorem upstreamRead (calm : Calm connection) (quiet : connection.subRequests = 0) :
    TimedInv (connection.upstreamRead calls) := by
  have calm := calm.addTimer (by decide : TimerKind.read ≠ .sleep)
  simp only [TimedConnection.upstreamRead]
  split
  · exact calm.upstreamReceived
  · exact calm.upstreamRecv quiet (.inl armed_addTimer)

theorem upstreamWritten (calm : Calm connection) (quiet : connection.subRequests = 0) :
    TimedInv (connection.upstreamWritten ret calls) := by
  have calm := calm.delTimer (by decide : TimerKind.write ≠ .sleep)
  simp only [TimedConnection.upstreamWritten]
  split
  · exact calm.upstreamFinalize
  · exact calm.upstreamRead quiet

theorem upstreamSend (calm : Calm connection) (quiet : connection.subRequests = 0)
    (timed : connection.armed .write = true ∨ connection.flagDying = true) : TimedInv (connection.upstreamSend calls) := by
  unfold TimedConnection.upstreamSend
  split
  · exact calm.upstreamWritten quiet
  · rename_i alive
    split
    · exact calm.reaches (fun same => by cases same) rfl (fun _ => quiet)
        (fun _ limits => by cases limits; exact timed.resolve_right alive)
    · exact calm.upstreamWritten quiet

theorem upstreamWrite (calm : Calm connection) (quiet : connection.subRequests = 0) :
    TimedInv (connection.upstreamWrite calls) := by
  have calm := calm.addTimer (by decide : TimerKind.write ≠ .sleep)
  simp only [TimedConnection.upstreamWrite]
  split
  · exact calm.upstreamWritten quiet
  · exact calm.upstreamSend quiet (.inl armed_addTimer)

theorem upstreamConnected (calm : Calm connection) (quiet : connection.subRequests = 0) :
    TimedInv (connection.upstreamConnected ret calls) := by
  have calm := calm.delTimer (by decide : TimerKind.write ≠ .sleep)
  simp only [TimedConnection.upstreamConnected]
  split
  · exact calm.upstreamFinalize
  · exact calm.upstreamWrite quiet

theorem upstreamConnect (calm : Calm connection) (quiet : connection.subRequests = 0)
    (timed : connection.armed .write = true ∨ connection.flagDying = true) : TimedInv (connection.upstreamConnect calls) := by
  unfold TimedConnection.upstreamConnect
  split
  · exact calm.upstreamConnected quiet
  · rename_i alive
    split
    · exact calm.reaches (fun same => by cases same) rfl (fun _ => quiet)
        (fun _ limits => by cases limits; exact timed.resolve_right alive)
    · exact calm.upstreamConnected quiet

theorem upstreamInit (calm : Calm connection) (quiet : connection.subRequests = 0) :
    TimedInv (connection.upstreamInit calls) := by
  unfold TimedConnection.upstreamInit
  split
  · exact (calm.delTimer (by decide)).upstreamWrite quiet
  · have calm := calm.addTimer (by decide : TimerKind.write ≠ .sleep)
    dsimp only
    split
    · exact calm.upstreamConnected quiet
    · exact calm.upstreamConnect quiet (.inl armed_addTimer)

end Calm

theorem Still.requestInit (still : Still connection) (unblocked : connection.flagThirdFuncBlocking = false)
    (quiet : connection.subRequests = 0) : TimedInv (connection.requestInit calls) := by
  have still := still.delTimer (by decide : TimerKind.read ≠ .sleep)
  have owned : Calm { connection.delTimer .read with owner := .request } :=
    { clean := still.clean, block := still.block, executing := still.executing, awake := still.awake
      unblocked, owned := rfl }
  have calm := owned.addTimer (by decide : TimerKind.read ≠ .sleep)
  simp only [TimedConnection.requestInit]
  split
  · exact calm.requestReceived
  · exact calm.requestRecv quiet (.inl armed_addTimer)

/-! ## Dispatches -/

theorem eventException_cases (connection : TimedConnection) :
    (connection.flagTimedOut = false ∧ connection.eventException = (.goesOn, connection)) ∨
    ((connection.flagThirdFuncBlocking = true ∨ 0 < connection.subRequests) ∧
      connection.eventException = (.exception, { connection with flagDying := true })) ∨
    (connection.owner ≠ .request ∧
      connection.eventException = (.frees, { connection with flagDying := true })) ∨
    connection.eventException = (.goesOn, { connection with flagDying := true }) := by
  unfold eventException
  split
  · rename_i alive
    simp only [Bool.not_eq_true', Bool.or_eq_false_iff] at alive
    exact .inl ⟨alive.1.1, rfl⟩
  · dsimp only
    split
    · rename_i blocks
      exact .inr (.inl ⟨.inl blocks, rfl⟩)
    split
    · exact .inr (.inr (.inr rfl))
    split
    · rename_i idle
      exact .inr (.inr (.inl ⟨idle, rfl⟩))
    split
    · rename_i waits
      exact .inr (.inl ⟨.inr (Nat.pos_of_ne_zero waits), rfl⟩)
    · exact .inr (.inr (.inr rfl))

namespace Tidy

theorem still (tidy : Tidy connection) (executing : connection.wait = .executing) : Still connection where
  clean := tidy.clean
  block half := by simpa [executing] using tidy.block half
  executing := executing
  awake := by
    refine Bool.eq_false_iff.2 fun sleeps => ?_
    cases executing.symm.trans (tidy.awake sleeps)

theorem unblocked (tidy : Tidy connection) (executing : connection.wait = .executing) :
    connection.flagThirdFuncBlocking = false := by
  refine Bool.eq_false_iff.2 fun blocks => ?_
  cases executing.symm.trans (tidy.awake (tidy.blocking blocks))

theorem calm (tidy : Tidy connection) (executing : connection.wait = .executing)
    (owned : connection.owner = .request) : Calm connection :=
  { tidy.still executing with unblocked := tidy.unblocked executing, owned }

/-- Outside of the user's functions nothing of them is suspended. -/
theorem executing (tidy : Tidy connection) (idle : connection.point.User = false) :
    connection.wait = .executing := by
  by_contra suspended
  cases idle.symm.trans (tidy.user suspended).1

/-- A user's function goes on, without the timer of the wait. -/
theorem resumeUser (tidy : Tidy connection) (suspended : connection.wait ≠ .executing)
    (timed : ∀ kind, connection.point.timer = some kind →
      connection.armed kind = true ∨ connection.flagDying = true) :
    TimedInv connection.resumeUser := by
  obtain ⟨user, owned⟩ := tidy.user suspended
  have kept : connection.point.Retry = false := by
    refine Bool.eq_false_iff.2 fun retry => ?_
    cases owned.symm.trans (tidy.retried retry)
  have quiet : connection.point.Quiet = true → connection.subRequests = 0 := tidy.quiet
  unfold TimedConnection.resumeUser
  split
  · contradiction
  · rename_i yields
    have block := tidy.block
    have awake : connection.armed .sleep = false := by
      refine Bool.eq_false_iff.2 fun sleeps => ?_
      cases yields.symm.trans (tidy.awake sleeps)
    have calm : Calm { connection with wait := .executing } :=
      { clean := tidy.clean
        block := by simpa [yields] using block
        executing := rfl
        awake
        unblocked := Bool.eq_false_iff.2 fun blocks => by simp [tidy.blocking blocks] at awake
        owned }
    exact calm.stays kept quiet timed (.inl user)
  · rename_i sleeps
    have block := tidy.block
    have calm : Calm { connection.delTimer .sleep with wait := .executing, flagThirdFuncBlocking := false } :=
      { clean := clean_setTimers tidy.clean (tidy.clean .sleep).delTimer
        block := by simpa [sleeps, delTimer, setTimers] using block
        executing := rfl
        awake := by simp [armed, delTimer, setTimers]
        unblocked := rfl
        owned }
    refine @Calm.stays _ calm connection.point kept quiet (fun kind limits => ?_) (.inl user)
    have other : kind ≠ .sleep := by
      rintro rfl
      cases point : connection.point <;> simp [point, ChainPoint.timer] at limits
    simpa [armed, delTimer, setTimers, other] using timed kind limits
  · rename_i half waits
    have awake : connection.armed .sleep = false := by
      refine Bool.eq_false_iff.2 fun sleeps => ?_
      cases waits.symm.trans (tidy.awake sleeps)
    have block : ∀ other, ((connection.setBlock half .delTimer).resetBlock).blockTimers other = {} := by
      intro other
      have held := tidy.block other
      have here := tidy.block half
      by_cases same : other = half
      · subst same
        simp only [waits, if_true] at here
        simp [resetBlock, setBlock, here, EventTimer.delTimer, EventTimer.reset]
      · have differs : ¬ half = other := fun back => same back.symm
        simp only [waits, UserWait.third.injEq, differs, if_false] at held
        simp [resetBlock, setBlock, same, held, EventTimer.reset]
    have calm : Calm { (connection.setBlock half .delTimer).resetBlock with
        wait := .executing, flagUseBlockConn := false } :=
      { clean := tidy.clean
        block
        executing := rfl
        awake
        unblocked := Bool.eq_false_iff.2 fun blocks => by simp [tidy.blocking blocks] at awake
        owned }
    exact @Calm.stays _ calm connection.point kept quiet timed (.inl user)

theorem swapIn (tidy : Tidy connection)
    (timed : ∀ kind, connection.point.timer = some kind →
      connection.armed kind = true ∨ connection.flagDying = true)
    (resting : connection.running = false) (stepped : connection.swapIn calls = some next) :
    TimedInv next := by
  have suspended : connection.point.User = true → connection.wait ≠ .executing := fun user executing => by
    simp [running, user, executing] at resting
  have waiting : connection.point.User = false → connection.point ≠ .returned → Calm connection :=
    fun idle away => tidy.calm (tidy.executing idle) (tidy.owned away (by
      cases point : connection.point <;> simp_all [ChainPoint.Retry, ChainPoint.User, running]))
  unfold TimedConnection.swapIn at stepped
  cases point : connection.point with
  | returned =>
    have executing := tidy.executing (by rw [point]; rfl)
    have quiet := tidy.quiet (by rw [point]; rfl)
    rw [point] at stepped
    cases owner : connection.owner with
    | client =>
      simp only [owner, Option.some.injEq] at stepped
      rw [← stepped]
      exact (tidy.still executing).requestInit (tidy.unblocked executing) quiet
    | request =>
      simp only [owner, Option.some.injEq] at stepped
      rw [← stepped]
      exact (tidy.calm executing owner).upstreamInit quiet
    | pool => simp [owner] at stepped
    | reuse => simp [owner] at stepped
  | requestRead =>
    rw [point] at stepped waiting
    cases stepped
    exact (waiting rfl (fun same => by cases same)).requestRecv (tidy.quiet (by rw [point]; rfl))
      (timed .read (by rw [point]; rfl))
  | requestWrite retCode =>
    rw [point] at stepped waiting
    cases stepped
    exact (waiting rfl (fun same => by cases same)).requestSend (timed .write (by rw [point]; rfl))
  | clientConnect =>
    rw [point] at stepped waiting
    cases stepped
    exact (waiting rfl (fun same => by cases same)).upstreamConnect (tidy.quiet (by rw [point]; rfl))
      (timed .write (by rw [point]; rfl))
  | upstreamWrite =>
    rw [point] at stepped waiting
    cases stepped
    exact (waiting rfl (fun same => by cases same)).upstreamSend (tidy.quiet (by rw [point]; rfl))
      (timed .write (by rw [point]; rfl))
  | upstreamRead =>
    rw [point] at stepped waiting
    cases stepped
    exact (waiting rfl (fun same => by cases same)).upstreamRecv (tidy.quiet (by rw [point]; rfl))
      (timed .read (by rw [point]; rfl))
  | retryUpstream =>
    rw [point] at stepped
    cases stepped
  | userProcess | requestDestroy retCode | upstreamDestroy retCode | retryDestroy =>
    rw [point] at stepped suspended
    cases stepped
    exact tidy.resumeUser (suspended rfl) timed

/-- Flags are all that the handler of exceptions sets. -/
theorem dying (tidy : Tidy connection) : Tidy { connection with flagDying := true } :=
  { tidy with }

theorem funcDispatcher (tidy : Tidy connection)
    (timed : ∀ kind, connection.point.timer = some kind →
      connection.armed kind = true ∨ connection.flagDying = true ∨ connection.flagTimedOut = true)
    (resting : connection.running = false) (stepped : connection.funcDispatcher calls = some next) :
    TimedInv next := by
  unfold TimedConnection.funcDispatcher at stepped
  obtain ⟨alive, answer⟩ | ⟨waits, answer⟩ | ⟨idle, answer⟩ | answer := connection.eventException_cases
  · rw [answer] at stepped
    exact tidy.swapIn (fun kind limits => by simpa [alive] using timed kind limits) resting stepped
  · rw [answer] at stepped
    cases stepped
    refine { tidy.dying with timed := fun _ _ => .inr rfl, attended := ?_ }
    obtain blocks | waits := waits
    · exact .inr (.inr (.inr (.inl ⟨.sleep, tidy.blocking blocks⟩)))
    · exact .inr (.inr (.inr (.inr (.inr (.inl ⟨rfl, waits⟩)))))
  · rw [answer] at stepped
    obtain ⟨_, stepped⟩ := Option.ite_none_left_eq_some.1 stepped
    cases stepped
    have executing : connection.wait = .executing := by
      by_contra suspended
      exact idle (tidy.user suspended).2
    exact (tidy.dying.still executing).free false (fun kept => by cases kept)
  · rw [answer] at stepped
    exact tidy.dying.swapIn (fun _ _ => .inr rfl) resting stepped

end Tidy

/-! ## Runs -/

/-- The `m_userDestroy` of a retry that got no connection does not wait. -/
def Retires (connection : TimedConnection) (event : TimedEvent) : Prop :=
  connection.point = .retryDestroy → event.suspends = false

/-- Whether the timer has expired or is deleted after the wait, the block connection is reset. -/
theorem swapIn_expired {half : Half} (user : connection.point.User = true)
    (waits : connection.wait = .third half)
    (armed : connection.blockTimers half = if connection.wait = .third half then ⟨true, 1⟩ else {}) :
    (connection.setBlock half .expire).swapIn calls = connection.swapIn calls := by
  rw [waits, if_pos rfl] at armed
  have resumed : (connection.setBlock half .expire).resumeUser = connection.resumeUser := by
    simp [resumeUser, setBlock, waits, armed, EventTimer.expire, EventTimer.delTimer]
  unfold TimedConnection.swapIn
  cases point : connection.point <;> simp_all [ChainPoint.User, setBlock]

instance (connection : TimedConnection) (event : TimedEvent) : Decidable (Retires connection event) :=
  inferInstanceAs (Decidable (_ → _))

namespace TimedInv

variable {event : TimedEvent}

/-- What the user's function waits in is limited by a timer. -/
theorem suspends (inv : TimedInv connection) (retires : connection.point ≠ .retryDestroy)
    (runs : connection.userRuns = true) : Calm connection ∧ connection.point.User = true := by
  simp only [userRuns, Bool.and_eq_true, decide_eq_true_eq] at runs
  have away : connection.point ≠ .returned := fun same => by simp [same, ChainPoint.User] at runs
  have kept : connection.point.Retry = false := by
    cases point : connection.point <;> simp_all [ChainPoint.Retry, ChainPoint.User]
  exact ⟨inv.calm runs.2 (inv.owned away kept), runs.1⟩

theorem returned (inv : TimedInv connection) (returned : connection.point = .returned) :
    Still connection ∧ connection.flagThirdFuncBlocking = false ∧ connection.subRequests = 0 := by
  have executing := inv.executing (by rw [returned]; rfl)
  exact ⟨inv.still executing, inv.unblocked executing, inv.quiet (by rw [returned]; rfl)⟩

/-- A connection is handed on. -/
theorem handed (inv : TimedInv connection) (returned : connection.point = .returned) {owner : ConnOwner}
    (taken : owner ≠ .pool) (userDestroy : Bool) :
    TimedInv { connection with owner, userDestroy, queued := true } := by
  have executing := inv.executing (by rw [returned]; rfl)
  exact { inv with
    user := fun suspended => absurd executing suspended
    owned := fun away => absurd returned away
    freed := fun pooled => absurd pooled taken
    retried := fun retry => by simp [returned, ChainPoint.Retry] at retry
    attended := .inr (.inr (.inl rfl)) }

/-- An entry that expires is the timer that is set, and the connection is told about it. -/
theorem expire (inv : TimedInv connection) (held : 0 < (connection.timers kind).entries)
    (resting : connection.running = false)
    (stepped : (connection.timerExpired kind).funcDispatcher calls = some next) : TimedInv next := by
  obtain ⟨armed, expired⟩ := (inv.clean kind).expire held
  have clean : ∀ other, ((connection.setTimers kind .expire).timers other).Clean :=
    clean_setTimers inv.clean (by simp [expired, EventTimer.Clean])
  have others : ∀ other, other ≠ kind → (connection.setTimers kind .expire).armed other = connection.armed other :=
    fun other differs => by simp [TimedConnection.armed, setTimers, differs]
  have here : (connection.setTimers kind .expire).armed kind = false := by
    simp [TimedConnection.armed, setTimers, expired]
  have freed : connection.owner ≠ .pool := fun pooled => by
    have off := inv.freed pooled kind
    simp [TimedConnection.armed, armed] at off
  have timed : ∀ other, connection.point.timer = some other → other ≠ kind →
      (connection.setTimers kind .expire).armed other = true ∨ connection.flagDying = true :=
    fun other limits differs => (inv.timed other limits).imp_left (others other differs).trans
  cases kind with
  | sleep =>
    have tidy : Tidy (connection.timerExpired .sleep) :=
      { inv with
        clean
        awake := fun sleeps => by cases here.symm.trans sleeps
        blocking := fun blocks => by cases blocks
        freed := fun pooled => absurd pooled freed }
    refine tidy.funcDispatcher (fun other limits => (timed other limits ?_).imp_right .inl) resting stepped
    rintro rfl
    cases point : connection.point <;> simp [timerExpired, setTimers, point, ChainPoint.timer] at limits
  | read =>
    have tidy : Tidy (connection.timerExpired .read) :=
      { inv with
        clean
        awake := fun sleeps => inv.awake ((others .sleep (by decide)).symm.trans sleeps)
        blocking := fun blocks => (others .sleep (by decide)).trans (inv.blocking blocks)
        freed := fun pooled => absurd pooled freed }
    exact tidy.funcDispatcher (fun _ _ => .inr (.inr rfl)) resting stepped
  | write =>
    have tidy : Tidy (connection.timerExpired .write) :=
      { inv with
        clean
        awake := fun sleeps => inv.awake ((others .sleep (by decide)).symm.trans sleeps)
        blocking := fun blocks => (others .sleep (by decide)).trans (inv.blocking blocks)
        freed := fun pooled => absurd pooled freed }
    exact tidy.funcDispatcher (fun _ _ => .inr (.inr rfl)) resting stepped

/-- A request that is retried has left the connection. -/
theorem leaves (inv : TimedInv connection) (retry : connection.point.Retry = true)
    (executing : connection.wait = .executing) {point : ChainPoint} (quiet : point = .returned ∨ point = .retryDestroy) :
    TimedInv { connection with point } := by
  have none : connection.subRequests = 0 := inv.quiet (by
    cases point : connection.point <;> simp_all [ChainPoint.Retry, ChainPoint.Quiet])
  have pooled := inv.retried retry
  exact { inv with
    user := fun suspended => absurd executing suspended
    owned := fun away kept => by obtain rfl | rfl := quiet <;> simp_all [ChainPoint.Retry]
    retried := fun _ => pooled
    quiet := fun _ => none
    timed := fun _ limits => by obtain rfl | rfl := quiet <;> cases limits
    attended := .inl pooled }

theorem userReturns (inv : TimedInv connection) (runs : connection.userRuns = true) :
    TimedInv (connection.userReturns ret calls) := by
  simp only [userRuns, Bool.and_eq_true, decide_eq_true_eq] at runs
  unfold TimedConnection.userReturns
  split
  · rename_i point
    exact (inv.calm runs.2 (inv.owned (by simp [point]) (by rw [point]; rfl))).requestProcessed
  · exact (inv.still runs.2).free _ (fun _ => by decide)
  · exact (inv.still runs.2).free _ (fun _ => by decide)
  · have retry : connection.point.Retry = true := by
      cases point : connection.point <;> simp_all [ChainPoint.User, ChainPoint.Retry]
    exact inv.leaves retry runs.2 (.inl rfl)

theorem step (inv : TimedInv connection) (retires : Retires connection event)
    (stepped : connection.step event = some next) : TimedInv next := by
  cases event with
  | accept userDestroy =>
    obtain ⟨⟨_, returned⟩, stepped⟩ := Option.ite_none_right_eq_some.1 stepped
    cases stepped
    exact inv.handed returned (by decide) userDestroy
  | assign userDestroy =>
    obtain ⟨⟨_, returned⟩, stepped⟩ := Option.ite_none_right_eq_some.1 stepped
    cases stepped
    exact inv.handed returned (by decide) userDestroy
  | drop =>
    obtain ⟨⟨_, returned⟩, stepped⟩ := Option.ite_none_right_eq_some.1 stepped
    cases stepped
    exact (inv.returned returned).1.free false (fun kept => by cases kept)
  | markDying =>
    obtain ⟨_, stepped⟩ := Option.ite_none_right_eq_some.1 stepped
    cases stepped
    exact { inv.toTidy with timed := fun _ _ => .inr rfl, attended := .inr (.inr (.inl rfl)) }
  | popDelay calls =>
    obtain ⟨met, stepped⟩ := Option.ite_none_right_eq_some.1 stepped
    simp only [Bool.and_eq_true, Bool.not_eq_true'] at met
    have tidy : Tidy { connection with queued := false } := { inv.toTidy with }
    exact tidy.funcDispatcher (fun kind limits => (inv.timed kind limits).imp_right .inl) met.2 stepped
  | dispatch eof calls =>
    obtain ⟨⟨_, resting⟩, stepped⟩ := Option.ite_none_right_eq_some.1 stepped
    have tidy : Tidy { connection with flagPendingEof := connection.flagPendingEof || eof } :=
      { inv.toTidy with }
    exact tidy.funcDispatcher (fun kind limits => (inv.timed kind limits).imp_right .inl) resting stepped
  | expire kind calls =>
    obtain ⟨⟨held, resting⟩, stepped⟩ := Option.ite_none_right_eq_some.1 stepped
    exact inv.expire held resting stepped
  | expireBlock half calls =>
    obtain ⟨⟨held, resting, _⟩, stepped⟩ := Option.ite_none_right_eq_some.1 stepped
    have waits : connection.wait = .third half := by
      have block := inv.block half
      by_contra other
      rw [if_neg other] at block
      simp [block] at held
    rw [swapIn_expired (inv.user (by simp [waits])).1 waits (inv.block half)] at stepped
    exact inv.swapIn inv.timed resting stepped
  | blockEvent calls =>
    simp only [TimedConnection.step] at stepped
    split at stepped
    · rename_i half waits
      obtain ⟨_, stepped⟩ := Option.ite_none_right_eq_some.1 stepped
      have resting : connection.running = false := by
        have away : connection.point ≠ .retryUpstream := fun same => by
          have user := (inv.user (by simp [waits])).1
          simp [same, ChainPoint.User] at user
        simp [running, waits, away]
      exact inv.swapIn inv.timed resting stepped
    · cases stepped
  | yield =>
    obtain ⟨runs, stepped⟩ := Option.ite_none_right_eq_some.1 stepped
    obtain ⟨calm, user⟩ := inv.suspends (fun same => by cases retires same) runs
    cases stepped
    exact { inv with
      block := by simpa using calm.block
      user := fun _ => ⟨user, calm.owned⟩
      awake := fun sleeps => by cases calm.awake.symm.trans sleeps
      attended := by
        by_cases process : connection.point = .userProcess
        · obtain armed | dying := inv.timed .read (by rw [process]; rfl)
          · exact .inr (.inr (.inr (.inl ⟨.read, armed⟩)))
          · exact .inr (.inr (.inr (.inr (.inr (.inr ⟨rfl, .inl dying⟩)))))
        · exact .inr (.inr (.inr (.inr (.inr (.inr ⟨rfl, .inr process⟩))))) }
  | sleep =>
    obtain ⟨runs, stepped⟩ := Option.ite_none_right_eq_some.1 stepped
    obtain ⟨calm, user⟩ := inv.suspends (fun same => by cases retires same) runs
    cases stepped
    exact { inv with
      clean := clean_setTimers inv.clean (inv.clean .sleep).addTimer
      block := calm.block
      user := fun _ => ⟨user, calm.owned⟩
      awake := fun _ => rfl
      blocking := fun _ => armed_addTimer
      freed := fun pooled => by cases calm.owned.symm.trans pooled
      timed := fun kind limits => (inv.timed kind limits).imp_left armed_addTimer_of
      attended := .inr (.inr (.inr (.inl ⟨.sleep, armed_addTimer⟩))) }
  | third half =>
    obtain ⟨runs, stepped⟩ := Option.ite_none_right_eq_some.1 stepped
    obtain ⟨runs, _⟩ := Bool.and_eq_true_iff.1 runs
    obtain ⟨calm, user⟩ := inv.suspends (fun same => by cases retires same) runs
    cases stepped
    have block : ∀ other, (connection.setBlock half .addTimer).blockTimers other =
        if UserWait.third half = .third other then ⟨true, 1⟩ else {} := fun other => by
      have none := calm.block other
      by_cases same : other = half
      · subst same
        simp [setBlock, none, EventTimer.addTimer]
      · have differs : ¬ half = other := fun back => same back.symm
        simp [setBlock, same, none, differs]
    exact { inv with
      block
      user := fun _ => ⟨user, calm.owned⟩
      awake := fun sleeps => by cases calm.awake.symm.trans sleeps
      attended := .inr (.inr (.inr (.inr (.inl ⟨half, by simp [setBlock]⟩)))) }
  | addUpstream =>
    obtain ⟨⟨runs, owned⟩, stepped⟩ := Option.ite_none_right_eq_some.1 stepped
    cases stepped
    simp only [userRuns, Bool.and_eq_true, decide_eq_true_eq] at runs
    have kept : connection.point.Retry = false := by
      refine Bool.eq_false_iff.2 fun retry => ?_
      cases owned.symm.trans (inv.retried retry)
    exact { inv with
      quiet := fun quiet => by
        cases point : connection.point <;> simp_all [ChainPoint.User, ChainPoint.Quiet, ChainPoint.Retry]
      attended := .inr (.inl (by simp [running, runs])) }
  | returns ret calls =>
    obtain ⟨runs, stepped⟩ := Option.ite_none_right_eq_some.1 stepped
    cases stepped
    exact inv.userReturns runs
  | subRequestEnds =>
    obtain ⟨some, stepped⟩ := Option.ite_none_right_eq_some.1 stepped
    cases stepped
    have attended := inv.attended
    exact { inv with
      quiet := fun quiet => by simp [inv.quiet quiet]
      attended := by
        obtain pooled | runs | queued | armed | block | ⟨dying, _⟩ | yields := attended
        · exact .inl pooled
        · exact .inr (.inl runs)
        · exact .inr (.inr (.inl (by simp [queued])))
        · exact .inr (.inr (.inr (.inl armed)))
        · exact .inr (.inr (.inr (.inr (.inl block))))
        · -- the last one wakes the request
          by_cases last : connection.subRequests = 1
          · exact .inr (.inr (.inl (by simp [last])))
          · exact .inr (.inr (.inr (.inr (.inr (.inl ⟨dying, by show 0 < connection.subRequests - 1; omega⟩)))))
        · exact .inr (.inr (.inr (.inr (.inr (.inr yields))))) }
  | retryUpstream retried =>
    obtain ⟨point, stepped⟩ := Option.ite_none_right_eq_some.1 stepped
    have retry : connection.point.Retry = true := by rw [point]; rfl
    have executing := inv.executing (by rw [point]; rfl)
    cases retried with
    | none =>
      cases stepped
      exact inv.leaves retry executing (by split <;> simp)
    | other =>
      cases stepped
      exact inv.leaves retry executing (.inl rfl)
    | same =>
      cases stepped
      exact (inv.leaves retry executing (.inl rfl)).handed rfl (by decide) connection.userDestroy

end TimedInv

/-- A connection of the pool. -/
theorem TimedInv.init : TimedInv {} where
  clean _ := rfl
  block _ := by simp
  user suspended := absurd rfl suspended
  awake sleeps := by cases sleeps
  blocking blocks := by cases blocks
  owned away := absurd rfl away
  freed _ _ := rfl
  retried retry := by cases retry
  quiet _ := rfl
  timed _ limits := by cases limits
  attended := .inl rfl

theorem run_inv {events : List TimedEvent} {final : TimedConnection}
    (along : Lib.Along step Retires {} events) (ran : events.foldlM step {} = some final) : TimedInv final :=
  Lib.run_keeps_along step Retires TimedInv (fun _ _ _ inv retires stepped => inv.step retires stepped)
    .init along ran

end TimedConnection

open TimedConnection

/-- The entries of `m_timers` that refer to a connection are those of the timers that are set,
    in every life, and a connection of the pool has none. -/
theorem timers_accounted {events : List TimedEvent} {final : TimedConnection}
    (along : Lib.Along step Retires {} events) (ran : events.foldlM step {} = some final) :
    (∀ kind, (final.timers kind).entries = if final.armed kind then 1 else 0) ∧
    (∀ half, (final.blockTimers half).entries = if final.wait = .third half then 1 else 0) ∧
    (final.owner = .pool → ∀ kind, (final.timers kind).entries = 0) := by
  have inv := run_inv along ran
  refine ⟨inv.clean, fun half => ?_, fun pooled kind => ?_⟩
  · rw [inv.block half]
    split <;> rfl
  · have none := (inv.clean kind).unset (inv.freed pooled kind)
    rw [none]

/-- A client's request waits for a third-party socket until that times out, and then for the client,
    who does not read. -/
def thirdThenWrite : List TimedEvent :=
  [.accept false, .popDelay {}, .dispatch false { read := some coOk }, .third .read, .expireBlock .read {},
    .returns coOk {}]

/-- During the wait two timers are set. -/
theorem timers_accounted_third : ∃ final, (thirdThenWrite.take 4).foldlM step {} = some final ∧
    (final.timers .read).entries = 1 ∧ (final.timers .write).entries = 0 ∧
    (final.blockTimers .read).entries = 1 := by
  have ran : ((thirdThenWrite.take 4).foldlM step {}).map (fun final =>
      (final.wait, final.armed .read, final.armed .write)) = some (.third .read, true, false) := by decide
  obtain ⟨final, ran, seen⟩ := Option.map_eq_some_iff.1 ran
  simp only [Prod.mk.injEq] at seen
  obtain ⟨wait, read, write⟩ := seen
  have along : Lib.Along step Retires {} (thirdThenWrite.take 4) := by decide
  obtain ⟨timers, block, -⟩ := timers_accounted along ran
  exact ⟨final, ran, by rw [timers, read]; rfl, by rw [timers, write]; rfl, by rw [block, wait]; rfl⟩

/-- A read or a write of a handler is limited by its timer until the connection is dying, and
    whatever a connection waits for, something is pending that brings it on. -/
theorem waits_attended {events : List TimedEvent} {final : TimedConnection}
    (along : Lib.Along step Retires {} events) (ran : events.foldlM step {} = some final) :
    (∀ kind, final.point.timer = some kind → final.armed kind = true ∨ final.flagDying = true) ∧
      final.Attended := by
  have inv := run_inv along ran
  exact ⟨inv.timed, inv.attended⟩

/-- The response waits for the client under the timer of the write. -/
theorem waits_attended_write : ∃ final, thirdThenWrite.foldlM step {} = some final ∧
    final.point = .requestWrite coOk ∧ final.armed .write = true ∧ final.Attended := by
  have ran : (thirdThenWrite.foldlM step {}).map (fun final => (final.point, final.flagDying)) =
      some (.requestWrite coOk, false) := by decide
  obtain ⟨final, ran, seen⟩ := Option.map_eq_some_iff.1 ran
  simp only [Prod.mk.injEq] at seen
  obtain ⟨point, alive⟩ := seen
  have along : Lib.Along step Retires {} thirdThenWrite := by decide
  obtain ⟨timed, attended⟩ := waits_attended along ran
  have armed := (timed .write (by rw [point]; rfl)).resolve_right (by simp [alive])
  exact ⟨final, ran, point, armed, attended⟩

end CoServer
