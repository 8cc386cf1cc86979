import CoServer.Base.Common

/-! # `CoDispatcher::process_events_and_timers`

One call waits in epoll and then works until there is nothing left to do, in
rounds: the delay queue, the two queues that other threads fill, the timers.
A round that dispatched something is followed by another one; that is what
`needContinue` is for.  It is set through a closure of static storage duration,
which holds the address that the variable had in the first call of the process.

Handlers, timers, the clock and the other threads are arbitrary functions on a
world that the loop does not look into. -/

namespace CoServer

/-- A connection and the version it was queued under. -/
abbrev Waiting := Nat × Nat

/-- What is pushed to the queues of a dispatcher. -/
structure Pushed where
  delayConnections : List Waiting := []
  waitResumes : List Waiting := []
  waitSingles : List Waiting := []

/-- What the other threads do while this one is between two statements: they push to the two
    queues, and they may dispatch through the closure themselves. -/
structure Meanwhile where
  waitResumes : List Waiting := []
  waitSingles : List Waiting := []
  writesFlag : Bool := false

/-- What the loop calls. -/
structure LoopCalls (World : Type) where
  meanwhile : World → World × Meanwhile
  currentTimeMs : World → Nat
  findTimer : World → Nat
  processEvents : World → Nat → World × Pushed
  processTimer : World → World × Pushed
  version : World → Nat → Nat
  findBlockMutex : World → Nat → Bool
  funcDispatcher : World → Nat → World × Pushed

/-- A handler that was dispatched from the queue of the given type, and what it pushed to the
    delay queue. -/
structure Dispatched where
  type : Nat
  connection : Nat
  pushed : List Waiting
deriving DecidableEq

/-- A dispatcher within a call; `dispatched` are the handlers of the round. -/
structure EventLoop (World : Type) where
  world : World
  delayConnections : List Waiting := []
  waitResumes : List Waiting := []
  waitSingles : List Waiting := []
  needContinue : Bool := false
  processEventsTime : Nat := 0
  timerTime : Nat := 0
  dispatched : List Dispatched := []

namespace EventLoop

variable {World : Type}

/-! ## The call -/

section
variable (calls : LoopCalls World) (own : Bool)

def push (self : EventLoop World) (world : World) (pushed : Pushed) : EventLoop World :=
  { self with
    world
    delayConnections := self.delayConnections ++ pushed.delayConnections
    waitResumes := self.waitResumes ++ pushed.waitResumes
    waitSingles := self.waitSingles ++ pushed.waitSingles }

/-- The other threads have gone on; `own` says whether the closure holds the address of the
    variable of this call. -/
def others (self : EventLoop World) : EventLoop World :=
  let (world, meanwhile) := calls.meanwhile self.world
  { self with
    world
    waitResumes := self.waitResumes ++ meanwhile.waitResumes
    waitSingles := self.waitSingles ++ meanwhile.waitSingles
    needContinue := self.needContinue || own && meanwhile.writesFlag }

/-- `GET_CURRENTTIME_MS` -/
def getCurrenttimeMs (self : EventLoop World) : Nat × EventLoop World :=
  let self := self.others calls own
  (calls.currentTimeMs self.world, self)

/-- The static closure. -/
def funcResumeProcess (type : Nat) (coroutineData : Waiting) (self : EventLoop World) : EventLoop World :=
  if calls.version self.world coroutineData.1 ≠ coroutineData.2 then self
  else
    let self := { self with needContinue := own || self.needContinue }
    let (world, pushed) := calls.funcDispatcher self.world coroutineData.1
    { self.push world pushed with
      dispatched := self.dispatched ++ [⟨type, coroutineData.1, pushed.delayConnections⟩] }

/-- `while (!m_delayConnections.empty())` -/
def delayLoop : Nat → EventLoop World → Option (EventLoop World)
  | 0, _ => none
  | fuel + 1, self =>
    match self.delayConnections with
    | [] => some self
    | waitConnection :: delayConnections =>
      delayLoop fuel (funcResumeProcess calls own 0 waitConnection { self with delayConnections })

/-- `while (!m_waitResumes.empty())` -/
def resumeLoop : Nat → EventLoop World → Option (EventLoop World)
  | 0, _ => none
  | fuel + 1, self =>
    let self := self.others calls own
    match self.waitResumes with
    | [] => some self
    | coroutineData :: waitResumes =>
      resumeLoop fuel (funcResumeProcess calls own 1 coroutineData { self with waitResumes })

/-- `while (!m_waitSingles.empty())` -/
def singleLoop : Nat → EventLoop World → Option (EventLoop World)
  | 0, _ => none
  | fuel + 1, self =>
    let self := self.others calls own
    match self.waitSingles with
    | [] => some self
    | coroutineData :: waitSingles =>
      let self := { self with waitSingles }
      if !calls.findBlockMutex self.world coroutineData.1 then singleLoop fuel self
      else singleLoop fuel (funcResumeProcess calls own 2 coroutineData self)

/-- The end of a round, with the times that the three loops took. -/
def timers (processDelayEventsTime processResumeTime processSingleResumeTime : Nat)
    (self : EventLoop World) : EventLoop World :=
  if self.timerTime = 0 ∨ self.processEventsTime > 0 ∨ processDelayEventsTime > 0 ∨
      processResumeTime > 0 ∨ processSingleResumeTime > 0 then
    let (world, pushed) := calls.processTimer self.world
    let self := { self.push world pushed with needContinue := true, processEventsTime := 0 }
    { self with timerTime := calls.findTimer self.world }
  else self

/-- The body of the `do`. -/
def round (fuel : Nat) (self : EventLoop World) : Option (EventLoop World) :=
  let self := { self with needContinue := false, dispatched := [] }
  let (delayBegin, self) := self.getCurrenttimeMs calls own
  (delayLoop calls own fuel self).bind fun self =>
    let (delayEnd, self) := self.getCurrenttimeMs calls own
    let (resumeBegin, self) := self.getCurrenttimeMs calls own
    (resumeLoop calls own fuel self).bind fun self =>
      let (resumeEnd, self) := self.getCurrenttimeMs calls own
      let (singleBegin, self) := self.getCurrenttimeMs calls own
      (singleLoop calls own fuel self).map fun self =>
        let (singleEnd, self) := self.getCurrenttimeMs calls own
        self.timers calls (sizeSub delayEnd delayBegin) (sizeSub resumeEnd resumeBegin)
          (sizeSub singleEnd singleBegin)

/-- `do` .. `while (needContinue)` -/
def rounds (fuel : Nat) : Nat → EventLoop World → Option (EventLoop World)
  | 0, _ => none
  | turns + 1, self =>
    (self.round calls own fuel).bind fun self => if self.needContinue then rounds fuel turns self else some self

end

/-- `closure` is the address that the closure holds, if there is a closure yet, and `address`
    that of this call's `needContinue`. -/
def processEventsAndTimers (calls : LoopCalls World) (fuel : Nat) (address : Nat) (closure : Option Nat)
    (self : EventLoop World) : Option (Nat × EventLoop World) :=
  let captured := closure.getD address
  let own := captured == address
  let self := { self with timerTime := calls.findTimer self.world }
  let (eventsBegin, self) := self.getCurrenttimeMs calls own
  let (world, pushed) := calls.processEvents self.world self.timerTime
  let self := self.push world pushed
  let (eventsEnd, self) := self.getCurrenttimeMs calls own
  let self := { self with processEventsTime := sizeSub eventsEnd eventsBegin }
  (self.rounds calls own fuel fuel).map fun self => (captured, self)

/-! ## What a round leaves in the delay queue -/

/-- Behind the delay queue: what is in it was pushed by the handlers that the other queues
    resumed, and a handler that was dispatched has set the flag, where it can. -/
structure Behind (own : Bool) (loop : EventLoop World) : Prop where
  queued : loop.delayConnections =
    (loop.dispatched.filter fun handler => handler.type ≠ 0).flatMap Dispatched.pushed
  flagged : own = true → loop.needContinue = false → loop.dispatched = []

section
variable {calls : LoopCalls World} {own : Bool} {self final : EventLoop World}

theorem Behind.waitResumes (behind : Behind own self) (waitResumes : List Waiting) :
    Behind own { self with waitResumes } :=
  ⟨behind.queued, behind.flagged⟩

theorem Behind.waitSingles (behind : Behind own self) (waitSingles : List Waiting) :
    Behind own { self with waitSingles } :=
  ⟨behind.queued, behind.flagged⟩

theorem others_behind (behind : Behind own self) : Behind own (self.others calls own) where
  queued := behind.queued
  flagged mine quiet := behind.flagged mine (Bool.or_eq_false_iff.1 quiet).1

theorem getCurrenttimeMs_behind (behind : Behind own self) :
    Behind own (self.getCurrenttimeMs calls own).2 :=
  others_behind behind

theorem funcResumeProcess_behind {type : Nat} {coroutineData : Waiting} (resumed : type ≠ 0)
    (behind : Behind own self) : Behind own (self.funcResumeProcess calls own type coroutineData) := by
  unfold funcResumeProcess
  split
  · exact behind
  · constructor
    · simp [push, behind.queued, resumed]
    · intro mine quiet
      simp [push, mine] at quiet

theorem resumeLoop_behind {fuel : Nat} (behind : Behind own self)
    (ran : self.resumeLoop calls own fuel = some final) : Behind own final := by
  induction fuel generalizing self with
  | zero => cases ran
  | succ fuel ih =>
    have next : Behind own (self.others calls own) := others_behind behind
    simp only [resumeLoop] at ran
    split at ran
    · cases ran
      exact next
    · exact ih (funcResumeProcess_behind Nat.one_ne_zero (next.waitResumes _)) ran

theorem singleLoop_behind {fuel : Nat} (behind : Behind own self)
    (ran : self.singleLoop calls own fuel = some final) : Behind own final := by
  induction fuel generalizing self with
  | zero => cases ran
  | succ fuel ih =>
    have next : Behind own (self.others calls own) := others_behind behind
    simp only [singleLoop] at ran
    split at ran
    · cases ran
      exact next
    · split at ran
      · exact ih (next.waitSingles _) ran
      · exact ih (funcResumeProcess_behind (show 2 ≠ 0 by simp) (next.waitSingles _)) ran

/-- The delay queue itself: only handlers of type 0 are dispatched. -/
structure Draining (own : Bool) (loop : EventLoop World) : Prop where
  delayed : ∀ handler ∈ loop.dispatched, handler.type = 0
  flagged : own = true → loop.needContinue = false → loop.dispatched = []

theorem funcResumeProcess_draining {coroutineData : Waiting} (draining : Draining own self) :
    Draining own (self.funcResumeProcess calls own 0 coroutineData) := by
  unfold funcResumeProcess
  split
  · exact draining
  · constructor
    · intro handler mem
      simp only [List.mem_append, List.mem_singleton] at mem
      cases mem with
      | inl old => exact draining.delayed handler old
      | inr new => simp [new]
    · intro mine quiet
      simp [push, mine] at quiet

/-- The loop ends with an empty queue. -/
theorem delayLoop_behind {fuel : Nat} (draining : Draining own self)
    (ran : self.delayLoop calls own fuel = some final) : Behind own final := by
  induction fuel generalizing self with
  | zero => cases ran
  | succ fuel ih =>
    simp only [delayLoop] at ran
    split at ran
    · rename_i empty
      cases ran
      refine ⟨?_, draining.flagged⟩
      have resumed : final.dispatched.filter (fun handler => handler.type ≠ 0) = [] := by
        simpa using draining.delayed
      rw [resumed, empty]
      rfl
    · rename_i delayConnections _
      have popped : Draining own { self with delayConnections } := ⟨draining.delayed, draining.flagged⟩
      exact ih (funcResumeProcess_draining popped) ran

/-- A round after which the loop ends has not looked at the timers. -/
theorem round_behind {fuel : Nat} (ran : self.round calls own fuel = some final)
    (ends : final.needContinue = false) : Behind own final := by
  simp only [round] at ran
  obtain ⟨drained, delay, ran⟩ := Option.bind_eq_some_iff.1 ran
  obtain ⟨resumed, resume, ran⟩ := Option.bind_eq_some_iff.1 ran
  obtain ⟨single, singles, ran⟩ := Option.map_eq_some_iff.1 ran
  have start : Draining own
      (({ self with needContinue := false, dispatched := [] } : EventLoop World).others calls own) :=
    ⟨by simp [others], by simp [others]⟩
  have first := delayLoop_behind start delay
  have second := resumeLoop_behind (getCurrenttimeMs_behind (getCurrenttimeMs_behind first)) resume
  have third := singleLoop_behind (getCurrenttimeMs_behind (getCurrenttimeMs_behind second)) singles
  have last : Behind own (single.getCurrenttimeMs calls own).2 := getCurrenttimeMs_behind third
  unfold timers at ran
  split at ran
  · cases ran
    cases ends
  · cases ran
    exact last

theorem rounds_behind {fuel turns : Nat} (ran : self.rounds calls own fuel turns = some final) :
    Behind own final := by
  induction turns generalizing self with
  | zero => cases ran
  | succ turns ih =>
    simp only [rounds] at ran
    obtain ⟨middle, first, rest⟩ := Option.bind_eq_some_iff.1 ran
    split at rest
    · exact ih rest
    · rename_i ends
      cases rest
      exact round_behind first ((Bool.not_eq_true _).mp ends)

theorem rounds_ends {fuel turns : Nat} (ran : self.rounds calls own fuel turns = some final) :
    final.needContinue = false := by
  induction turns generalizing self with
  | zero => cases ran
  | succ turns ih =>
    simp only [rounds] at ran
    obtain ⟨middle, first, rest⟩ := Option.bind_eq_some_iff.1 ran
    split at rest
    · exact ih rest
    · rename_i ends
      cases rest
      exact (Bool.not_eq_true _).mp ends

/-- Whatever handlers, timers and other threads do: a call returns with an empty delay queue if
    and only if the closure holds the address of its own flag, as in the first call of the
    process, or no handler that was resumed in the round in which it ended pushed anything. -/
theorem returns_drained_iff {fuel address captured : Nat} {closure : Option Nat}
    (returned : self.processEventsAndTimers calls fuel address closure = some (captured, final)) :
    final.delayConnections = [] ↔
      (closure = none ∨ closure = some address) ∨
      ∀ handler ∈ final.dispatched, handler.type ≠ 0 → handler.pushed = [] := by
  simp only [processEventsAndTimers] at returned
  obtain ⟨last, ran, same⟩ := Option.map_eq_some_iff.1 returned
  obtain ⟨rfl, rfl⟩ := Prod.mk.inj same
  have behind := rounds_behind ran
  have ends := rounds_ends ran
  constructor
  · intro empty
    right
    intro handler mem resumed
    rw [behind.queued, List.flatMap_eq_nil_iff] at empty
    exact empty handler (List.mem_filter.2 ⟨mem, by simpa using resumed⟩)
  · intro holds
    rw [behind.queued]
    cases holds with
    | inl mine =>
      have own : (closure.getD address == address) = true := by
        cases mine with
        | inl first => simp [first]
        | inr later => simp [later]
      rw [behind.flagged own ends]
      rfl
    | inr quiet =>
      apply List.flatMap_eq_nil_iff.2
      intro handler mem
      obtain ⟨mem, resumed⟩ := List.mem_filter.1 mem
      exact quiet handler mem (by simpa using resumed)

end

/-- Connection 7 waits to be resumed; its handler adds the request of connection 8.  No
    millisecond goes by and no timer is due. -/
def resumePushes : LoopCalls Unit where
  meanwhile world := (world, {})
  currentTimeMs _ := 1000
  findTimer _ := 50
  processEvents world _ := (world, {})
  processTimer world := (world, {})
  version _ _ := 0
  findBlockMutex _ _ := false
  funcDispatcher world connection :=
    (world, if connection = 7 then { delayConnections := [(8, 0)] } else {})

/-- In the first call of the process the pushed connection is dispatched. -/
theorem returns_drained_first : ∃ final,
    ({ world := (), waitResumes := [(7, 0)] } : EventLoop Unit).processEventsAndTimers resumePushes 9 1 none =
      some (1, final) ∧ final.delayConnections = [] := by
  refine ⟨_, rfl, ?_⟩
  apply (@returns_drained_iff Unit resumePushes { world := (), waitResumes := [(7, 0)] } _ 9 1 1 none rfl).2
  exact .inl (.inl rfl)

/-- On another thread it stays behind. -/
theorem pushed_left_behind : ¬∀ (calls : LoopCalls Unit) (fuel address captured : Nat)
    (closure : Option Nat) (self final : EventLoop Unit),
    self.processEventsAndTimers calls fuel address closure = some (captured, final) →
    final.delayConnections = [] := by
  intro drained
  have left := drained resumePushes 9 2 1 (some 1) { world := (), waitResumes := [(7, 0)] } _ rfl
  cases left

end EventLoop

end CoServer
