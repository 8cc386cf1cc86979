import CoServer.Upstream.RequestSteps

/-! # The hooked `sleep`

A flag on the connection tells exceptions to leave a coroutine alone that sleeps
in a function of somebody else.  Entries of the queues are for a life of the
connection, and know nothing of the flag. -/

namespace CoServer

open CoCycle RequestRun

namespace RequestRun

/-- Whatever slept was resumed by its timer. -/
def SleptOut (run : RequestRun) : Prop :=
  ∀ wake ∈ run.wakes, wake.1 = .sleep → wake.2 = .timer .sleep

/-- While the coroutine sleeps, no entry for the connection is popped unless an exception is
    pending, and when the timer expires there is no exception that waits for sub-requests. -/
def Unwoken (run : RequestRun) (event : RequestEvent) : Prop :=
  run.place = .suspended .sleep → (Popped run event → run.troubled = true) ∧
    (Expires event → run.broken = true → (run.cycle.requests run.request).upstreamRequests = [])

instance (run : RequestRun) (event : RequestEvent) : Decidable (Unwoken run event) :=
  inferInstanceAs (Decidable (_ → _ ∧ _))

/-- Who sleeps has set the flag. -/
def Asleep (run : RequestRun) : Prop := run.place = .suspended .sleep → run.blocking = true

end RequestRun

section
variable {conf : Nat → CoConfUpstreamLimits} {run next : RequestRun}

theorem RequestRun.SleptOut.keep (slept : SleptOut run) (wakes : next.wakes = run.wakes) :
    SleptOut next := by
  unfold SleptOut
  rw [wakes]
  exact slept

/-- One step: the flag is there while the coroutine sleeps, and only the timer takes it away. -/
theorem RequestInv.sleep_step (inv : RequestInv conf run) (asleep : Asleep run) (slept : SleptOut run)
    {event : RequestEvent} (unwoken : Unwoken run event) (stepped : run.step event = some next) :
    Asleep next ∧ SleptOut next := by
  by_cases final : run.place = .finalized
  · obtain ⟨connection, version, rfl⟩ := step_alive stepped final
    cases stepped
    exact ⟨asleep, slept⟩
  have accounts := inv.accounts final
  cases event with
  | addUpstream upstream get protocol timestamp =>
    obtain ⟨⟨handler, allowed⟩, stepped⟩ := Option.ite_none_right_eq_some.1 stepped
    cases stepped
    have outcome := accounts.addUpstream_cases allowed protocol timestamp
    obtain ⟨place, -⟩ := outcome.spared
    refine ⟨fun sleeps => ?_, slept.keep outcome.wakes⟩
    cases (place.trans handler).symm.trans sleeps
  | runUpstreams =>
    obtain ⟨handler, stepped⟩ := Option.ite_none_right_eq_some.1 stepped
    split at stepped <;> cases stepped
    · exact ⟨asleep, slept⟩
    · exact ⟨nofun, slept⟩
  | wait wait =>
    obtain ⟨-, stepped⟩ := Option.ite_none_right_eq_some.1 stepped
    cases stepped
    refine ⟨fun sleeps => ?_, slept⟩
    cases Place.suspended.inj sleeps
    exact congrArg CoConnection.flagThirdFuncBlocking (modifyObject_same run.cycle run.connection
      fun object => { object.setTimer .sleep true with flagThirdFuncBlocking := true })
  | respond =>
    obtain ⟨-, stepped⟩ := Option.ite_none_right_eq_some.1 stepped
    cases stepped
    exact ⟨nofun, slept⟩
  | writeBlocked =>
    obtain ⟨-, stepped⟩ := Option.ite_none_right_eq_some.1 stepped
    cases stepped
    exact ⟨nofun, slept⟩
  | finalize retCode =>
    obtain ⟨-, thread, rfl, -⟩ := step_finalize stepped
    exact ⟨nofun, slept⟩
  | endAttempt upstreamRequest retCode timestamp get =>
    obtain ⟨connection, attempt, outcome⟩ := accounts.endAttempt_cases stepped
    obtain ⟨place, same, spared⟩ := outcome.spared attempt
    refine ⟨fun sleeps => ?_, slept.keep outcome.wakes⟩
    have before := asleep (place.symm.trans sleeps)
    unfold RequestRun.blocking
    rw [same]
    exact spared.same.blocking.trans before
  | popDelay | popResume | popSingle | resumeAsync | peerClosed | writable | timer | blockConnection
  | others | otherRequests | otherPush =>
    cases accounts.turn stepped trivial with
    | stays stays =>
      refine ⟨fun sleeps => ?_, slept.keep stays.wakes⟩
      rw [stays.place] at sleeps
      refine (stays.stillBlocking (asleep sleeps)).resolve_right ?_
      rintro ⟨expires, broken, upstreamRequests⟩
      exact upstreamRequests ((unwoken sleeps).2 expires broken)
    | resumed wait waker woken =>
      refine ⟨fun sleeps => ?_, fun wake mem slept' => ?_⟩
      · rw [woken.place] at sleeps
        split at sleeps <;> cases sleeps
      · rw [woken.wakes] at mem
        obtain old | isNew := List.mem_append.1 mem
        · exact slept wake old slept'
        · cases List.mem_singleton.1 isNew
          have sleeps := woken.suspended
          rw [show wait = .sleep from slept'] at sleeps
          refine (woken.cause slept' (asleep sleeps)).resolve_right ?_
          rintro ⟨untroubled, popped⟩
          cases untroubled.symm.trans ((unwoken sleeps).1 popped)

end

/-! ## Every run -/

section
variable {conf : Nat → CoConfUpstreamLimits} {thread : UpstreamRun} {connection : Nat}

/-- In every run in which no entry for the sleeping connection is popped without an exception,
    and no sleep is over while an exception waits for sub-requests, only the sleep timer
    resumes who sleeps: neither the peer nor another timer nor another connection does. -/
theorem slept_out (begins : Begins conf thread connection) {events : List RequestEvent}
    {final : RequestRun}
    (unwoken : Lib.Along RequestRun.step Unwoken (.begin thread connection) events)
    (ran : events.foldlM RequestRun.step (.begin thread connection) = some final) :
    SleptOut final := by
  obtain ⟨-, -, slept⟩ := Lib.run_keeps_along RequestRun.step Unwoken
    (fun run => RequestInv conf run ∧ Asleep run ∧ SleptOut run)
    (fun _ _ _ ⟨inv, asleep, slept⟩ unwoken stepped =>
      ⟨inv.step stepped, inv.sleep_step asleep slept unwoken stepped⟩)
    ⟨begins.requestInv, nofun, nofun⟩ unwoken ran
  exact slept

end

/-- The peer closes and the time of the request is over while the handler sleeps. -/
def closedAsleep : List RequestEvent := [
  .addUpstream (some 0) ⟨some 0, { socket := 6 }, 1, 1⟩ true 1,
  .wait .sleep,
  .popDelay 2,
  .timer .sleep 3,
  .runUpstreams,
  .endAttempt 1 coOk 4 ⟨none, { socket := -1 }, 4, 4⟩,
  .popDelay 5,
  .wait .sleep,
  .peerClosed 6,
  .timer .read 7,
  .resumeAsync 0 0,
  .popResume 8,
  .timer .sleep 9]

theorem slept_out_closed : ∃ final,
    closedAsleep.foldlM RequestRun.step (.begin oneClient 0) = some final ∧
    final.wakes = [(.sleep, .timer .sleep), (.runUpstreams, .delayQueue), (.sleep, .timer .sleep)] ∧
    SleptOut final := by
  have defined : (closedAsleep.foldlM RequestRun.step (.begin oneClient 0)).map (fun final =>
      final.wakes) = some [(.sleep, .timer .sleep), (.runUpstreams, .delayQueue),
        (.sleep, .timer .sleep)] := by
    decide +kernel
  have unwoken : Lib.Along RequestRun.step Unwoken (.begin oneClient 0) closedAsleep := by
    decide +kernel
  obtain ⟨final, ran, wakes⟩ := Option.map_eq_some_iff.1 defined
  exact ⟨final, ran, wakes, slept_out oneClient_begins unwoken ran⟩

/-- The sub-request that was added before is finished while the handler sleeps. -/
def finishedAsleep : List RequestEvent := [
  .addUpstream (some 0) ⟨some 0, { socket := 6 }, 1, 1⟩ true 1,
  .wait .sleep,
  .popDelay 2,
  .endAttempt 1 coOk 3 ⟨none, { socket := -1 }, 3, 3⟩,
  .popDelay 4]

theorem sleep_cut_short : ¬ ∀ conf thread connection, Begins conf thread connection →
    ∀ (events : List RequestEvent) (final : RequestRun),
      events.foldlM RequestRun.step (.begin thread connection) = some final → SleptOut final := by
  intro sleptOut
  have defined : (finishedAsleep.foldlM RequestRun.step (.begin oneClient 0)).map (fun final =>
      final.wakes) = some [(.sleep, .delayQueue)] := by
    decide +kernel
  obtain ⟨final, ran, wakes⟩ := Option.map_eq_some_iff.1 defined
  have slept := sleptOut _ _ _ oneClient_begins finishedAsleep final ran
  cases slept (.sleep, .delayQueue) (wakes ▸ List.mem_cons_self) rfl

end CoServer
