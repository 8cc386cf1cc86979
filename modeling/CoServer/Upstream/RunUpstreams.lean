import CoServer.Upstream.RequestSteps

/-! # `run_upstreams`

A handler that waits for its sub-requests is woken by one entry of the queue of
delayed connections, which the last sub-request leaves there. -/

namespace CoServer

open CoCycle RequestRun

namespace RequestRun

/-- The coroutine waits for sub-requests, none of them is left, and nothing will wake it. -/
structure Stranded (run : RequestRun) : Prop where
  waits : run.place = .suspended .runUpstreams
  upstreamRequests : (run.cycle.requests run.request).upstreamRequests = []
  count : (run.cycle.requests run.request).count = 1
  unqueued : ¬ run.Queued

/-- Who waits for sub-requests has an unfinished one, or is about to be woken. -/
def Awaited (run : RequestRun) : Prop :=
  run.place = .suspended .runUpstreams → run.unfinished ≠ [] ∨ run.Queued

/-- `run_upstreams` is called while a sub-request is unfinished or the entry of the last one
    is still in the queue. -/
def CallInTime (run : RequestRun) : RequestEvent → Prop
  | .runUpstreams => (run.cycle.requests run.request).upstreamInfos ≠ 0 →
      (run.cycle.requests run.request).count ≠ 1 ∨ run.Queued
  | _ => True

instance (run : RequestRun) (event : RequestEvent) : Decidable (CallInTime run event) := by
  unfold CallInTime
  split <;> infer_instance

/-- Only the functions that set the flag of a blocking function are suspended with it. -/
def Guarded (run : RequestRun) : Prop :=
  run.blocking = true → run.place = .suspended .sleep ∨ run.place = .suspended .mutex ∨
    run.place = .finalized

end RequestRun

section
variable {conf : Nat → CoConfUpstreamLimits} {run next : RequestRun}

theorem RequestInv.count_iff (inv : RequestInv conf run) :
    (run.cycle.requests run.request).count = 1 ↔ run.unfinished = [] := by
  rw [inv.ledger.count, ← List.length_eq_zero_iff]
  omega

theorem RequestInv.awaited_iff (inv : RequestInv conf run) : ¬ Stranded run ↔ Awaited run := by
  have counted := inv.count_iff
  constructor
  · intro free waits
    by_contra alone
    rw [not_or, not_ne_iff] at alone
    obtain ⟨none, unqueued⟩ := alone
    exact free ⟨waits, inv.no_upstreamRequests none, counted.2 none, unqueued⟩
  · rintro awaited ⟨waits, -, count, unqueued⟩
    obtain unfinished | queued := awaited waits
    · exact unfinished (counted.1 count)
    · exact unqueued queued

/-! ## The flag of a blocking function -/

theorem enterWait_blocking (run : RequestRun) {wait : Wait}
    (blocking : (run.suspend wait).blocking = true) : run.blocking = true ∨ wait = .sleep ∨ wait = .mutex := by
  cases wait with
  | sleep => exact .inr (.inl rfl)
  | mutex => exact .inr (.inr rfl)
  | runUpstreams | yielded | writing => exact .inl blocking
  | thirdSocket =>
    have same := modifyObject_blocking run.cycle run.connection run.connection
      (fun object => object.useBlock true) rfl
    exact .inl (same.symm.trans blocking)

/-- Neither the handler nor the writing of the response runs with the flag. -/
theorem RequestRun.Guarded.unblocked (guarded : Guarded run)
    (place : run.place = .handler ∨ run.place = .responding) : run.blocking ≠ true := by
  intro blocking
  obtain sleep | mutex | final := guarded blocking <;> obtain handler | responding := place <;>
    simp_all

theorem RequestRun.Guarded.suspend (guarded : Guarded run)
    (place : run.place = .handler ∨ run.place = .responding) (wait : Wait) :
    Guarded (run.suspend wait) := by
  intro blocking
  obtain before | rfl | rfl := enterWait_blocking run blocking
  · exact absurd before (guarded.unblocked place)
  · exact .inl rfl
  · exact .inr (.inl rfl)

theorem RequestRun.Guarded.keep (guarded : Guarded run) (place : next.place = run.place)
    (blocking : next.blocking = true → run.blocking = true) : Guarded next := by
  intro after
  rw [place]
  exact guarded (blocking after)

theorem RequestRun.Guarded.spare (guarded : Guarded run) (place : next.place = run.place)
    (same : next.connection = run.connection) (spared : Spared run.thread next.thread run.connection) :
    Guarded next := by
  refine guarded.keep place fun blocking => ?_
  unfold RequestRun.blocking at blocking
  rw [same] at blocking
  exact spared.same.blocking.symm.trans blocking

theorem RequestRun.Guarded.step (guarded : Guarded run) (inv : RequestInv conf run)
    {event : RequestEvent} (stepped : run.step event = some next) : Guarded next := by
  by_cases final : run.place = .finalized
  · obtain ⟨connection, version, rfl⟩ := step_alive stepped final
    cases stepped
    exact guarded
  have accounts := inv.accounts final
  have attached := accounts.attached
  cases event with
  | addUpstream upstream get protocol timestamp =>
    obtain ⟨⟨-, allowed⟩, stepped⟩ := Option.ite_none_right_eq_some.1 stepped
    cases stepped
    obtain ⟨place, same, spared⟩ := (accounts.addUpstream_cases allowed protocol timestamp).spared
    exact guarded.spare place same spared
  | runUpstreams =>
    obtain ⟨handler, stepped⟩ := Option.ite_none_right_eq_some.1 stepped
    split at stepped <;> cases stepped
    · exact guarded
    · exact guarded.suspend (.inl handler) _
  | wait wait =>
    obtain ⟨⟨handler, -⟩, stepped⟩ := Option.ite_none_right_eq_some.1 stepped
    cases stepped
    exact guarded.suspend (.inl handler) wait
  | respond =>
    obtain ⟨handler, stepped⟩ := Option.ite_none_right_eq_some.1 stepped
    cases stepped
    have same := modifyObject_blocking run.cycle run.connection run.connection
      (fun object => (object.setTimer .read false).setTimer .write true) rfl
    exact fun blocking => absurd (same.symm.trans blocking) (guarded.unblocked (.inl handler))
  | writeBlocked =>
    obtain ⟨⟨responding, -⟩, stepped⟩ := Option.ite_none_right_eq_some.1 stepped
    cases stepped
    exact guarded.suspend (.inr responding) _
  | finalize retCode =>
    obtain ⟨-, thread, rfl, -⟩ := step_finalize stepped
    exact fun _ => .inr (.inr rfl)
  | endAttempt upstreamRequest retCode timestamp get =>
    obtain ⟨connection, attempt, outcome⟩ := accounts.endAttempt_cases stepped
    obtain ⟨place, same, spared⟩ := outcome.spared attempt
    exact guarded.spare place same spared
  | popDelay | popResume | popSingle | resumeAsync | peerClosed | writable | timer | blockConnection
  | others | otherRequests | otherPush =>
    cases accounts.turn stepped trivial with
    | stays stays => exact guarded.keep stays.place stays.blocking
    | resumed wait waker woken =>
      intro blocking
      obtain ⟨before, notSleep, notMutex⟩ := woken.blocking blocking
      obtain place | place | place := guarded before
      · cases place.symm.trans woken.suspended
        exact absurd rfl notSleep
      · cases place.symm.trans woken.suspended
        exact absurd rfl notMutex
      · exact absurd place final

/-! ## Steps -/

/-- The end of the last sub-request queues the entry that wakes the coroutine. -/
theorem Attempt.awaited {upstreamRequest connection : Nat}
    (attempt : Attempt conf run upstreamRequest connection)
    (outcome : AttemptOutcome conf run upstreamRequest connection next) :
    next.unfinished ≠ [] ∨ next.Queued := by
  obtain ⟨-, same, spared⟩ := outcome.spared attempt
  have nonempty : run.unfinished ≠ [] := List.ne_nil_of_mem attempt.unfinished
  cases outcome with
  | retried => exact .inl nonempty
  | removed thread inv left =>
    by_cases last : run.unfinished.length = 1
    · refine .inr ?_
      show (run.connection, (thread.cycle.objects run.connection).version) ∈
        thread.cycle.delayConnections
      rw [show (thread.cycle.objects run.connection).version = run.version from spared.same.version,
        left.delay, if_pos last]
      exact List.mem_append_right _ List.mem_cons_self
    · refine .inl (List.ne_nil_of_length_pos ?_)
      show 0 < (run.unfinished.erase upstreamRequest).length
      have erased := List.length_erase_of_mem attempt.unfinished
      have positive := List.length_pos_of_ne_nil nonempty
      omega

theorem RequestRun.Awaited.step (awaited : Awaited run) (inv : RequestInv conf run)
    (guarded : Guarded run) {event : RequestEvent} (met : CallInTime run event)
    (stepped : run.step event = some next) : Awaited next := by
  by_cases final : run.place = .finalized
  · obtain ⟨connection, version, rfl⟩ := step_alive stepped final
    cases stepped
    exact fun waits => nomatch final.symm.trans waits
  have accounts := inv.accounts final
  cases event with
  | addUpstream upstream get protocol timestamp =>
    obtain ⟨⟨handler, allowed⟩, stepped⟩ := Option.ite_none_right_eq_some.1 stepped
    cases stepped
    obtain ⟨place, -⟩ := (accounts.addUpstream_cases allowed protocol timestamp).spared
    exact fun waits => nomatch (place.trans handler).symm.trans waits
  | runUpstreams =>
    obtain ⟨handler, stepped⟩ := Option.ite_none_right_eq_some.1 stepped
    split at stepped <;> cases stepped
    · exact awaited
    · rename_i some
      exact fun _ => (met some).imp_left fun count none => count (inv.count_iff.2 none)
  | wait wait =>
    obtain ⟨⟨-, other, -⟩, stepped⟩ := Option.ite_none_right_eq_some.1 stepped
    cases stepped
    exact fun waits => absurd (Place.suspended.inj waits) other
  | respond =>
    obtain ⟨-, stepped⟩ := Option.ite_none_right_eq_some.1 stepped
    cases stepped
    exact nofun
  | writeBlocked =>
    obtain ⟨-, stepped⟩ := Option.ite_none_right_eq_some.1 stepped
    cases stepped
    exact nofun
  | finalize retCode =>
    obtain ⟨-, thread, rfl, -⟩ := step_finalize stepped
    exact nofun
  | endAttempt upstreamRequest retCode timestamp get =>
    obtain ⟨connection, attempt, outcome⟩ := accounts.endAttempt_cases stepped
    exact fun _ => attempt.awaited outcome
  | popDelay | popResume | popSingle | resumeAsync | peerClosed | writable | timer | blockConnection
  | others | otherRequests | otherPush =>
    cases accounts.turn stepped trivial with
    | stays stays =>
      intro waits
      rw [stays.place] at waits
      rw [stays.books.unfinished]
      obtain unfinished | queued := awaited waits
      · exact .inl unfinished
      · obtain queued | blocking | upstreamRequests := stays.queued queued
        · exact .inr queued
        · obtain place | place | place := guarded blocking <;> cases place.symm.trans waits
        · exact .inl fun none => upstreamRequests (inv.no_upstreamRequests none)
    | resumed wait waker woken =>
      intro waits
      rw [woken.place] at waits
      split at waits <;> cases waits

/-- A call of `run_upstreams` that does not strand the handler was made in time. -/
theorem RequestInv.callInTime (inv : RequestInv conf run) {event : RequestEvent}
    (stepped : run.step event = some next) (awaited : Awaited next) : CallInTime run event := by
  cases event with
  | runUpstreams =>
    intro some
    obtain ⟨-, stepped⟩ := Option.ite_none_right_eq_some.1 stepped
    rw [if_neg some] at stepped
    cases stepped
    obtain unfinished | queued := awaited rfl
    · exact .inl fun alone => unfinished (inv.count_iff.1 alone)
    · exact .inr queued
  | _ => trivial

end

/-! ## Every run -/

section
variable {conf : Nat → CoConfUpstreamLimits} {thread : UpstreamRun} {connection : Nat}

theorem Begins.guarded (begins : Begins conf thread connection) :
    Guarded (.begin thread connection) := by
  have only := init_requestsOnly thread connection
  intro blocking
  have bound := congrFun only.objects connection
  rw [bindRequest_same] at bound
  have same := modifyObject_blocking (RequestRun.init thread connection).cycle connection connection
    (fun object => object.setTimer .read true) rfl
  have before := congrArg CoConnection.flagThirdFuncBlocking bound
  cases (begins.unblocked.symm.trans before.symm).trans (same.symm.trans blocking)

/-- No state of a run has the handler waiting for a wake-up that is used up, if and only if
    `run_upstreams` is always called in time. -/
theorem not_stranded_iff (begins : Begins conf thread connection) {events : List RequestEvent}
    {final : RequestRun}
    (ran : events.foldlM RequestRun.step (.begin thread connection) = some final) :
    (∀ first run, first <+: events →
      first.foldlM RequestRun.step (.begin thread connection) = some run → ¬ Stranded run) ↔
      Lib.Along RequestRun.step CallInTime (.begin thread connection) events := by
  have start : RequestInv conf (.begin thread connection) ∧ Guarded (.begin thread connection) :=
    ⟨begins.requestInv, begins.guarded⟩
  have iff := @Lib.run_along_iff _ _ RequestRun.step CallInTime
    (fun run => RequestInv conf run ∧ Guarded run) Awaited
    (fun _ _ _ ⟨inv, guarded⟩ stepped => ⟨inv.step stepped, guarded.step inv stepped⟩)
    (fun _ _ _ ⟨inv, guarded⟩ awaited met stepped => awaited.step inv guarded met stepped)
    (fun _ _ _ ⟨inv, _⟩ _ stepped awaited => inv.callInTime stepped awaited) _ _ _ start nofun ran
  rw [← iff]
  refine forall_congr' fun first => forall_congr' fun run => forall_congr' fun _ =>
    forall_congr' fun reached => ?_
  exact (begins.requestInv.reached reached).awaited_iff

end

/-- Two rounds; in the second one the sub-request is finished before the handler waits, but
    its entry is still in the queue. -/
def twoRounds : List RequestEvent := [
  .addUpstream (some 0) ⟨some 0, { socket := 6 }, 1, 1⟩ true 1,
  .runUpstreams,
  .popDelay 2,
  .endAttempt 1 coOk 3 ⟨none, { socket := -1 }, 3, 3⟩,
  .popDelay 4,
  .addUpstream (some 0) ⟨some 0, { socket := -1 }, 5, 5⟩ true 5,
  .wait .yielded,
  .endAttempt 2 coError 6 ⟨none, { socket := -1 }, 6, 6⟩,
  .peerClosed 7,
  .runUpstreams,
  .popDelay 8,
  .popDelay 8]

theorem not_stranded_two : (∃ final,
      twoRounds.foldlM RequestRun.step (.begin oneClient 0) = some final ∧ final.place = .handler) ∧
    ∀ first run, first <+: twoRounds →
      first.foldlM RequestRun.step (.begin oneClient 0) = some run → ¬ Stranded run := by
  have defined : (twoRounds.foldlM RequestRun.step (.begin oneClient 0)).map
      (fun final => final.place) = some .handler := by
    decide +kernel
  have inTime : Lib.Along RequestRun.step CallInTime (.begin oneClient 0) twoRounds := by
    decide +kernel
  obtain ⟨final, ran, place⟩ := Option.map_eq_some_iff.1 defined
  exact ⟨⟨final, ran, place⟩, (not_stranded_iff oneClient_begins ran).2 inTime⟩

/-- The sub-request is finished while the handler sleeps, and its entry ends the sleep. -/
def sleepsFirst : List RequestEvent := [
  .addUpstream (some 0) ⟨some 0, { socket := 6 }, 1, 1⟩ true 1,
  .wait .sleep,
  .popDelay 2,
  .endAttempt 1 coOk 3 ⟨none, { socket := -1 }, 3, 3⟩,
  .popDelay 4,
  .runUpstreams]

theorem handler_stranded : ¬ ∀ conf thread connection, Begins conf thread connection →
    ∀ (events : List RequestEvent) (run : RequestRun),
      events.foldlM RequestRun.step (.begin thread connection) = some run → ¬ Stranded run := by
  intro free
  have defined : (sleepsFirst.foldlM RequestRun.step (.begin oneClient 0)).map (fun run =>
      (run.place, (run.cycle.requests run.request).upstreamRequests,
        (run.cycle.requests run.request).count, run.cycle.delayConnections)) =
        some (.suspended .runUpstreams, [], 1, []) := by
    decide +kernel
  obtain ⟨run, ran, seen⟩ := Option.map_eq_some_iff.1 defined
  obtain ⟨waits, rest⟩ := Prod.mk.inj seen
  obtain ⟨upstreamRequests, rest⟩ := Prod.mk.inj rest
  obtain ⟨count, queue⟩ := Prod.mk.inj rest
  refine free _ _ _ oneClient_begins sleepsFirst run ran ⟨waits, upstreamRequests, count, ?_⟩
  unfold Queued
  rw [queue]
  exact nofun

end CoServer
