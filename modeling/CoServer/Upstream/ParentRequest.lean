import CoServer.Upstream.RequestSteps

/-! # A request and its sub-requests at its end

When the handler returns, the response is written and the request is destroyed.
Nothing on this way looks at the reference count. -/

namespace CoServer

open CoCycle RequestRun

namespace RequestRun

/-- The handler has returned. -/
def Returned (run : RequestRun) : Prop :=
  run.place = .responding ∨ run.place = .suspended .writing ∨ run.place = .finalized

/-- The request can be destroyed: none of its sub-requests is left to point to it. -/
structure Outlives (run : RequestRun) : Prop where
  upstreamRequests : (run.cycle.requests run.request).upstreamRequests = []
  subRequests : ∀ upstreamRequest ∈ run.added,
    (run.cycle.requests upstreamRequest).destroyed = true

end RequestRun

section
variable {conf : Nat → CoConfUpstreamLimits} {run next : RequestRun}

theorem RequestInv.outlives (inv : RequestInv conf run) (none : run.unfinished = []) : Outlives run := by
  refine ⟨inv.no_upstreamRequests none, fun upstreamRequest mem => ?_⟩
  refine inv.ledger.finished upstreamRequest mem fun unfinished => ?_
  rw [none] at unfinished
  cases unfinished

/-- A sub-request that is left is alive and points to the request. -/
theorem RequestInv.not_outlives (inv : RequestInv conf run) {upstreamRequest : Nat}
    (unfinished : upstreamRequest ∈ run.unfinished) : ¬ Outlives run := by
  intro outlives
  have destroyed := outlives.subRequests upstreamRequest (inv.ledger.added upstreamRequest unfinished)
  cases (inv.ledger.sub upstreamRequest unfinished).alive.symm.trans destroyed

/-- Until the request is destroyed, no sub-request is added any more. -/
theorem RequestInv.returned_step (inv : RequestInv conf run) (returned : Returned run)
    (none : run.unfinished = []) {event : RequestEvent} (stepped : run.step event = some next) :
    Returned next ∧ next.unfinished = [] := by
  have notHandler : run.place ≠ .handler := by
    obtain place | place | place := returned <;> rw [place] <;> exact nofun
  by_cases final : run.place = .finalized
  · obtain ⟨connection, version, rfl⟩ := step_alive stepped final
    cases stepped
    exact ⟨returned, none⟩
  have accounts := inv.accounts final
  cases event with
  | addUpstream | wait =>
    exact absurd (Option.ite_none_right_eq_some.1 stepped).1.1 notHandler
  | runUpstreams | respond => exact absurd (Option.ite_none_right_eq_some.1 stepped).1 notHandler
  | writeBlocked =>
    obtain ⟨-, stepped⟩ := Option.ite_none_right_eq_some.1 stepped
    cases stepped
    exact ⟨.inr (.inl rfl), none⟩
  | finalize retCode =>
    obtain ⟨-, thread, rfl, -⟩ := step_finalize stepped
    exact ⟨.inr (.inr rfl), none⟩
  | endAttempt upstreamRequest retCode timestamp get =>
    obtain ⟨connection, attempt, -⟩ := accounts.endAttempt_cases stepped
    have unfinished := attempt.unfinished
    rw [none] at unfinished
    cases unfinished
  | popDelay | popResume | popSingle | resumeAsync | peerClosed | writable | timer | blockConnection
  | others | otherRequests | otherPush =>
    cases accounts.turn stepped trivial with
    | stays stays =>
      unfold Returned
      rw [stays.place, stays.books.unfinished]
      exact ⟨returned, none⟩
    | resumed wait waker woken =>
      refine ⟨.inl ?_, woken.books.unfinished.trans none⟩
      have writing : wait = .writing := by
        obtain place | place | place := returned
        · cases place.symm.trans woken.suspended
        · cases place.symm.trans woken.suspended
          rfl
        · cases place.symm.trans woken.suspended
      rw [woken.place, if_pos writing]

end

/-! ## Every run -/

section
variable {conf : Nat → CoConfUpstreamLimits} {thread : UpstreamRun} {connection : Nat}

/-- Whatever the handler did before it returned: however the run goes on from there, the
    request outlives its sub-requests, if and only if its count is 1 when it returns. -/
theorem request_outlives_iff (begins : Begins conf thread connection) {events : List RequestEvent}
    {run responding : RequestRun}
    (ran : events.foldlM RequestRun.step (.begin thread connection) = some run)
    (returned : run.step .respond = some responding) :
    (∀ (rest : List RequestEvent) (final next : RequestRun) (retCode : Int),
      rest.foldlM RequestRun.step responding = some final →
        final.step (.finalize retCode) = some next → Outlives final) ↔
      (run.cycle.requests run.request).count = 1 := by
  have inv := begins.requestInv.reached ran
  have after := inv.step returned
  have counted := inv.ledger.count
  obtain ⟨-, isResponding⟩ := Option.ite_none_right_eq_some.1 returned
  have same : responding.unfinished = run.unfinished := by
    cases isResponding
    rfl
  have place : responding.place = .responding := by
    cases isResponding
    rfl
  constructor
  · intro outlives
    -- the response may be written at once
    have safe := outlives [] responding _ coOk rfl (if_pos place)
    cases unfinished : run.unfinished with
    | nil =>
      rw [unfinished] at counted
      exact counted
    | cons upstreamRequest rest =>
      exact absurd safe (after.not_outlives (same ▸ unfinished ▸ List.mem_cons_self))
  · intro alone rest final next retCode goesOn _
    have none : run.unfinished = [] := by
      refine List.length_eq_zero_iff.1 ?_
      omega
    obtain ⟨inv, -, none⟩ := Lib.run_keeps RequestRun.step
      (fun run => RequestInv conf run ∧ Returned run ∧ run.unfinished = [])
      (fun _ _ _ ⟨inv, returned, none⟩ stepped =>
        ⟨inv.step stepped, inv.returned_step returned none stepped⟩)
      ⟨after, .inl place, same.trans none⟩ goesOn
    exact inv.outlives none

end

/-- The handler waits for its sub-request. -/
def waitsForUpstream : List RequestEvent := [
  .addUpstream (some 0) ⟨some 0, { socket := 6 }, 1, 1⟩ true 1,
  .runUpstreams,
  .popDelay 2,
  .endAttempt 1 coOk 3 ⟨none, { socket := -1 }, 3, 3⟩,
  .popDelay 4]

theorem request_outlives_waits : ∃ run responding,
    waitsForUpstream.foldlM RequestRun.step (.begin oneClient 0) = some run ∧
    run.step .respond = some responding ∧ run.added = [1] ∧
    ∀ (rest : List RequestEvent) (final next : RequestRun) (retCode : Int),
      rest.foldlM RequestRun.step responding = some final →
        final.step (.finalize retCode) = some next → Outlives final := by
  have defined : (waitsForUpstream.foldlM RequestRun.step (.begin oneClient 0)).map (fun run =>
      ((run.step .respond).isSome, run.added, (run.cycle.requests run.request).count)) =
        some (true, [1], 1) := by
    decide +kernel
  obtain ⟨run, ran, seen⟩ := Option.map_eq_some_iff.1 defined
  obtain ⟨returns, rest⟩ := Prod.mk.inj seen
  obtain ⟨added, alone⟩ := Prod.mk.inj rest
  obtain ⟨responding, returned⟩ := Option.isSome_iff_exists.1 returns
  exact ⟨run, responding, ran, returned, added,
    (request_outlives_iff oneClient_begins ran returned).2 alone⟩

/-- The handler adds a sub-request and returns. -/
def doesNotWait : List RequestEvent := [
  .addUpstream (some 0) ⟨some 0, { socket := 6 }, 1, 1⟩ true 1,
  .respond]

/-- Its sub-request is left behind. -/
theorem sub_request_left : ¬ ∀ conf thread connection, Begins conf thread connection →
    ∀ (events : List RequestEvent) (final next : RequestRun) (retCode : Int),
      events.foldlM RequestRun.step (.begin thread connection) = some final →
        final.step (.finalize retCode) = some next → Outlives final := by
  intro outlives
  have defined : (doesNotWait.foldlM RequestRun.step (.begin oneClient 0)).map (fun final =>
      ((final.step (.finalize coOk)).isSome,
        (final.cycle.requests final.request).upstreamRequests)) = some (true, [(2, 1)]) := by
    decide +kernel
  obtain ⟨final, ran, seen⟩ := Option.map_eq_some_iff.1 defined
  obtain ⟨ends, left⟩ := Prod.mk.inj seen
  obtain ⟨next, stepped⟩ := Option.isSome_iff_exists.1 ends
  have none := (outlives _ _ _ oneClient_begins doesNotWait final next coOk ran stepped).upstreamRequests
  rw [left] at none
  cases none

end CoServer
