import CoServer.Lib.Keyed
import CoServer.Upstream.RequestSteps

/-! # The accounts of the sub-requests

The map of a request is indexed with ids of 32 bits, which are given out by a
counter that all requests share.  As long as no id comes twice, the map is
exactly the sub-requests that are not finished. -/

namespace CoServer

open CoCycle RequestRun

namespace RequestRun

/-- `m_requestId` of a sub-request. -/
def requestId (self : RequestRun) (upstreamRequest : Nat) : Nat :=
  (self.cycle.requests upstreamRequest).requestId

/-- The id that the next request gets. -/
def nextId (self : RequestRun) : Nat := uint32 (sizeT (self.cycle.requestId + 1))

/-- A sub-request that is added gets an id that no unfinished one has. -/
def FreshId (run : RequestRun) : RequestEvent → Prop
  | .addUpstream upstream get protocol _ =>
    (protocol && (run.cycle.getUpstreamConnection upstream get).2.isSome) = true →
      ∀ upstreamRequest ∈ run.unfinished, run.requestId upstreamRequest ≠ run.nextId
  | _ => True

instance (run : RequestRun) (event : RequestEvent) : Decidable (FreshId run event) := by
  unfold FreshId
  split <;> infer_instance

/-- The map is the unfinished sub-requests. -/
structure Exact (run : RequestRun) : Prop where
  keyed : Lib.Keyed run.requestId (run.cycle.requests run.request).upstreamRequests run.unfinished
  distinct : ∀ first ∈ run.unfinished, ∀ second ∈ run.unfinished,
    run.requestId first = run.requestId second → first = second

end RequestRun

section
variable {conf : Nat → CoConfUpstreamLimits} {run next : RequestRun}

theorem RequestRun.Exact.keep (exact : Exact run) (unfinished : next.unfinished = run.unfinished)
    (map : (next.cycle.requests next.request).upstreamRequests =
      (run.cycle.requests run.request).upstreamRequests)
    (ids : ∀ upstreamRequest ∈ run.unfinished,
      next.requestId upstreamRequest = run.requestId upstreamRequest) : Exact next := by
  refine ⟨?_, ?_⟩ <;> rw [unfinished]
  · rw [map]
    exact exact.keyed.congr ids
  · intro first memFirst second memSecond same
    rw [ids first memFirst, ids second memSecond] at same
    exact exact.distinct first memFirst second memSecond same

theorem RequestRun.Exact.same (exact : Exact run) (same : SameBooks run next) : Exact next := by
  refine exact.keep same.unfinished ?_ fun upstreamRequest _ => ?_
  · rw [same.requests, same.request]
  · unfold requestId
    rw [same.requests]

theorem RequestRun.Exact.add (exact : Exact run) (ledger : Ledger conf run) {connected : Bool}
    (fresh : connected = true → ∀ upstreamRequest ∈ run.unfinished,
      run.requestId upstreamRequest ≠ run.nextId)
    (outcome : AddOutcome conf run connected next) : Exact next := by
  cases outcome with
  | failed thread inv spared requests allocated =>
    refine exact.keep rfl ?_ fun upstreamRequest _ => ?_
    · exact congrArg (fun requests => (requests run.request).upstreamRequests) requests
    · exact congrArg (fun requests => (requests upstreamRequest).requestId) requests
  | added thread upstream connection inv spared added held owner unused =>
    obtain ⟨upstreamInfos, parent⟩ := added.parent
    have older : ∀ other ∈ run.unfinished,
        other ≠ run.request ∧ other ≠ run.cycle.allocatedRequests := fun other mem => by
      obtain ⟨apart, below⟩ := ledger.addedBelow other (ledger.added other mem)
      exact ⟨apart.symm, below.ne⟩
    have old : ∀ other ∈ run.unfinished,
        (thread.cycle.requests other).requestId = run.requestId other := fun other mem =>
      congrArg CoRequest.requestId (added.others other (older other mem).1 (older other mem).2)
    have new : (thread.cycle.requests run.cycle.allocatedRequests).requestId = run.nextId :=
      congrArg CoRequest.requestId added.record
    refine ⟨?_, ?_⟩
    · show Lib.Keyed (fun other => (thread.cycle.requests other).requestId)
        (thread.cycle.requests run.request).upstreamRequests
        (run.unfinished ++ [run.cycle.allocatedRequests])
      rw [parent]
      have keyed : Lib.Keyed (fun other => (thread.cycle.requests other).requestId)
          (run.cycle.requests run.request).upstreamRequests run.unfinished := exact.keyed.congr old
      have unlike : ∀ other ∈ run.unfinished, (thread.cycle.requests other).requestId ≠
          (thread.cycle.requests run.cycle.allocatedRequests).requestId := fun other mem => by
        rw [old other mem, new]
        exact fresh rfl other mem
      have inserted := keyed.insert unlike
      rw [new] at inserted
      exact inserted
    · show ∀ first ∈ run.unfinished ++ [run.cycle.allocatedRequests],
        ∀ second ∈ run.unfinished ++ [run.cycle.allocatedRequests],
          (thread.cycle.requests first).requestId = (thread.cycle.requests second).requestId →
            first = second
      intro first memFirst second memSecond same
      obtain oldFirst | newFirst := List.mem_append.1 memFirst <;>
        obtain oldSecond | newSecond := List.mem_append.1 memSecond
      · rw [old first oldFirst, old second oldSecond] at same
        exact exact.distinct first oldFirst second oldSecond same
      · cases List.mem_singleton.1 newSecond
        rw [old first oldFirst, new] at same
        exact absurd same (fresh rfl first oldFirst)
      · cases List.mem_singleton.1 newFirst
        rw [old second oldSecond, new] at same
        exact absurd same.symm (fresh rfl second oldSecond)
      · exact (List.mem_singleton.1 newFirst).trans (List.mem_singleton.1 newSecond).symm

theorem RequestRun.Exact.ended (exact : Exact run) {upstreamRequest connection : Nat}
    (attempt : Attempt conf run upstreamRequest connection)
    (outcome : AttemptOutcome conf run upstreamRequest connection next) : Exact next := by
  have ledger := attempt.accounts.ledger
  cases outcome with
  | removed thread inv left spared =>
    have rest : ∀ other ∈ run.unfinished.erase upstreamRequest, other ∈ run.unfinished ∧
        (thread.cycle.requests other).requestId = run.requestId other := by
      intro other mem
      obtain ⟨apart, old⟩ := ledger.nodup.mem_erase_iff.1 mem
      have notParent := (ledger.addedBelow other (ledger.added other old)).1.symm
      exact ⟨old, congrArg CoRequest.requestId (left.others other notParent apart)⟩
    refine ⟨?_, ?_⟩
    · show Lib.Keyed (fun other => (thread.cycle.requests other).requestId)
        (thread.cycle.requests run.request).upstreamRequests (run.unfinished.erase upstreamRequest)
      rw [left.parent]
      refine (exact.keyed.erase ledger.nodup attempt.unfinished fun other old same =>
        exact.distinct other old upstreamRequest attempt.unfinished same).congr ?_
      exact fun other mem => (rest other mem).2
    · intro first memFirst second memSecond same
      obtain ⟨oldFirst, idFirst⟩ := rest first memFirst
      obtain ⟨oldSecond, idSecond⟩ := rest second memSecond
      exact exact.distinct first oldFirst second oldSecond ((idFirst.symm.trans same).trans idSecond)
  | retried thread retry inv again unmarked goesOn held owner unused spared =>
    refine exact.keep rfl ?_ fun other _ => ?_
    · exact congrArg CoRequest.upstreamRequests (goesOn.others run.request attempt.apart)
    · show (thread.cycle.requests other).requestId = _
      by_cases same : other = upstreamRequest
      · rw [same, goesOn.record]
        rfl
      · rw [goesOn.others other same]
        rfl

theorem RequestRun.Exact.step (exact : Exact run) (inv : RequestInv conf run) {event : RequestEvent}
    (fresh : FreshId run event) (stepped : run.step event = some next) : Exact next := by
  by_cases final : run.place = .finalized
  · obtain ⟨connection, version, rfl⟩ := step_alive stepped final
    cases stepped
    exact exact.keep rfl rfl fun _ _ => rfl
  have accounts := inv.accounts final
  cases event with
  | addUpstream upstream get protocol timestamp =>
    obtain ⟨⟨-, allowed⟩, stepped⟩ := Option.ite_none_right_eq_some.1 stepped
    cases stepped
    exact exact.add inv.ledger fresh (accounts.addUpstream_cases allowed protocol timestamp)
  | endAttempt upstreamRequest retCode timestamp get =>
    obtain ⟨connection, attempt, outcome⟩ := accounts.endAttempt_cases stepped
    exact exact.ended attempt outcome
  | finalize retCode =>
    obtain ⟨-, thread, rfl, requests, -⟩ := step_finalize stepped
    refine exact.keep rfl ?_ fun other _ => ?_
    · show (thread.cycle.requests run.request).upstreamRequests = _
      rw [requests, Function.update_self]
    · show (thread.cycle.requests other).requestId = _
      rw [requests]
      by_cases same : other = run.request
      · rw [same, Function.update_self]
        rfl
      · rw [Function.update_of_ne same]
        rfl
  | _ => exact exact.same (accounts.step_books stepped trivial)

end

/-! ## Every run -/

/-- What holds of a request and its sub-requests after any number of steps. -/
structure SubRequestsSound (conf : Nat → CoConfUpstreamLimits) (run : RequestRun) : Prop where
  count : (run.cycle.requests run.request).count = 1 + run.unfinished.length
  upstreamRequests : (run.cycle.requests run.request).upstreamRequests.Perm
    (run.unfinished.map fun upstreamRequest =>
      ((run.cycle.requests upstreamRequest).requestId, upstreamRequest))
  /-- Whatever was added is unfinished, or was removed once. -/
  removals : ∀ upstreamRequest ∈ run.added,
    run.removals upstreamRequest = if upstreamRequest ∈ run.unfinished then 0 else 1
  attempts : ∀ upstreamRequest ∈ run.added, (run.attempts upstreamRequest : Int) ≤
    max (conf (run.upstreamOf upstreamRequest)).retryMaxnum 0 + 1
  /-- There is no retry after the mark of the parent. -/
  marked : ∀ attempt ∈ run.ended, attempt.marked = true → attempt.removed = true
  /-- The last one that is removed wakes the parent, and no other does. -/
  woken : ∀ attempt ∈ run.ended, attempt.woken = (attempt.removed && attempt.left == 0)

section
variable {conf : Nat → CoConfUpstreamLimits} {thread : UpstreamRun} {connection : Nat}

theorem exact_begin (thread : UpstreamRun) (connection : Nat) : Exact (.begin thread connection) := by
  refine ⟨?_, nofun⟩
  show Lib.Keyed _ ((RequestRun.init thread connection).cycle.requests
    thread.cycle.allocatedRequests).upstreamRequests []
  rw [init_record]
  exact List.Perm.refl []

/-- In every run in which no sub-request gets the id of another unfinished one, whatever the
    handler does, however the attempts end and whatever else the thread does, the accounts
    of the sub-requests are right in every state. -/
theorem sub_requests_sound (begins : Begins conf thread connection) {events : List RequestEvent}
    {final : RequestRun}
    (fresh : Lib.Along RequestRun.step FreshId (.begin thread connection) events)
    (ran : events.foldlM RequestRun.step (.begin thread connection) = some final) :
    SubRequestsSound conf final := by
  obtain ⟨inv, exact⟩ := Lib.run_keeps_along RequestRun.step FreshId
    (fun run => RequestInv conf run ∧ Exact run)
    (fun _ _ _ ⟨inv, exact⟩ fresh stepped => ⟨inv.step stepped, exact.step inv fresh stepped⟩)
    ⟨begins.requestInv, exact_begin thread connection⟩ fresh ran
  have ledger := inv.ledger
  exact ⟨ledger.count, exact.keyed, ledger.removals, ledger.attempts, ledger.marked, ledger.woken⟩

end

/-- Two sub-requests run at once; one of them is retried and wakes the handler, which ends. -/
def twoUpstreams : List RequestEvent := [
  .addUpstream (some 0) ⟨some 0, { socket := 6 }, 1, 1⟩ true 1,
  .addUpstream (some 0) ⟨none, { socket := -1 }, 1, 1⟩ true 1,
  .addUpstream (some 0) ⟨some 0, { socket := 7 }, 1, 1⟩ true 1,
  .runUpstreams,
  .popDelay 2,
  .endAttempt 1 coError 3 ⟨some 0, { socket := 8 }, 3, 3⟩,
  .endAttempt 2 coOk 4 ⟨none, { socket := -1 }, 4, 4⟩,
  .endAttempt 1 coOk 5 ⟨none, { socket := -1 }, 5, 5⟩,
  .popDelay 6,
  .popDelay 6,
  .popDelay 6,
  .respond,
  .finalize coOk]

theorem sub_requests_sound_retry : ∃ final,
    twoUpstreams.foldlM RequestRun.step (.begin oneClient 0) = some final ∧
    (final.added, final.unfinished) = ([1, 2], []) ∧
    SubRequestsSound (fun upstream => (oneBackend upstream).confUpstream) final := by
  have defined : (twoUpstreams.foldlM RequestRun.step (.begin oneClient 0)).map
      (fun final => (final.added, final.unfinished)) = some ([1, 2], []) := by
    decide +kernel
  have fresh : Lib.Along RequestRun.step FreshId (.begin oneClient 0) twoUpstreams := by
    decide +kernel
  obtain ⟨final, ran, seen⟩ := Option.map_eq_some_iff.1 defined
  exact ⟨final, ran, seen, sub_requests_sound oneClient_begins fresh ran⟩

/-- The counter has 64 bits and an id 32. -/
def sameId : List RequestEvent := [
  .addUpstream (some 0) ⟨some 0, { socket := 6 }, 1, 1⟩ true 1,
  .wait .yielded,
  .otherRequests 4294967295,
  .resumeAsync 0 0,
  .popResume 2,
  .addUpstream (some 0) ⟨some 0, { socket := 7 }, 3, 3⟩ true 3]

/-- The second sub-request takes the place of the first one in the map. -/
theorem same_id_lost : ¬ ∀ conf thread connection, Begins conf thread connection →
    ∀ (events : List RequestEvent) (final : RequestRun),
      events.foldlM RequestRun.step (.begin thread connection) = some final →
      SubRequestsSound conf final := by
  intro sound
  have defined : (sameId.foldlM RequestRun.step (.begin oneClient 0)).map (fun final =>
      ((final.cycle.requests final.request).upstreamRequests.length, final.unfinished.length)) =
        some (1, 2) := by
    decide +kernel
  obtain ⟨final, ran, seen⟩ := Option.map_eq_some_iff.1 defined
  have same := (sound _ _ _ oneClient_begins sameId final ran).upstreamRequests.length_eq
  rw [List.length_map, (Prod.mk.inj seen).1, (Prod.mk.inj seen).2] at same
  cases same

end CoServer
