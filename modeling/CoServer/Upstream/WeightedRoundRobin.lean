import CoServer.Upstream.BackendHealth
import CoServer.Lib.SmoothRoundRobin

/-! # `choose_one_weight` is smooth weighted round robin

While no backend has failed, a call of `get_backend` is one round of
`Lib.SmoothRun`: the credits are the `m_currentWeight` values.  The bounds of
that theory are what keeps the `int32_t` arithmetic exact, so the run and its
bounds are established together, call by call. -/

namespace CoServer

namespace CoBackendStrategyWRR

open Finset

/-! ## Runs of `get_backend` -/

/-- The strategy after `calls` calls; call `t` reads the clock as `clock t`. -/
def afterCalls (start : CoBackendStrategyWRR) (clock : Nat → Nat → Nat) : Nat → CoBackendStrategyWRR
  | 0 => start
  | calls + 1 => ((afterCalls start clock calls).getBackend (clock calls)).2

/-- What call `t` returns. -/
def chosen (start : CoBackendStrategyWRR) (clock : Nat → Nat → Nat) (t : Nat) : Option Nat :=
  ((afterCalls start clock t).getBackend (clock t)).1

/-! ## One pass over the backends -/

/-- The credit of a backend after its weight was added. -/
def raised (backend : CoBackendWRR) : Int := backend.currentWeight + backend.effectiveWeight

def raise (backend : CoBackendWRR) : CoBackendWRR := { backend with currentWeight := raised backend }

/-- A backend after the loop has passed it. -/
def visited (timestamp : Nat) (backend : CoBackendWRR) : CoBackendWRR :=
  if (backend.avaliable timestamp).1 then raise (backend.avaliable timestamp).2 else backend

/-- What a backend adds to the total. -/
def share (timestamp : Nat) (backend : CoBackendWRR) : Int :=
  if (backend.avaliable timestamp).1 then backend.effectiveWeight else 0

/-- What one pass over the backends leaves: the available ones raised, their total
    weight, and one of the richest of them as the best. -/
structure Passed (now : Nat → Nat) (backends : List CoBackendWRR) (selection : Selection) : Prop where
  passed : selection.passed = backends.mapIdx fun i => visited (now i)
  total : selection.total = (backends.mapIdx fun i => share (now i)).sum
  best : match selection.best with
    | none => ∀ (i : Nat) (backend : CoBackendWRR), backends[i]? = some backend →
      (backend.avaliable (now i)).1 = false
    | some (index, current) =>
      (∃ backend, backends[index]? = some backend ∧ (backend.avaliable (now index)).1 = true ∧
        raised backend = current) ∧
      ∀ (i : Nat) (backend : CoBackendWRR), backends[i]? = some backend →
        (backend.avaliable (now i)).1 = true → raised backend ≤ current

section
variable {backend : CoBackendWRR} {backends : List CoBackendWRR} {selection : Selection} {now : Nat → Nat}

/-- A backend that is not available stays as it is. -/
theorem avaliable_false {timestamp : Nat} (down : (backend.avaliable timestamp).1 = false) :
    (backend.avaliable timestamp).2 = backend := by
  revert down
  unfold CoBackendWRR.avaliable
  split
  · nofun
  · split
    · nofun
    · exact fun _ => rfl

/-- What the answer of `avaliable` does not touch. -/
theorem avaliable_weights (backend : CoBackendWRR) (timestamp : Nat) :
    (backend.avaliable timestamp).2.weight = backend.weight ∧
    (backend.avaliable timestamp).2.effectiveWeight = backend.effectiveWeight ∧
    (backend.avaliable timestamp).2.currentWeight = backend.currentWeight := by
  obtain same | back := backend.avaliable_cases timestamp
  · rw [same]
    exact ⟨rfl, rfl, rfl⟩
  · rw [back]
    exact ⟨rfl, rfl, rfl⟩

/-- An entry of a longer list. -/
theorem getElem?_append_singleton {i : Nat} {last : CoBackendWRR}
    (here : (backends ++ [last])[i]? = some backend) :
    backends[i]? = some backend ∨ i = backends.length ∧ backend = last := by
  by_cases inside : i < backends.length
  · rw [List.getElem?_append_left inside] at here
    exact .inl here
  · rw [List.getElem?_append_right (Nat.le_of_not_lt inside), List.getElem?_singleton] at here
    split at here
    · exact .inr ⟨by omega, (Option.some.inj here).symm⟩
    · cases here

/-- The total of a pass is at most the weight of everyone. -/
theorem shares_le (now : Nat → Nat) (backends : List CoBackendWRR)
    (positive : ∀ backend ∈ backends, 0 ≤ backend.effectiveWeight) :
    0 ≤ (backends.mapIdx fun i => share (now i)).sum ∧
    (backends.mapIdx fun i => share (now i)).sum ≤ (backends.map CoBackendWRR.effectiveWeight).sum := by
  induction backends using List.reverseRecOn with
  | nil => exact ⟨Int.le_refl _, Int.le_refl _⟩
  | append_singleton backends backend ih =>
    have last := positive backend (List.mem_append_right _ (List.mem_singleton_self _))
    have before := ih fun other member => positive other (List.mem_append_left _ member)
    have part : 0 ≤ share (now backends.length) backend ∧
        share (now backends.length) backend ≤ backend.effectiveWeight := by
      unfold share
      split <;> omega
    rw [List.mapIdx_concat, List.map_append, List.sum_append, List.sum_append, List.map_singleton,
      List.sum_singleton, List.sum_singleton]
    omega

theorem Passed.visit (before : Passed now backends selection) (unset : backend.weight = 0)
    (positive : 0 ≤ backend.effectiveWeight) (exact : int32 (raised backend) = raised backend)
    (exactTotal : int32 (selection.total + backend.effectiveWeight) =
      selection.total + backend.effectiveWeight) :
    Passed now (backends ++ [backend]) (selection.visit (now selection.passed.length) backend) := by
  have length : selection.passed.length = backends.length := by
    rw [before.passed, List.length_mapIdx]
  obtain ⟨weight, effective, current⟩ := avaliable_weights backend (now backends.length)
  rw [length]
  have old : ∀ {i : Nat} {other : CoBackendWRR}, backends[i]? = some other →
      (backends ++ [backend])[i]? = some other := fun here => by
    rw [List.getElem?_append_left (List.getElem?_eq_some_iff.1 here).1, here]
  have last : (backends ++ [backend])[backends.length]? = some backend := List.getElem?_concat_length
  have best := before.best
  unfold raised at exact
  unfold Selection.visit
  cases asked : backend.avaliable (now backends.length) with
  | mk up after =>
    have answer : (backend.avaliable (now backends.length)).1 = up := congrArg Prod.fst asked
    have kept : (backend.avaliable (now backends.length)).2 = after := congrArg Prod.snd asked
    rw [kept] at weight effective current
    cases up with
    | false =>
      -- passed over, and nothing changes
      have same : after = backend := kept.symm.trans (avaliable_false answer)
      subst same
      refine ⟨?_, ?_, ?_⟩
      · simp [before.passed, List.mapIdx_concat, visited, answer]
      · simp [before.total, List.mapIdx_concat, share, answer]
      · dsimp only
        cases found : selection.best with
        | none =>
          rw [found] at best
          intro i other here
          rcases getElem?_append_singleton here with earlier | ⟨rfl, rfl⟩
          · exact best i other earlier
          · exact answer
        | some pair =>
          obtain ⟨index, most⟩ := pair
          rw [found] at best
          obtain ⟨⟨holder, holds, up, credit⟩, richest⟩ := best
          refine ⟨⟨holder, old holds, up, credit⟩, fun i other here available => ?_⟩
          rcases getElem?_append_singleton here with earlier | ⟨rfl, rfl⟩
          · exact richest i other earlier available
          · rw [answer] at available
            cases available
    | true =>
      simp only [Bool.not_true, Bool.false_eq_true, if_false, weight, effective, current, exact, exactTotal,
        unset, if_neg (Int.not_lt.2 positive), length]
      refine ⟨?_, ?_, ?_⟩
      · rw [List.mapIdx_concat, ← before.passed, visited, if_pos answer, kept, raise, raised, effective, current,
          weight, unset]
      · simp [before.total, List.mapIdx_concat, share, answer]
      · dsimp only
        cases found : selection.best with
        | none =>
          rw [found] at best
          refine ⟨⟨backend, last, answer, rfl⟩, fun i other here available => ?_⟩
          rcases getElem?_append_singleton here with earlier | ⟨rfl, rfl⟩
          · rw [best i other earlier] at available
            cases available
          · exact Int.le_refl _
        | some pair =>
          obtain ⟨index, most⟩ := pair
          rw [found] at best
          obtain ⟨⟨holder, holds, up, credit⟩, richest⟩ := best
          -- the earlier of two equally rich ones stays the best
          by_cases better : backend.currentWeight + backend.effectiveWeight > most
          · simp only [if_pos better]
            refine ⟨⟨backend, last, answer, rfl⟩, fun i other here available => ?_⟩
            rcases getElem?_append_singleton here with earlier | ⟨rfl, rfl⟩
            · exact (richest i other earlier available).trans (Int.le_of_lt better)
            · exact Int.le_refl _
          · simp only [if_neg better]
            refine ⟨⟨holder, old holds, up, credit⟩, fun i other here available => ?_⟩
            rcases getElem?_append_singleton here with earlier | ⟨rfl, rfl⟩
            · exact richest i other earlier available
            · exact Int.not_lt.1 better

/-- The whole pass, as long as no credit and no partial total leaves `int32_t`. -/
theorem passed_select (now : Nat → Nat) (backends : List CoBackendWRR)
    (unset : ∀ backend ∈ backends, backend.weight = 0)
    (positive : ∀ backend ∈ backends, 0 ≤ backend.effectiveWeight)
    (bounded : ∀ backend ∈ backends, -2 ^ 31 ≤ raised backend ∧ raised backend < 2 ^ 31)
    (total_lt : (backends.map CoBackendWRR.effectiveWeight).sum < 2 ^ 31) :
    Passed now backends (select now backends) := by
  induction backends using List.reverseRecOn with
  | nil => exact ⟨rfl, rfl, fun i backend here => nomatch here⟩
  | append_singleton backends backend ih =>
    simp only [List.mem_append, List.mem_singleton] at unset positive bounded
    have last := positive backend (.inr rfl)
    have bound := bounded backend (.inr rfl)
    simp only [List.map_append, List.map_cons, List.map_nil, List.sum_append, List.sum_cons,
      List.sum_nil, add_zero] at total_lt
    have before := ih (fun other member => unset other (.inl member))
      (fun other member => positive other (.inl member))
      (fun other member => bounded other (.inl member)) (by omega)
    have shares := shares_le now backends fun other member => positive other (.inl member)
    unfold select at before ⊢
    rw [List.foldl_append, List.foldl_cons, List.foldl_nil]
    refine before.visit (unset backend (.inr rfl)) last (int32_of_bounds bound.1 bound.2) ?_
    rw [before.total]
    exact int32_of_bounds (by omega) (by omega)

end

/-! ## Backends that never failed -/

/-- The backends have not failed and carry the given configured weights. -/
structure Steady (weights : List Nat) (backends : List CoBackendWRR) : Prop where
  up : ∀ backend ∈ backends, backend.fail = false ∧ backend.weight = 0
  effective : backends.map CoBackendWRR.effectiveWeight = weights.map Nat.cast

/-- What one pass over steady backends leaves: everyone raised, the total weight,
    and one of the richest as the best. -/
structure Selected (backends : List CoBackendWRR) (selection : Selection) : Prop where
  passed : selection.passed = backends.map raise
  total : selection.total = (backends.map CoBackendWRR.effectiveWeight).sum
  best : match selection.best with
    | none => backends = []
    | some (index, current) => (backends[index]?).map raised = some current ∧
      ∀ backend ∈ backends, raised backend ≤ current

theorem avaliable_of_up {backend : CoBackendWRR} (up : backend.fail = false) (timestamp : Nat) :
    backend.avaliable timestamp = (true, backend) := by
  simp [CoBackendWRR.avaliable, up]

/-- While nothing has failed a pass raises every backend. -/
theorem selected_select (now : Nat → Nat) (backends : List CoBackendWRR)
    (up : ∀ backend ∈ backends, backend.fail = false ∧ backend.weight = 0)
    (positive : ∀ backend ∈ backends, 0 ≤ backend.effectiveWeight)
    (bounded : ∀ backend ∈ backends, -2 ^ 31 ≤ raised backend ∧ raised backend < 2 ^ 31)
    (total_lt : (backends.map CoBackendWRR.effectiveWeight).sum < 2 ^ 31) :
    Selected backends (select now backends) := by
  have pass := passed_select now backends (fun backend member => (up backend member).2) positive bounded total_lt
  have asked : ∀ (i : Nat) (backend : CoBackendWRR), backends[i]? = some backend →
      backend.avaliable (now i) = (true, backend) := fun i backend here =>
    avaliable_of_up (up backend (List.mem_of_getElem? here)).1 _
  have mapIdx_eq_map : ∀ {α : Type} {f : Nat → CoBackendWRR → α} {g : CoBackendWRR → α},
      (∀ i backend, backends[i]? = some backend → f i backend = g backend) → backends.mapIdx f = backends.map g := by
    intro α f g same
    refine List.ext_getElem? fun i => ?_
    rw [List.getElem?_mapIdx, List.getElem?_map]
    cases here : backends[i]? with
    | none => rfl
    | some backend => exact congrArg some (same i backend here)
  refine ⟨?_, ?_, ?_⟩
  · rw [pass.passed]
    exact mapIdx_eq_map fun i backend here => by rw [visited, asked i backend here, if_pos rfl]
  · rw [pass.total]
    exact congrArg List.sum (mapIdx_eq_map fun i backend here => by
      rw [share, asked i backend here, if_pos rfl])
  · have best := pass.best
    cases found : (select now backends).best with
    | none =>
      rw [found] at best
      cases backends with
      | nil => rfl
      | cons backend rest =>
        have down := best 0 backend rfl
        rw [asked 0 backend rfl] at down
        cases down
    | some pair =>
      rw [found] at best
      obtain ⟨⟨holder, holds, -, credit⟩, richest⟩ := best
      refine ⟨by rw [holds, Option.map_some, credit], fun backend member => ?_⟩
      obtain ⟨i, inside, rfl⟩ := List.mem_iff_getElem.1 member
      exact richest i _ (List.getElem?_eq_getElem inside)
        (congrArg Prod.fst (asked i _ (List.getElem?_eq_getElem inside)))

/-- While nothing has failed the clock is not read. -/
theorem select_now (now now' : Nat → Nat) (backends : List CoBackendWRR)
    (up : ∀ backend ∈ backends, backend.fail = false ∧ backend.weight = 0) :
    select now backends = select now' backends := by
  induction backends using List.reverseRecOn with
  | nil => simp [select]
  | append_singleton backends backend ih =>
    simp only [List.mem_append, List.mem_singleton] at up
    have before := ih fun other member => up other (.inl member)
    unfold select at before ⊢
    rw [List.foldl_append, List.foldl_append, before]
    simp only [List.foldl_cons, List.foldl_nil, Selection.visit,
      avaliable_of_up (up backend (.inr rfl)).1]

/-! ## One call -/

/-- The credit of backend `i`. -/
def credit (self : CoBackendStrategyWRR) (i : Nat) : Int :=
  ((self.backends[i]?).map CoBackendWRR.currentWeight).getD 0

/-- A backend without its credit, the only part of it that a call changes. -/
def forget (backend : CoBackendWRR) : CoBackendWRR := { backend with currentWeight := 0 }

section
variable {weights : List Nat} {backends backends' : List CoBackendWRR}

theorem Steady.length (steady : Steady weights backends) : backends.length = weights.length := by
  simpa using congrArg List.length steady.effective

theorem Steady.of_forget (steady : Steady weights backends)
    (same : backends'.map forget = backends.map forget) : Steady weights backends' := by
  refine ⟨?_, ?_⟩
  · intro backend member
    have image : forget backend ∈ backends.map forget := same ▸ List.mem_map_of_mem member
    obtain ⟨twin, twinMember, equal⟩ := List.mem_map.mp image
    have twinUp := steady.up twin twinMember
    simp only [forget, CoBackendWRR.mk.injEq] at equal
    rw [← equal.1, ← equal.2.1]
    exact twinUp
  · have effective := congrArg (List.map CoBackendWRR.effectiveWeight) same
    simpa [List.map_map, Function.comp_def, forget, steady.effective] using effective

/-- Backend `i` exists and carries the weight `weights[i]`. -/
theorem getElem?_of_effective (effective : backends.map CoBackendWRR.effectiveWeight = weights.map Nat.cast)
    {i : Nat} (bound : i < weights.length) :
    ∃ backend, backends[i]? = some backend ∧ backend ∈ backends ∧
      backend.effectiveWeight = weights.getD i 0 := by
  have inside : i < backends.length := by
    have length := congrArg List.length effective
    rw [List.length_map, List.length_map] at length
    omega
  refine ⟨backends[i], List.getElem?_eq_getElem inside, List.getElem_mem inside, ?_⟩
  have here := congrArg (fun list => list[i]?) effective
  simpa [inside, bound] using here

theorem Steady.get (steady : Steady weights backends) {i : Nat} (bound : i < weights.length) :
    ∃ backend, backends[i]? = some backend ∧ backend ∈ backends ∧
      backend.effectiveWeight = weights.getD i 0 :=
  getElem?_of_effective steady.effective bound

theorem sum_range_getD {α : Type*} [AddCommMonoid α] (weights : List α) :
    ∑ i ∈ range weights.length, weights.getD i 0 = weights.sum := by
  induction weights using List.reverseRecOn with
  | nil => rfl
  | append_singleton weights weight ih =>
    rw [List.length_append, List.length_singleton, sum_range_succ, List.sum_append, List.sum_singleton]
    congr 1
    · rw [← ih]
      refine sum_congr rfl fun i member => ?_
      rw [List.getD_eq_getElem?_getD, List.getElem?_append_left (mem_range.mp member),
        ← List.getD_eq_getElem?_getD]
    · simp

theorem Steady.sum_effective (steady : Steady weights backends) :
    (backends.map CoBackendWRR.effectiveWeight).sum = (weights.sum : Nat) := by
  rw [steady.effective, Nat.cast_list_sum]

theorem credit_of_getElem {self : CoBackendStrategyWRR} {i : Nat} {backend : CoBackendWRR}
    (here : self.backends[i]? = some backend) : self.credit i = backend.currentWeight := by
  simp [credit, here]

/-- A call on steady backends is one round: it returns a richest backend after
    raising everyone, and takes the total weight off that one. -/
theorem getBackend_round {self : CoBackendStrategyWRR} (now : Nat → Nat) (weighted : self.weighted = true)
    (steady : Steady weights self.backends) (two : 2 ≤ weights.length)
    (low : ∀ i < weights.length, -(weights.sum : Int) ≤ self.credit i)
    (high : ∀ i < weights.length, self.credit i + weights.getD i 0 < 2 ^ 31)
    (total_lt : 2 * weights.sum < 2 ^ 31) :
    ∃ index < weights.length, (self.getBackend now).1 = some index ∧
      (self.getBackend now).2.weighted = true ∧
      (self.getBackend now).2.backends.map forget = self.backends.map forget ∧
      (∀ i < weights.length, (self.getBackend now).2.credit i =
        self.credit i + weights.getD i 0 - if index = i then (weights.sum : Int) else 0) ∧
      ∀ i < weights.length,
        self.credit i + weights.getD i 0 ≤ self.credit index + weights.getD index 0 := by
  have length := steady.length
  have at_index : ∀ i < weights.length, ∃ backend, self.backends[i]? = some backend ∧
      raised backend = self.credit i + weights.getD i 0 := by
    intro i bound
    obtain ⟨backend, here, _, effective⟩ := steady.get bound
    exact ⟨backend, here, by rw [raised, effective, credit_of_getElem here]⟩
  have by_index : ∀ backend ∈ self.backends, ∃ i < weights.length,
      backend.effectiveWeight = weights.getD i 0 ∧ raised backend = self.credit i + weights.getD i 0 := by
    intro backend member
    obtain ⟨i, inside, rfl⟩ := List.mem_iff_getElem.mp member
    obtain ⟨_, here, _, effective⟩ := steady.get (length ▸ inside)
    rw [List.getElem?_eq_getElem inside, Option.some.injEq] at here
    subst here
    exact ⟨i, length ▸ inside, effective, by
      rw [raised, effective, credit_of_getElem (List.getElem?_eq_getElem inside)]⟩
  -- every sum of the pass is inside of `int32_t`
  have selected : Selected self.backends (select now self.backends) := by
    refine selected_select now self.backends steady.up ?_ ?_ ?_
    · intro backend member
      obtain ⟨i, _, effective, _⟩ := by_index backend member
      omega
    · intro backend member
      obtain ⟨i, bound, _, raised⟩ := by_index backend member
      have := low i bound
      have := high i bound
      omega
    · rw [steady.sum_effective]
      omega
  have nonempty : self.backends ≠ [] := by
    intro empty
    rw [empty, List.length_nil] at length
    omega
  have best := selected.best
  cases found : (select now self.backends).best with
  | none =>
    rw [found] at best
    exact absurd best nonempty
  | some pair =>
    obtain ⟨index, current⟩ := pair
    rw [found] at best
    obtain ⟨holder, richest⟩ := best
    have inside : index < weights.length := by
      by_contra outside
      simp [List.getElem?_eq_none (length.trans_le (Nat.le_of_not_lt outside))] at holder
    obtain ⟨winner, here, winnerRaised⟩ := at_index index inside
    simp only [here, Option.map_some, Option.some.injEq] at holder
    have call : self.getBackend now = (some index, { self with
        backends := (self.backends.map raise).modify index (payTotal weights.sum) }) := by
      unfold getBackend chooseOneWeight
      rw [if_neg (by simpa using nonempty), if_pos weighted]
      simp only [found, selected.passed, selected.total, steady.sum_effective]
    have paid : int32 (current - weights.sum) = current - weights.sum := by
      have := low index inside
      have := high index inside
      exact int32_of_bounds (by omega) (by omega)
    rw [call]
    refine ⟨index, inside, rfl, weighted, ?_, ?_, ?_⟩
    · apply List.ext_getElem?
      intro i
      simp only [List.getElem?_map, List.getElem?_modify]
      cases self.backends[i]? with
      | none => rfl
      | some backend =>
        simp only [Option.map_some]
        split <;> rfl
    · intro i bound
      obtain ⟨backend, backendHere, backendRaised⟩ := at_index i bound
      simp only [credit, List.getElem?_modify, List.getElem?_map, backendHere, Option.map_some,
        Option.getD_some] at backendRaised ⊢
      rw [← backendRaised]
      split
      · rename_i same
        subst same
        obtain rfl : winner = backend := Option.some.inj (here.symm.trans backendHere)
        simp only [Option.map_eq_map, Option.map_some, Option.getD_some, payTotal, raise, holder, paid]
      · simp [raise]
    · intro i bound
      obtain ⟨backend, backendHere, backendRaised⟩ := at_index i bound
      rw [← backendRaised, ← winnerRaised, holder]
      exact richest backend (List.mem_of_getElem? backendHere)

/-! ## All calls -/

variable {start : CoBackendStrategyWRR}

/-- Every prefix of a run from all-zero credits is a smooth schedule, and leaves
    the backends steady. -/
theorem smoothRun (clock : Nat → Nat → Nat) (weighted : start.weighted = true)
    (steady : Steady weights start.backends) (zero : ∀ i < weights.length, start.credit i = 0)
    (positive : ∀ i < weights.length, 0 < weights.getD i 0) (two : 2 ≤ weights.length)
    (small : weights.length * weights.sum < 2 ^ 31) (calls : Nat) :
    Lib.SmoothRun (range weights.length) (fun i => weights.getD i 0)
        (fun t => (afterCalls start clock t).credit) (fun t => (chosen start clock t).getD 0) calls ∧
      (afterCalls start clock calls).weighted = true ∧
      (afterCalls start clock calls).backends.map forget = start.backends.map forget ∧
      ∀ t < calls, (chosen start clock t).isSome := by
  induction calls with
  | zero => exact ⟨.zero (by simpa [afterCalls] using zero), weighted, rfl, by simp⟩
  | succ calls ih =>
    obtain ⟨run, stillWeighted, same, returned⟩ := ih
    have positive' : ∀ j ∈ range weights.length, 0 < weights.getD j 0 := by simpa using positive
    have total := sum_range_getD weights
    have twice : 2 * weights.sum ≤ weights.length * weights.sum := Nat.mul_le_mul_right _ two
    obtain ⟨index, inside, result, nextWeighted, nextSame, nextCredit, maximal⟩ :=
      getBackend_round (clock calls) stillWeighted (steady.of_forget same) two
        (fun i bound => by
          have := run.neg_total_lt_credit positive' le_rfl (mem_range.mpr bound)
          rw [total] at this
          omega)
        (fun i bound => by
          have := run.credit_add_weight_le positive' le_rfl (mem_range.mpr bound)
          rw [total, card_range] at this
          omega)
        (by omega)
    have winner : (chosen start clock calls).getD 0 = index := by simp [chosen, result]
    refine ⟨run.extend ?_ ?_ ?_, nextWeighted, nextSame.trans same, ?_⟩
    · rw [winner]
      exact mem_range.mpr inside
    · intro i member
      rw [winner, total]
      exact nextCredit i (mem_range.mp member)
    · intro i member
      rw [winner]
      exact maximal i (mem_range.mp member)
    · intro t bound
      rcases Nat.lt_succ_iff_lt_or_eq.mp bound with earlier | rfl
      · exact returned t earlier
      · simp [chosen, result]

/-- A call decides by the credits alone. -/
theorem chosen_of_credit {first second : CoBackendStrategyWRR} (now now' : Nat → Nat)
    (steady : Steady weights first.backends) (weighted : first.weighted = true)
    (weighted' : second.weighted = true)
    (same : second.backends.map forget = first.backends.map forget)
    (credits : ∀ i < weights.length, first.credit i = second.credit i) :
    (first.getBackend now).1 = (second.getBackend now').1 := by
  have steady' := steady.of_forget same
  have backends : first.backends = second.backends := by
    apply List.ext_getElem?
    intro i
    by_cases bound : i < weights.length
    · obtain ⟨left, leftHere, _⟩ := steady.get bound
      obtain ⟨right, rightHere, _⟩ := steady'.get bound
      have forgotten := congrArg (fun list => list[i]?) same
      have credit := credits i bound
      simp only [List.getElem?_map, leftHere, rightHere, Option.map_some, Option.some.injEq] at forgotten
      rw [credit_of_getElem leftHere, credit_of_getElem rightHere] at credit
      rw [leftHere, rightHere]
      obtain ⟨_, _, _, _⟩ := left
      obtain ⟨_, _, _, _⟩ := right
      simp_all [forget]
    · rw [List.getElem?_eq_none (by rw [steady.length]; omega),
        List.getElem?_eq_none (by rw [steady'.length]; omega)]
  unfold getBackend chooseOneWeight
  rw [weighted, weighted', ← backends, select_now now now' _ steady.up]
  split
  · rfl
  · simp only [if_true]
    split <;> rfl

end

/-! ## From the configuration -/

/-- The strategy as `CoUpstream::init` sets it up. -/
def configured (confUpstream : CoConfUpstream) (servers : List CoConfUpstreamServer) :
    CoBackendStrategyWRR :=
  (servers.foldl (fun (self : CoBackendStrategyWRR) server => self.addBackend confUpstream server)
    {}).init

/-- The weight of a server after `add_backend` raised it to at least one. -/
def serverWeight (server : CoConfUpstreamServer) : Nat := (max 1 server.weight).toNat

theorem newBackend_effective (confUpstream : CoConfUpstream) (server : CoConfUpstreamServer) :
    (newBackend confUpstream server).effectiveWeight = (serverWeight server : Nat) := by
  unfold newBackend serverWeight
  split <;> simp only <;> omega

theorem backends_foldl (confUpstream : CoConfUpstream) (servers : List CoConfUpstreamServer)
    (self : CoBackendStrategyWRR) :
    (servers.foldl (fun (self : CoBackendStrategyWRR) server => self.addBackend confUpstream server)
      self).backends = self.backends ++ servers.map (newBackend confUpstream) := by
  induction servers generalizing self with
  | nil => simp
  | cons server servers ih =>
    rw [List.foldl_cons, ih]
    simp [addBackend]

variable (confUpstream : CoConfUpstream) (servers : List CoConfUpstreamServer)

theorem configured_backends :
    (configured confUpstream servers).backends = servers.map (newBackend confUpstream) := by
  simp [configured, init, backends_foldl]

theorem steady_configured :
    Steady (servers.map serverWeight) (configured confUpstream servers).backends := by
  rw [configured_backends]
  refine ⟨?_, ?_⟩
  · intro backend member
    obtain ⟨server, _, rfl⟩ := List.mem_map.mp member
    exact ⟨rfl, rfl⟩
  · simp [Function.comp_def, newBackend_effective]

theorem credit_configured (i : Nat) : (configured confUpstream servers).credit i = 0 := by
  rw [credit, configured_backends, List.getElem?_map]
  cases servers[i]? <;> rfl

theorem serverWeight_pos (server : CoConfUpstreamServer) : 0 < serverWeight server := by
  unfold serverWeight
  omega

/-- With all `m_weight` zero, two or more servers are always "weighted". -/
theorem weighted_configured (two : 2 ≤ servers.length) (small : servers.length < 2 ^ 31) :
    (configured confUpstream servers).weighted = true := by
  have unset : ∀ (backends : List CoBackendWRR), (∀ backend ∈ backends, backend.weight = 0) →
      backends.foldl (fun total backend => int32 (total + backend.weight)) 0 = 0 := by
    intro backends zero
    induction backends with
    | nil => rfl
    | cons backend backends ih =>
      rw [List.foldl_cons, zero backend List.mem_cons_self, Int.add_zero,
        int32_of_bounds (by decide) (by decide)]
      exact ih fun other member => zero other (List.mem_cons_of_mem _ member)
  have size : int32 (servers.length : Int) = servers.length := int32_of_bounds (by omega) (by omega)
  unfold configured init
  simp only [backends_foldl, List.nil_append, List.length_map, size]
  rw [unset _ (by simp [newBackend]), if_neg (by omega), decide_eq_true_eq]
  omega

theorem length_le_sum (weights : List Nat) (positive : ∀ weight ∈ weights, 0 < weight) :
    weights.length ≤ weights.sum := by
  induction weights with
  | nil => exact Nat.le_refl _
  | cons weight weights ih =>
    have := positive weight List.mem_cons_self
    have := ih fun other member => positive other (List.mem_cons_of_mem _ member)
    rw [List.length_cons, List.sum_cons]
    omega

/-- Smooth weighted round robin is exactly proportional: every window of as many
    calls as the weights sum to returns each backend as often as its weight says,
    and after every whole number of such cycles all credits are zero. -/
theorem getBackend_proportional (clock : Nat → Nat → Nat) (two : 2 ≤ servers.length)
    (small : servers.length * (servers.map serverWeight).sum < 2 ^ 31) :
    (∀ call i server, servers[i]? = some server →
      ((List.range (servers.map serverWeight).sum).map fun k =>
        chosen (configured confUpstream servers) clock (call + k)).count (some i) =
          serverWeight server) ∧
    ∀ cycles, ∀ backend ∈ (afterCalls (configured confUpstream servers) clock
      (cycles * (servers.map serverWeight).sum)).backends, backend.currentWeight = 0 := by
  have many : servers.length ≤ (servers.map serverWeight).sum := by
    simpa using length_le_sum (servers.map serverWeight) (by simpa using fun s _ => serverWeight_pos s)
  have positive : ∀ i < (servers.map serverWeight).length,
      0 < (servers.map serverWeight).getD i 0 := by
    intro i bound
    rw [List.length_map] at bound
    simp [bound, serverWeight_pos]
  have positive' : ∀ i ∈ range (servers.map serverWeight).length,
      0 < (servers.map serverWeight).getD i 0 := by simpa using positive
  have steady := steady_configured confUpstream servers
  have total := sum_range_getD (servers.map serverWeight)
  have runs := smoothRun clock
    (weighted_configured confUpstream servers two (by nlinarith)) steady
    (fun i _ => credit_configured confUpstream servers i) positive (by simpa using two)
    (by simpa using small)
  have decided : ∀ s t, (∀ j ∈ range (servers.map serverWeight).length,
      (afterCalls (configured confUpstream servers) clock s).credit j =
        (afterCalls (configured confUpstream servers) clock t).credit j) →
      (chosen (configured confUpstream servers) clock s).getD 0 =
        (chosen (configured confUpstream servers) clock t).getD 0 := by
    intro s t same
    obtain ⟨_, weightedS, sameS, _⟩ := runs s
    obtain ⟨_, weightedT, sameT, _⟩ := runs t
    exact congrArg (·.getD 0) (chosen_of_credit _ _ (steady.of_forget sameS) weightedS weightedT
      (sameT.trans sameS.symm) fun i bound => same i (mem_range.mpr bound))
  refine ⟨?_, ?_⟩
  · intro call i server here
    have bound : i < (servers.map serverWeight).length := by
      rw [List.length_map]
      exact (List.getElem?_eq_some_iff.mp here).1
    obtain ⟨run, _, _, returned⟩ := runs (call + (servers.map serverWeight).sum)
    have window := run.wins_window positive' (fun s _ t _ => decided s t) (by rw [total])
      (mem_range.mpr bound)
    rw [total, Lib.wins_add] at window
    have answers : ((List.range (servers.map serverWeight).sum).map fun k =>
        chosen (configured confUpstream servers) clock (call + k)) =
        ((List.range (servers.map serverWeight).sum).map fun k =>
          (chosen (configured confUpstream servers) clock (call + k)).getD 0).map some := by
      rw [List.map_map]
      refine List.map_congr_left fun k member => ?_
      obtain ⟨index, result⟩ := Option.isSome_iff_exists.mp
        (returned (call + k) (by have := List.mem_range.mp member; omega))
      simp [result]
    rw [answers, List.count_map_of_injective _ some (Option.some_injective _),
      Nat.add_left_cancel window]
    simp [here]
  · intro cycles backend member
    obtain ⟨run, _, same, _⟩ := runs (cycles * (servers.map serverWeight).sum)
    obtain ⟨i, inside, rfl⟩ := List.mem_iff_getElem.mp member
    have bound : i < (servers.map serverWeight).length := (steady.of_forget same).length ▸ inside
    have zero := run.credit_cycle cycles positive' (by rw [total])
      (mem_range.mpr bound)
    rwa [total, credit_of_getElem (List.getElem?_eq_getElem inside)] at zero

/-- Weights `3` and `1`, one of them from a configured zero. -/
theorem getBackend_proportional_three_one :
    2 ≤ [({ serverkey := [], weight := 3 } : CoConfUpstreamServer), { serverkey := [] }].length ∧
    ((List.range 4).map fun k => chosen (configured {} [{ serverkey := [], weight := 3 },
      { serverkey := [] }]) (fun _ _ => 0) (5 + k)).count (some 0) = 3 :=
  ⟨by decide, (getBackend_proportional {} [{ serverkey := [], weight := 3 }, { serverkey := [] }]
    (fun _ _ => 0) (by decide) (by decide)).1 5 0 { serverkey := [], weight := 3 } rfl⟩

end CoBackendStrategyWRR

end CoServer
