import CoServer.Upstream.BackendHealth
import CoServer.Upstream.WeightedRoundRobin
import Mathlib.Data.List.GetD

/-! # Selections among backends that fail

Calls of `get_backend` and `comm_failed` in any order.  No call changes the weights
of a backend: `m_weight` is zero, so a failure takes nothing off `m_effectiveWeight`
and a selection has nothing to restore. -/

namespace CoServer

namespace CoBackendStrategyWRR

open Finset

/-- A call of `get_backend`, whose `i`-th reading of the clock is `now i`, or a failure
    of the backend at an index of `m_backends`. -/
inductive BackendCall where
  | getBackend (now : Nat → Nat)
  | commFailed (index timestamp : Nat)

def step (self : CoBackendStrategyWRR) : BackendCall → CoBackendStrategyWRR
  | .getBackend now => (self.getBackend now).2
  | .commFailed index timestamp =>
    { self with backends := self.backends.modify index (·.commFailed timestamp) }

def run (self : CoBackendStrategyWRR) (calls : List BackendCall) : CoBackendStrategyWRR :=
  calls.foldl step self

/-! ## What no call changes -/

/-- The weights of a backend and the limits that `comm_failed` checks. -/
structure Settings where
  weight : Int
  effectiveWeight : Int
  failCheck : Bool
  confFailNum : Int

def settings (backend : CoBackendWRR) : Settings :=
  ⟨backend.weight, backend.effectiveWeight, backend.failCheck, backend.confFailNum⟩

/-- What a backend brings to a selection, whether it is up or down. -/
def standing (backend : CoBackendWRR) : Settings × Int := (settings backend, backend.currentWeight)

/-- No configured weight, and an effective weight that an `int32_t` holds. -/
def Unset (backend : CoBackendWRR) : Prop :=
  backend.weight = 0 ∧ 0 ≤ backend.effectiveWeight ∧ backend.effectiveWeight < 2 ^ 31

section
variable {backend : CoBackendWRR} {backends : List CoBackendWRR} {timestamp : Nat} {now : Nat → Nat}

theorem standing_avaliable (backend : CoBackendWRR) (timestamp : Nat) :
    standing (backend.avaliable timestamp).2 = standing backend := by
  obtain same | back := backend.avaliable_cases timestamp
  · rw [same]
  · rw [back]
    rfl

/-- A failure lowers an effective weight by `0 / m_confFailNum`. -/
theorem lowered_of_unset (unset : Unset backend) : backend.lowered = backend.effectiveWeight := by
  obtain ⟨zero, nonneg, small⟩ := unset
  unfold CoBackendWRR.lowered
  rw [zero, Int.zero_tdiv, Int.sub_zero, int32_of_bounds (by omega) small]
  exact if_neg (by omega)

theorem standing_commFailed (unset : Unset backend) (timestamp : Nat) :
    standing (backend.commFailed timestamp) = standing backend := by
  unfold CoBackendWRR.commFailed
  split
  · rfl
  · have kept : ∀ backend : CoBackendWRR,
        standing { backend with toCoBackend := backend.toCoBackend.commFailed timestamp } =
          standing backend := by
      intro backend
      unfold CoBackend.commFailed standing settings
      dsimp only
      repeat' split
      all_goals rfl
    dsimp only
    split
    · rw [lowered_of_unset unset]
      exact kept _
    · exact kept _

theorem settings_visit (selection : Selection) (unset : Unset backend) (timestamp : Nat) :
    ∃ after, (selection.visit timestamp backend).passed = selection.passed ++ [after] ∧
      settings after = settings backend := by
  have kept := congrArg Prod.fst (standing_avaliable backend timestamp)
  unfold Selection.visit
  cases asked : backend.avaliable timestamp with
  | mk up backend' =>
    rw [asked] at kept
    have weight : backend'.weight = 0 := (congrArg Settings.weight kept).trans unset.1
    have effective : backend'.effectiveWeight = backend.effectiveWeight :=
      congrArg Settings.effectiveWeight kept
    have full : ¬backend'.effectiveWeight < backend'.weight := by
      rw [weight, effective]
      exact not_lt.2 unset.2.1
    cases up with
    | false => exact ⟨backend', rfl, kept⟩
    | true =>
      simp only [Bool.not_true, Bool.false_eq_true, if_false, if_neg full]
      exact ⟨_, rfl, kept⟩

theorem settings_select (unset : ∀ backend ∈ backends, Unset backend) (now : Nat → Nat) :
    (select now backends).passed.map settings = backends.map settings := by
  induction backends using List.reverseRecOn with
  | nil => rfl
  | append_singleton backends backend ih =>
    simp only [List.mem_append, List.mem_singleton] at unset
    have before := ih fun other member => unset other (.inl member)
    unfold select at before ⊢
    rw [List.foldl_append, List.foldl_cons, List.foldl_nil]
    obtain ⟨after, passed, kept⟩ := settings_visit
      (backends.foldl (fun selection backend => selection.visit (now selection.passed.length) backend) {})
      (unset backend (.inr rfl)) (now _)
    rw [passed, List.map_append, List.map_append, before, List.map_singleton, List.map_singleton, kept]

end

/-! Changing one backend, but not what is read of it. -/

theorem map_modify_of_kept {α β : Type*} (read : α → β) {backends : List α} (index : Nat) {change : α → α}
    (kept : ∀ backend ∈ backends, read (change backend) = read backend) :
    (backends.modify index change).map read = backends.map read := by
  apply List.ext_getElem?
  intro i
  simp only [List.getElem?_map, List.getElem?_modify]
  cases here : backends[i]? with
  | none => rfl
  | some backend =>
    simp only [Option.map_some]
    split
    · exact congrArg some (kept backend (List.mem_of_getElem? here))
    · rfl

theorem map_set_of_kept {α β : Type*} (read : α → β) {backends : List α} {index : Nat} {backend changed : α}
    (here : backends[index]? = some backend) (kept : read changed = read backend) :
    (backends.set index changed).map read = backends.map read := by
  obtain ⟨inside, rfl⟩ := List.getElem?_eq_some_iff.1 here
  rw [List.map_set, kept, ← List.getElem_map read (h := by rwa [List.length_map]), List.set_getElem_self]

section
variable {self : CoBackendStrategyWRR}

/-- `choose_one` asks the backends in turn, and changes none but the one it returns. -/
theorem chooseOneFrom_backends (now : Nat → Nat) (turns i : Nat) (self : CoBackendStrategyWRR) :
    (chooseOneFrom now turns i self).2.backends.map standing = self.backends.map standing := by
  induction turns generalizing i self with
  | zero => rfl
  | succ turns ih =>
    unfold chooseOneFrom
    dsimp only
    split
    · rfl
    · rename_i backend here
      have one : (self.backends.set (sizeT (self.curBackendsIndex + 1) % self.backends.length)
          (backend.avaliable (now i)).2).map standing = self.backends.map standing := by
        exact map_set_of_kept standing here (standing_avaliable backend (now i))
      split
      · exact one
      · exact (ih (i + 1) _).trans one

theorem settings_chooseOneWeight (unset : ∀ backend ∈ self.backends, Unset backend) (now : Nat → Nat) :
    (self.chooseOneWeight now).2.backends.map settings = self.backends.map settings := by
  have kept := settings_select unset now
  unfold chooseOneWeight
  dsimp only
  split
  · exact kept
  · rename_i index _ _
    have paid : ∀ backend ∈ (select now self.backends).passed,
        settings (payTotal (select now self.backends).total backend) = settings backend := fun _ _ => rfl
    exact (map_modify_of_kept settings index paid).trans kept

theorem settings_chooseOne (self : CoBackendStrategyWRR) (now : Nat → Nat) :
    (self.chooseOne now).2.backends.map settings = self.backends.map settings := by
  have kept := congrArg (List.map Prod.fst) (chooseOneFrom_backends now self.backends.length 0 self)
  rw [List.map_map, List.map_map] at kept
  exact kept

theorem settings_step (unset : ∀ backend ∈ self.backends, Unset backend) (call : BackendCall) :
    (self.step call).backends.map settings = self.backends.map settings := by
  cases call with
  | getBackend now =>
    change (self.getBackend now).2.backends.map settings = _
    unfold getBackend
    split
    · rfl
    · split
      · exact settings_chooseOneWeight unset now
      · exact settings_chooseOne self now
  | commFailed index timestamp =>
    exact map_modify_of_kept settings index fun backend member =>
      congrArg Prod.fst (standing_commFailed (unset backend member) timestamp)

theorem unset_of_settings {backends backends' : List CoBackendWRR}
    (unset : ∀ backend ∈ backends, Unset backend) (same : backends'.map settings = backends.map settings) :
    ∀ backend ∈ backends', Unset backend := by
  intro backend member
  have image : settings backend ∈ backends.map settings := same ▸ List.mem_map_of_mem member
  obtain ⟨twin, twinMember, equal⟩ := List.mem_map.1 image
  obtain ⟨weight, nonneg, small⟩ := unset twin twinMember
  have effective : twin.effectiveWeight = backend.effectiveWeight := congrArg Settings.effectiveWeight equal
  rw [effective] at nonneg small
  exact ⟨(congrArg Settings.weight equal).symm.trans weight, nonneg, small⟩

theorem settings_run (unset : ∀ backend ∈ self.backends, Unset backend) (calls : List BackendCall) :
    (self.run calls).backends.map settings = self.backends.map settings := by
  induction calls generalizing self with
  | nil => rfl
  | cons call calls ih =>
    have one := settings_step unset call
    exact (ih (unset_of_settings unset one)).trans one

/-! ## The weights that were configured -/

section
variable {confUpstream : CoConfUpstream} {servers : List CoConfUpstreamServer}

theorem unset_configured (range : ∀ server ∈ servers, server.weight < 2 ^ 31) :
    ∀ backend ∈ (configured confUpstream servers).backends, Unset backend := by
  rw [configured_backends]
  intro backend member
  obtain ⟨server, inside, rfl⟩ := List.mem_map.1 member
  have small := range server inside
  refine ⟨rfl, ?_, ?_⟩
  · rw [newBackend_effective]
    omega
  · rw [newBackend_effective]
    unfold serverWeight
    omega

/-- A backend of a reachable state still has the settings that `add_backend` gave it. -/
theorem settings_reached (range : ∀ server ∈ servers, server.weight < 2 ^ 31) (calls : List BackendCall)
    {i : Nat} {server : CoConfUpstreamServer} {backend : CoBackendWRR} (configuredAt : servers[i]? = some server)
    (here : ((configured confUpstream servers).run calls).backends[i]? = some backend) :
    settings backend = settings (newBackend confUpstream server) := by
  have unset := @unset_configured confUpstream servers range
  have same := congrArg (fun list => list[i]?) (settings_run unset calls)
  simp only [List.getElem?_map, configured_backends, configuredAt, here, Option.map_some] at same
  exact Option.some.inj same

end

/-- A failure takes `w / n` off the effective weight. -/
def FailureLowers (server : CoConfUpstreamServer) (backend : CoBackendWRR) : Prop :=
  ∀ timestamp, (backend.commFailed timestamp).effectiveWeight =
    max 0 (backend.effectiveWeight - serverWeight server / backend.confFailNum)

/-- A selection that a backend takes part in gives one back, up to `w`. -/
def SelectionRestores (server : CoConfUpstreamServer) (self : CoBackendStrategyWRR) (i : Nat)
    (backend : CoBackendWRR) : Prop :=
  ∀ now, (backend.avaliable (now i)).1 = true → ∀ after,
    (self.chooseOneWeight now).2.backends[i]? = some after →
    after.effectiveWeight = min (serverWeight server : Int) (backend.effectiveWeight + 1)

/-- Every backend with failure checks of every reachable state. -/
def Reached (confUpstream : CoConfUpstream) (servers : List CoConfUpstreamServer)
    (holds : CoBackendStrategyWRR → Nat → CoConfUpstreamServer → CoBackendWRR → Prop) : Prop :=
  ∀ calls i server backend, servers[i]? = some server →
    ((configured confUpstream servers).run calls).backends[i]? = some backend →
    backend.failCheck = true → 0 < backend.confFailNum →
    holds ((configured confUpstream servers).run calls) i server backend

/-- Failures lower the share of a backend, selections restore it. -/
structure WeightLaw (confUpstream : CoConfUpstream) (servers : List CoConfUpstreamServer) : Prop where
  lowers : Reached confUpstream servers fun _ _ server backend => FailureLowers server backend
  restores : Reached confUpstream servers fun self i server backend => SelectionRestores server self i backend
  between : Reached confUpstream servers fun _ _ server backend =>
    0 ≤ backend.effectiveWeight ∧ backend.effectiveWeight ≤ serverWeight server
  total : (configured confUpstream servers).totalWeight = (servers.map serverWeight).sum

section
variable {confUpstream : CoConfUpstream} {servers : List CoConfUpstreamServer}

/-- In every reachable state a backend has its full weight, which no failure changes. -/
theorem effective_reached (range : ∀ server ∈ servers, server.weight < 2 ^ 31) (calls : List BackendCall)
    {i : Nat} {server : CoConfUpstreamServer} {backend : CoBackendWRR} (configuredAt : servers[i]? = some server)
    (here : ((configured confUpstream servers).run calls).backends[i]? = some backend) :
    backend.effectiveWeight = serverWeight server ∧
      ∀ timestamp, (backend.commFailed timestamp).effectiveWeight = serverWeight server := by
  have kept := settings_reached range calls configuredAt here
  have full : backend.effectiveWeight = serverWeight server :=
    (congrArg Settings.effectiveWeight kept).trans (newBackend_effective confUpstream server)
  have unset : Unset backend := unset_of_settings (unset_configured range)
    (settings_run (unset_configured range) calls) backend (List.mem_of_getElem? here)
  exact ⟨full, fun timestamp =>
    (congrArg Settings.effectiveWeight (congrArg Prod.fst (standing_commFailed unset timestamp))).trans full⟩

theorem restores_reached (range : ∀ server ∈ servers, server.weight < 2 ^ 31) :
    Reached confUpstream servers fun self i server backend => SelectionRestores server self i backend := by
  intro calls i server backend configuredAt here _ _ now _ after selected
  have start := @unset_configured confUpstream servers range
  have unset := unset_of_settings start (settings_run start calls)
  have same := congrArg (fun list => list[i]?) (settings_chooseOneWeight unset now)
  simp only [List.getElem?_map, here, selected, Option.map_some, Option.some.injEq] at same
  have full := (effective_reached range calls configuredAt here).1
  have kept : after.effectiveWeight = backend.effectiveWeight := congrArg Settings.effectiveWeight same
  omega

theorem between_reached (range : ∀ server ∈ servers, server.weight < 2 ^ 31) :
    Reached confUpstream servers fun _ _ server backend =>
      0 ≤ backend.effectiveWeight ∧ backend.effectiveWeight ≤ serverWeight server := by
  intro calls i server backend configuredAt here _ _
  have full := (effective_reached range calls configuredAt here).1
  omega

/-- `init` sums the `m_weight` values, and nobody has set them. -/
theorem totalWeight_configured : (configured confUpstream servers).totalWeight = 0 := by
  unfold configured init
  dsimp only
  rw [backends_foldl, List.nil_append]
  induction servers with
  | nil => rfl
  | cons server servers ih =>
    have unset : (newBackend confUpstream server).weight = 0 := rfl
    have zero : int32 (0 + 0) = 0 := int32_of_bounds (by decide) (by decide)
    rw [List.map_cons, List.foldl_cons, unset, zero]
    exact ih

end

/-- The law fails for every upstream that has a server, for its total.  A failure
    lowers a weight as it should only where it should not lower it at all; the other parts hold. -/
theorem weightLaw_iff (confUpstream : CoConfUpstream) (servers : List CoConfUpstreamServer)
    (range : ∀ server ∈ servers, server.weight < 2 ^ 31) :
    (WeightLaw confUpstream servers ↔ servers = []) ∧
    (Reached confUpstream servers (fun _ _ server backend => FailureLowers server backend) ↔
      Reached confUpstream servers fun _ _ server backend => serverWeight server < backend.confFailNum) ∧
    Reached confUpstream servers (fun self i server backend => SelectionRestores server self i backend) ∧
    Reached confUpstream servers fun _ _ server backend =>
      0 ≤ backend.effectiveWeight ∧ backend.effectiveWeight ≤ serverWeight server := by
  refine ⟨⟨?_, ?_⟩, ⟨?_, ?_⟩, restores_reached range, between_reached range⟩
  · intro law
    have total := law.total
    rw [totalWeight_configured] at total
    have many := length_le_sum (servers.map serverWeight)
      (by simpa using fun server _ => serverWeight_pos server)
    rw [List.length_map] at many
    exact List.length_eq_zero_iff.1 (by omega)
  · rintro rfl
    refine ⟨?_, ?_, ?_, totalWeight_configured⟩ <;> intro _ _ _ _ configuredAt <;> cases configuredAt
  · intro lowers calls i server backend configuredAt here checked limit
    have fails := lowers calls i server backend configuredAt here checked limit 0
    obtain ⟨full, kept⟩ := effective_reached range calls configuredAt here
    rw [kept, full] at fails
    by_contra many
    have positive := serverWeight_pos server
    have part : 1 ≤ (serverWeight server : Int) / backend.confFailNum :=
      Int.le_ediv_of_mul_le limit (by omega)
    omega
  · intro few calls i server backend configuredAt here checked limit timestamp
    obtain ⟨full, kept⟩ := effective_reached range calls configuredAt here
    rw [kept, full, Int.ediv_eq_zero_of_lt (by omega) (few calls i server backend configuredAt here checked limit)]
    omega

/-- Weights `3` and `1` with a limit of five failures: no failure is to lower them, and none does. -/
theorem weightLaw_iff_three_one : ¬ WeightLaw { failMaxnum := 5 }
      [{ serverkey := [], weight := 3 }, { serverkey := [] }] ∧
    Reached { failMaxnum := 5 } [{ serverkey := [], weight := 3 }, { serverkey := [] }]
      fun _ _ server backend => 0 ≤ backend.effectiveWeight ∧ backend.effectiveWeight ≤ serverWeight server := by
  have law := weightLaw_iff { failMaxnum := 5 } [{ serverkey := [], weight := 3 }, { serverkey := [] }]
    (by decide)
  exact ⟨fun holds => absurd (law.1.1 holds) (List.cons_ne_nil _ _), law.2.2.2⟩

/-- A weight of three is not lowered by the first of two failures. -/
theorem weightLaw_fails : ¬ ∀ (confUpstream : CoConfUpstream) (servers : List CoConfUpstreamServer),
    (∀ server ∈ servers, server.weight < 2 ^ 31) → WeightLaw confUpstream servers := by
  intro holds
  have law := holds { failMaxnum := 2 } [{ serverkey := [], weight := 3 }] (by decide)
  have lowered := law.lowers [] 0 { serverkey := [], weight := 3 }
    (newBackend { failMaxnum := 2 } { serverkey := [], weight := 3 }) rfl rfl rfl (by decide) 1000
  exact absurd lowered (by decide +kernel)

end

/-! ## The credits -/

/-- Balanced credits, over backends with the given weights. -/
structure Fair (weights : List Nat) (strategy : CoBackendStrategyWRR) : Prop where
  unset : ∀ backend ∈ strategy.backends, backend.weight = 0
  effective : strategy.backends.map CoBackendWRR.effectiveWeight = weights.map Nat.cast
  cursor : strategy.curBackendsIndex ≤ strategy.backends.length
  balanced : Lib.Balanced (range weights.length) (weights.sum : Nat) strategy.credit

section
variable {weights : List Nat} {strategy after : CoBackendStrategyWRR}

theorem Fair.congr (fair : Fair weights strategy) (same : after.backends.map standing = strategy.backends.map standing)
    (cursor : after.curBackendsIndex ≤ strategy.backends.length) : Fair weights after where
  unset := by
    intro backend member
    have image : standing backend ∈ strategy.backends.map standing := same ▸ List.mem_map_of_mem member
    obtain ⟨twin, twinMember, equal⟩ := List.mem_map.1 image
    exact (congrArg (·.1.weight) equal).symm.trans (fair.unset twin twinMember)
  effective := by
    have effective := congrArg (List.map (·.1.effectiveWeight)) same
    rw [List.map_map, List.map_map] at effective
    exact effective.trans fair.effective
  cursor := by
    have length := congrArg List.length same
    rw [List.length_map, List.length_map] at length
    omega
  balanced := by
    refine fair.balanced.congr fun i _ => ?_
    have here := congrArg (fun list => (list[i]?).map Prod.snd) same
    simp only [List.getElem?_map, Option.map_map] at here
    exact congrArg (·.getD 0) here

theorem Fair.length (fair : Fair weights strategy) : strategy.backends.length = weights.length := by
  simpa using congrArg List.length fair.effective

/-- Backend `i`, with its weight and its credit. -/
theorem Fair.get (fair : Fair weights strategy) {i : Nat} (bound : i < weights.length) :
    ∃ backend, strategy.backends[i]? = some backend ∧ backend ∈ strategy.backends ∧
      backend.effectiveWeight = weights.getD i 0 ∧ raised backend = strategy.credit i + weights.getD i 0 := by
  obtain ⟨backend, here, member, effective⟩ := getElem?_of_effective fair.effective bound
  exact ⟨backend, here, member, effective, by rw [raised, effective, credit_of_getElem here]⟩

theorem Fair.getIndex (fair : Fair weights strategy) {backend : CoBackendWRR} (member : backend ∈ strategy.backends) :
    ∃ i < weights.length, strategy.backends[i]? = some backend ∧ backend.effectiveWeight = weights.getD i 0 ∧
      raised backend = strategy.credit i + weights.getD i 0 := by
  obtain ⟨i, inside, rfl⟩ := List.mem_iff_getElem.1 member
  have bound : i < weights.length := fair.length ▸ inside
  obtain ⟨_, here, -, rest⟩ := fair.get bound
  rw [List.getElem?_eq_getElem inside, Option.some.injEq] at here
  subst here
  exact ⟨i, bound, List.getElem?_eq_getElem inside, rest⟩

theorem getD_le_sum (weights : List Nat) (i : Nat) : weights.getD i 0 ≤ weights.sum := by
  by_cases inside : i < weights.length
  · rw [List.getD_eq_getElem _ _ inside]
    exact List.single_le_sum (fun _ _ => Nat.zero_le _) _ (List.getElem_mem inside)
  · rw [List.getD_eq_default _ _ (Nat.le_of_not_lt inside)]
    exact Nat.zero_le _

/-- A credit and a raised credit stay inside of `int32_t`. -/
theorem Fair.bounds (fair : Fair weights strategy) {i : Nat} (bound : i < weights.length) :
    -((weights.length * weights.sum : Nat) : Int) ≤ strategy.credit i - weights.sum ∧
    strategy.credit i + weights.sum ≤ (weights.length * weights.sum : Nat) := by
  have member := mem_range.2 bound
  have low := fair.balanced.neg_le_credit member
  have high := fair.balanced.credit_le member
  rw [card_range] at low high
  rw [Nat.cast_mul]
  constructor <;> linarith

theorem Fair.passed (fair : Fair weights strategy) (small : weights.length * weights.sum < 2 ^ 31)
    (now : Nat → Nat) : Passed now strategy.backends (select now strategy.backends) := by
  refine passed_select now strategy.backends fair.unset ?_ ?_ ?_
  · intro backend member
    obtain ⟨i, -, -, effective, -⟩ := fair.getIndex member
    omega
  · intro backend member
    obtain ⟨i, bound, -, -, credit⟩ := fair.getIndex member
    have := fair.bounds bound
    have := getD_le_sum weights i
    omega
  · rw [fair.effective, ← Nat.cast_list_sum]
    by_cases empty : weights.length = 0
    · rw [List.length_eq_zero_iff.1 empty]
      decide
    · have once : weights.sum ≤ weights.length * weights.sum := Nat.le_mul_of_pos_left _ (by omega)
      omega

/-- The backends that are available when the loop asks them. -/
def present (self : CoBackendStrategyWRR) (now : Nat → Nat) : Finset Nat :=
  {i ∈ range self.backends.length |
    (self.backends[i]?).map (fun backend => (backend.avaliable (now i)).1) = some true}

theorem mem_present {self : CoBackendStrategyWRR} {now : Nat → Nat} {i : Nat} {backend : CoBackendWRR}
    (here : self.backends[i]? = some backend) :
    i ∈ self.present now ↔ (backend.avaliable (now i)).1 = true := by
  rw [present, mem_filter, mem_range, here, Option.map_some, Option.some.injEq]
  exact and_iff_right (List.getElem?_eq_some_iff.1 here).1

/-- The total of a selection is the weight of the backends that are available. -/
theorem Fair.total (fair : Fair weights strategy) (now : Nat → Nat) :
    (strategy.backends.mapIdx fun i => share (now i)).sum =
      ((∑ i ∈ strategy.present now, weights.getD i 0 : Nat) : Int) := by
  have sum := sum_range_getD (strategy.backends.mapIdx fun i => share (now i))
  rw [← sum, List.length_mapIdx, present, sum_filter, Nat.cast_sum]
  refine sum_congr rfl fun i member => ?_
  obtain ⟨backend, here, -, effective, -⟩ := fair.get (fair.length ▸ mem_range.1 member)
  rw [List.getD_eq_getElem?_getD, List.getElem?_mapIdx, here, Option.map_some, Option.map_some, Option.getD_some,
    share, effective]
  simp only [Option.some.injEq]
  split <;> rfl

/-- The credit of a backend that the loop has passed. -/
theorem currentWeight_visited (backend : CoBackendWRR) (timestamp : Nat) :
    (visited timestamp backend).currentWeight =
      backend.currentWeight + share timestamp backend := by
  obtain ⟨-, effective, current⟩ := avaliable_weights backend timestamp
  unfold visited share
  split
  · rw [raise, raised, effective, current]
  · exact (Int.add_zero _).symm

/-- A selection in weighted mode. -/
theorem Fair.chooseOneWeight (fair : Fair weights strategy) (small : weights.length * weights.sum < 2 ^ 31)
    (now : Nat → Nat) :
    Lib.Balanced (range weights.length) (weights.sum : Nat) (strategy.chooseOneWeight now).2.credit ∧
    match (strategy.chooseOneWeight now).1 with
    | none => ∀ (i : Nat) (backend : CoBackendWRR), strategy.backends[i]? = some backend →
      (backend.avaliable (now i)).1 = false
    | some index => ∃ backend, strategy.backends[index]? = some backend ∧
      (backend.avaliable (now index)).1 = true := by
  have pass := fair.passed small now
  have best := pass.best
  unfold CoBackendStrategyWRR.chooseOneWeight
  dsimp only
  cases found : (select now strategy.backends).best with
  | none =>
    rw [found] at best
    -- nobody was available, so nobody's credit changed
    refine ⟨fair.balanced.congr fun i _ => ?_, best⟩
    unfold credit
    rw [pass.passed, List.getElem?_mapIdx]
    cases here : strategy.backends[i]? with
    | none => rfl
    | some backend =>
      rw [Option.map_some, Option.map_some, visited, if_neg (by rw [best i backend here]; decide)]
      rfl
  | some pair =>
    obtain ⟨index, current⟩ := pair
    rw [found] at best
    obtain ⟨⟨holder, holds, up, richest⟩, maximal⟩ := best
    refine ⟨?_, holder, holds, up⟩
    have inside : index < weights.length := fair.length ▸ (List.getElem?_eq_some_iff.1 holds).1
    have total := pass.total.trans (fair.total now)
    have everyone : ∑ i ∈ range weights.length, weights.getD i 0 = weights.sum := sum_range_getD weights
    have here : strategy.present now ⊆ range weights.length := by
      rw [← fair.length]
      exact filter_subset _ _
    have won : index ∈ strategy.present now := (mem_present holds).2 up
    have richest : ∀ i ∈ strategy.present now,
        strategy.credit i + (weights.getD i 0 : Nat) ≤ strategy.credit index + (weights.getD index 0 : Nat) := by
      intro i member
      obtain ⟨backend, at_i, -, -, credit⟩ := fair.get (mem_range.1 (here member))
      obtain ⟨_, at_index, -, -, holderCredit⟩ := fair.get inside
      cases holds.symm.trans at_index
      rw [← credit, ← holderCredit, richest]
      exact maximal i backend at_i ((mem_present at_i).1 member)
    -- one round: everyone who is present gets its weight, and the richest pays for all
    refine fair.balanced.round here (by rw [everyone]) won richest fun i member => ?_
    obtain ⟨backend, at_i, -, effective, -⟩ := fair.get (mem_range.1 member)
    have part : share (now i) backend = if i ∈ strategy.present now then ((weights.getD i 0 : Nat) : Int) else 0 := by
      rw [share, effective]
      exact if_congr (mem_present at_i).symm rfl rfl
    have before : strategy.credit i = backend.currentWeight := credit_of_getElem at_i
    rw [credit, List.getElem?_modify, pass.passed, List.getElem?_mapIdx, at_i, total, ← part, before,
      ← currentWeight_visited]
    split
    · -- the winner pays, and stays inside of `int32_t`
      have bounds := fair.bounds (mem_range.1 member)
      have shares := getD_le_sum weights i
      have paid : ∑ j ∈ strategy.present now, weights.getD j 0 ≤ weights.sum := by
        rw [← everyone]
        exact sum_le_sum_of_subset here
      have exact : int32 ((visited (now i) backend).currentWeight -
            ((∑ j ∈ strategy.present now, weights.getD j 0 : Nat) : Int)) =
          (visited (now i) backend).currentWeight -
            ((∑ j ∈ strategy.present now, weights.getD j 0 : Nat) : Int) := by
        rw [currentWeight_visited, part]
        refine int32_of_bounds ?_ ?_ <;> split <;> omega
      exact exact
    · exact (Int.sub_zero _).symm

/-- The backend that turn `turn` of `choose_one` asks. -/
def asked (self : CoBackendStrategyWRR) (turn : Nat) : Nat :=
  (self.curBackendsIndex + 1 + turn) % self.backends.length

/-- `choose_one` returns the first backend on its way that is available. -/
theorem chooseOneFrom_asks (now : Nat → Nat) (turns i : Nat) (self : CoBackendStrategyWRR)
    (cursor : self.curBackendsIndex ≤ self.backends.length) (few : self.backends.length < 2 ^ 31) :
    (chooseOneFrom now turns i self).2.curBackendsIndex ≤ self.backends.length ∧
    match (chooseOneFrom now turns i self).1 with
    | none => ∀ turn < turns, ∀ backend : CoBackendWRR, self.backends[self.asked turn]? = some backend →
      (backend.avaliable (now (i + turn))).1 = false
    | some index => ∃ turn < turns, index = self.asked turn ∧
      ∃ backend : CoBackendWRR, self.backends[index]? = some backend ∧
        (backend.avaliable (now (i + turn))).1 = true := by
  induction turns generalizing i self with
  | zero => exact ⟨cursor, nofun⟩
  | succ turns ih =>
    have first : sizeT (self.curBackendsIndex + 1) % self.backends.length = self.asked 0 := by
      rw [sizeT_of_lt (by omega)]
      rfl
    unfold chooseOneFrom
    rw [first]
    dsimp only
    cases here : self.backends[self.asked 0]? with
    | none =>
      refine ⟨cursor, fun turn _ backend later => ?_⟩
      rw [asked, List.getElem?_eq_none_iff] at here
      rw [asked] at later
      have := (List.getElem?_eq_some_iff.1 later).1
      have := Nat.mod_lt (self.curBackendsIndex + 1 + 0) (show 0 < self.backends.length by omega)
      omega
    | some backend =>
      dsimp only
      have inside := (List.getElem?_eq_some_iff.1 here).1
      cases up : (backend.avaliable (now i)).1 with
      | true => exact ⟨by simpa using inside.le, 0, Nat.succ_pos _, rfl, backend, here, up⟩
      | false =>
        -- a backend that is not available stays as it is, so the rest of the turns asks the same list
        have same : self.backends.set (self.asked 0) (backend.avaliable (now i)).2 = self.backends := by
          obtain ⟨_, rfl⟩ := List.getElem?_eq_some_iff.1 here
          rw [avaliable_false up, List.set_getElem_self]
        rw [same]
        obtain ⟨cursor', rest⟩ := ih (i + 1) { self with curBackendsIndex := self.asked 0 } inside.le few
        have next : ∀ turn, asked { self with curBackendsIndex := self.asked 0 } turn = self.asked (turn + 1) := by
          intro turn
          simp only [asked]
          rw [Nat.add_assoc, Nat.mod_add_mod]
          congr 1
          omega
        refine ⟨cursor', ?_⟩
        simp only [Bool.false_eq_true, if_false]
        cases result : (chooseOneFrom now turns (i + 1) { self with curBackendsIndex := self.asked 0 }).1 with
        | none =>
          rw [result] at rest
          intro turn bound other at_turn
          cases turn with
          | zero =>
            cases here.symm.trans at_turn
            exact up
          | succ turn =>
            rw [← next] at at_turn
            have down := rest turn (Nat.lt_of_succ_lt_succ bound) other at_turn
            rwa [Nat.add_assoc, Nat.add_comm 1] at down
        | some index =>
          rw [result] at rest
          obtain ⟨turn, bound, chosen, other, at_index, available⟩ := rest
          refine ⟨turn + 1, Nat.succ_lt_succ bound, chosen.trans (next turn), other, at_index, ?_⟩
          rwa [Nat.add_assoc, Nat.add_comm 1] at available

/-- As many turns as there are backends ask every one. -/
theorem exists_asked (self : CoBackendStrategyWRR) {i : Nat} (inside : i < self.backends.length) :
    ∃ turn < self.backends.length, self.asked turn = i := by
  have start := Nat.mod_lt (self.curBackendsIndex + 1) (Nat.zero_lt_of_lt inside)
  refine ⟨(i + self.backends.length - (self.curBackendsIndex + 1) % self.backends.length) %
    self.backends.length, Nat.mod_lt _ (Nat.zero_lt_of_lt inside), ?_⟩
  rw [asked, Nat.add_mod_mod, ← Nat.mod_add_mod]
  have reached : (self.curBackendsIndex + 1) % self.backends.length +
      (i + self.backends.length - (self.curBackendsIndex + 1) % self.backends.length) =
      i + self.backends.length := by omega
  rw [reached, Nat.add_mod_right, Nat.mod_eq_of_lt inside]

/-! ## Calls in any order -/

/-- A weight is at most the total, which an `int32_t` holds. -/
theorem Fair.unsetAll (fair : Fair weights strategy) (small : weights.length * weights.sum < 2 ^ 31) :
    ∀ backend ∈ strategy.backends, Unset backend := by
  intro backend member
  obtain ⟨i, bound, -, effective, -⟩ := fair.getIndex member
  have part := getD_le_sum weights i
  have once : weights.sum ≤ weights.length * weights.sum := Nat.le_mul_of_pos_left _ (by omega)
  exact ⟨fair.unset backend member, by omega, by omega⟩

theorem Fair.getBackend (fair : Fair weights strategy) (small : weights.length * weights.sum < 2 ^ 31)
    (few : weights.length < 2 ^ 31) (now : Nat → Nat) : Fair weights (strategy.getBackend now).2 := by
  have length := fair.length
  unfold CoBackendStrategyWRR.getBackend
  split
  · exact fair
  · split
    · have kept := settings_chooseOneWeight (fair.unsetAll small) now
      have cursor : (strategy.chooseOneWeight now).2.curBackendsIndex = strategy.curBackendsIndex := by
        unfold CoBackendStrategyWRR.chooseOneWeight
        dsimp only
        split <;> rfl
      refine ⟨?_, ?_, ?_, (fair.chooseOneWeight small now).1⟩
      · exact fun backend member => (unset_of_settings (fair.unsetAll small) kept backend member).1
      · have effective := congrArg (List.map Settings.effectiveWeight) kept
        rw [List.map_map, List.map_map] at effective
        exact effective.trans fair.effective
      · have same := congrArg List.length kept
        rw [List.length_map, List.length_map] at same
        rw [cursor, same]
        exact fair.cursor
    · exact fair.congr (chooseOneFrom_backends now _ 0 strategy)
        (chooseOneFrom_asks now _ 0 strategy fair.cursor (by omega)).1

theorem Fair.step (fair : Fair weights strategy) (small : weights.length * weights.sum < 2 ^ 31)
    (few : weights.length < 2 ^ 31) (call : BackendCall) : Fair weights (strategy.step call) := by
  cases call with
  | getBackend now => exact fair.getBackend small few now
  | commFailed index timestamp =>
    refine fair.congr (map_modify_of_kept standing index fun backend member => ?_) fair.cursor
    exact standing_commFailed (fair.unsetAll small backend member) timestamp

theorem Fair.run (fair : Fair weights strategy) (small : weights.length * weights.sum < 2 ^ 31)
    (few : weights.length < 2 ^ 31) (calls : List BackendCall) : Fair weights (strategy.run calls) := by
  induction calls generalizing strategy with
  | nil => exact fair
  | cons call calls ih => exact ih (fair.step small few call)

/-- The answer of `get_backend` at an instant. -/
theorem Fair.answer (fair : Fair weights strategy) (small : weights.length * weights.sum < 2 ^ 31)
    (few : weights.length < 2 ^ 31) (timestamp : Nat) :
    match (strategy.getBackend fun _ => timestamp).1 with
    | none => ∀ backend ∈ strategy.backends, (backend.avaliable timestamp).1 = false
    | some index => ∃ backend, strategy.backends[index]? = some backend ∧
      (backend.avaliable timestamp).1 = true := by
  unfold CoBackendStrategyWRR.getBackend
  by_cases empty : strategy.backends.isEmpty = true
  · rw [if_pos empty, List.isEmpty_iff.1 empty]
    nofun
  · rw [if_neg empty]
    by_cases weighted : strategy.weighted = true
    · rw [if_pos weighted]
      have answer := (fair.chooseOneWeight small fun _ => timestamp).2
      cases result : (strategy.chooseOneWeight fun _ => timestamp).1 with
      | none =>
        rw [result] at answer
        intro backend member
        obtain ⟨i, inside, rfl⟩ := List.mem_iff_getElem.1 member
        exact answer i _ (List.getElem?_eq_getElem inside)
      | some index =>
        rw [result] at answer
        exact answer
    · rw [if_neg weighted]
      have answer := (chooseOneFrom_asks (fun _ => timestamp) strategy.backends.length 0 strategy fair.cursor
        (fair.length ▸ few)).2
      unfold CoBackendStrategyWRR.chooseOne
      cases result : (chooseOneFrom (fun _ => timestamp) strategy.backends.length 0 strategy).1 with
      | none =>
        rw [result] at answer
        intro backend member
        obtain ⟨i, inside, rfl⟩ := List.mem_iff_getElem.1 member
        obtain ⟨turn, bound, rfl⟩ := strategy.exists_asked inside
        exact answer turn bound _ (List.getElem?_eq_getElem inside)
      | some index =>
        rw [result] at answer
        obtain ⟨turn, -, -, backend, here, up⟩ := answer
        exact ⟨backend, here, up⟩

theorem Fair.sum_currentWeight (fair : Fair weights strategy) :
    (strategy.backends.map CoBackendWRR.currentWeight).sum = 0 := by
  have sum := sum_range_getD (strategy.backends.map CoBackendWRR.currentWeight)
  rw [List.length_map, fair.length] at sum
  refine sum.symm.trans ((sum_congr rfl fun i _ => ?_).trans fair.balanced.sum)
  rw [List.getD_eq_getElem?_getD, List.getElem?_map]
  rfl

end

/-- The strategy as it is set up, in one of the two modes. -/
def configuredAs (weighted : Bool) (confUpstream : CoConfUpstream) (servers : List CoConfUpstreamServer) :
    CoBackendStrategyWRR :=
  { configured confUpstream servers with weighted }

theorem fair_configured (weighted : Bool) (confUpstream : CoConfUpstream) (servers : List CoConfUpstreamServer) :
    Fair (servers.map serverWeight) (configuredAs weighted confUpstream servers) where
  unset := fun backend member => ((steady_configured confUpstream servers).up backend member).2
  effective := (steady_configured confUpstream servers).effective
  cursor := by
    have start : ∀ self : CoBackendStrategyWRR, self.curBackendsIndex = 0 →
        (servers.foldl (fun (self : CoBackendStrategyWRR) server => self.addBackend confUpstream server)
          self).curBackendsIndex = 0 := by
      induction servers with
      | nil => exact fun _ zero => zero
      | cons server servers ih => exact fun self zero => ih (self.addBackend confUpstream server) zero
    have zero : (configuredAs weighted confUpstream servers).curBackendsIndex = 0 := start {} rfl
    omega
  balanced := .zero (Int.natCast_nonneg _) fun i _ => credit_configured confUpstream servers i

/-- Whatever has failed and been selected before: the credits sum to zero, and `get_backend`
    returns an available backend, or none when there is none. -/
theorem getBackend_available (weighted : Bool) (confUpstream : CoConfUpstream)
    (servers : List CoConfUpstreamServer)
    (small : servers.length * (servers.map serverWeight).sum < 2 ^ 31) (calls : List BackendCall)
    (timestamp : Nat) :
    let self := (configuredAs weighted confUpstream servers).run calls
    (self.backends.map CoBackendWRR.currentWeight).sum = 0 ∧
    ((self.getBackend fun _ => timestamp).1 = none ↔
      ∀ backend ∈ self.backends, (backend.avaliable timestamp).1 = false) ∧
    ∀ index, (self.getBackend fun _ => timestamp).1 = some index →
      ∃ backend, self.backends[index]? = some backend ∧ (backend.avaliable timestamp).1 = true := by
  intro self
  have many := length_le_sum (servers.map serverWeight) (by simpa using fun server _ => serverWeight_pos server)
  rw [List.length_map] at many
  have few : servers.length < 2 ^ 31 := by
    by_contra large
    have := Nat.mul_le_mul (Nat.not_lt.1 large) ((Nat.not_lt.1 large).trans many)
    omega
  have small' : (servers.map serverWeight).length * (servers.map serverWeight).sum < 2 ^ 31 := by
    rwa [List.length_map]
  have few' : (servers.map serverWeight).length < 2 ^ 31 := by rwa [List.length_map]
  have fair : Fair (servers.map serverWeight) self :=
    (fair_configured weighted confUpstream servers).run small' few' calls
  have answer := fair.answer small' few' timestamp
  refine ⟨fair.sum_currentWeight, ?_, ?_⟩
  · cases result : (self.getBackend fun _ => timestamp).1 with
    | none =>
      rw [result] at answer
      exact ⟨fun _ => answer, fun _ => rfl⟩
    | some index =>
      rw [result] at answer
      obtain ⟨backend, here, up⟩ := answer
      refine ⟨nofun, fun down => ?_⟩
      rw [down backend (List.mem_of_getElem? here)] at up
      cases up
  · intro index result
    rw [result] at answer
    exact answer

/-- The heavier of two backends is down after two failures. -/
theorem getBackend_available_down :
    let self := (configuredAs true { failMaxnum := 2 } [{ serverkey := [], weight := 3 }, { serverkey := [] }]).run
      [.getBackend fun _ => 1000, .commFailed 0 1000, .commFailed 0 1200]
    (self.backends.map CoBackendWRR.currentWeight).sum = 0 ∧ (self.getBackend fun _ => 1300).1 ≠ none := by
  have available := getBackend_available true { failMaxnum := 2 }
    [{ serverkey := [], weight := 3 }, { serverkey := [] }] (by decide)
    [.getBackend fun _ => 1000, .commFailed 0 1000, .commFailed 0 1200] 1300
  refine ⟨available.1, fun nothing => ?_⟩
  have down := available.2.1.1 nothing
  revert down
  decide +kernel

end CoBackendStrategyWRR

end CoServer
