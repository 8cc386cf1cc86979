import Mathlib.Algebra.BigOperators.Group.Finset.Basic
import Mathlib.Algebra.BigOperators.Ring.Finset
import Mathlib.Algebra.Order.BigOperators.Group.Finset
import Mathlib.Tactic.Linarith
import Mathlib.Tactic.Ring

/-! # Smooth weighted round robin

Every participant carries a running credit.  A round adds to each credit its
weight, picks a participant whose credit is then maximal, and takes the total
weight off the winner.

The argument rests on two facts about the credits: they sum to zero, and each
stays above minus the total weight.  After a multiple of `total` rounds every
credit is a multiple of the total weight, so all of them are zero again. -/

namespace CoServer.Lib

open Finset

variable {ι : Type*} [DecidableEq ι]

/-- The first `rounds` rounds of a schedule over the participants `members`. -/
structure SmoothRun (members : Finset ι) (weight : ι → ℕ) (credit : ℕ → ι → ℤ) (winner : ℕ → ι)
    (rounds : ℕ) : Prop where
  start : ∀ i ∈ members, credit 0 i = 0
  mem : ∀ t < rounds, winner t ∈ members
  step : ∀ t < rounds, ∀ i ∈ members, credit (t + 1) i =
    credit t i + weight i - if winner t = i then ((∑ j ∈ members, weight j : ℕ) : ℤ) else 0
  maximal : ∀ t < rounds, ∀ i ∈ members,
    credit t i + weight i ≤ credit t (winner t) + weight (winner t)

/-- How often a participant wins the first `t` rounds. -/
def wins (winner : ℕ → ι) (i : ι) (t : ℕ) : ℕ := ({s ∈ range t | winner s = i} : Finset ℕ).card

theorem wins_succ (winner : ℕ → ι) (i : ι) (t : ℕ) :
    wins winner i (t + 1) = wins winner i t + if winner t = i then 1 else 0 := by
  unfold wins
  rw [range_add_one, filter_insert]
  split
  · rw [card_insert_of_notMem (by simp)]
  · rfl

/-- The wins inside a window of rounds. -/
theorem wins_add (winner : ℕ → ι) (i : ι) (t count : ℕ) :
    wins winner i (t + count) =
      wins winner i t + ((List.range count).map fun k => winner (t + k)).count i := by
  induction count with
  | zero => simp
  | succ count ih =>
    rw [← Nat.add_assoc, wins_succ, ih, List.range_succ, List.map_append, List.count_append,
      List.map_singleton, List.count_singleton, Nat.add_assoc]
    simp only [beq_iff_eq]

namespace SmoothRun

variable {members : Finset ι} {weight : ι → ℕ} {credit : ℕ → ι → ℤ} {winner : ℕ → ι} {rounds t : ℕ}
  {i : ι}

/-- The empty schedule, from credits that are all zero. -/
theorem zero (start : ∀ i ∈ members, credit 0 i = 0) : SmoothRun members weight credit winner 0 :=
  ⟨start, by simp, by simp, by simp⟩

/-- One more round. -/
theorem extend (run : SmoothRun members weight credit winner rounds) (mem : winner rounds ∈ members)
    (step : ∀ i ∈ members, credit (rounds + 1) i = credit rounds i + weight i -
      if winner rounds = i then ((∑ j ∈ members, weight j : ℕ) : ℤ) else 0)
    (maximal : ∀ i ∈ members,
      credit rounds i + weight i ≤ credit rounds (winner rounds) + weight (winner rounds)) :
    SmoothRun members weight credit winner (rounds + 1) := by
  refine ⟨run.start, ?_, ?_, ?_⟩ <;> intro t bound <;>
    rcases Nat.lt_succ_iff_lt_or_eq.mp bound with earlier | rfl
  · exact run.mem t earlier
  · exact mem
  · exact run.step t earlier
  · exact step
  · exact run.maximal t earlier
  · exact maximal

theorem credit_eq (run : SmoothRun members weight credit winner rounds) (bound : t ≤ rounds)
    (member : i ∈ members) :
    credit t i = t * weight i - (∑ j ∈ members, weight j : ℕ) * wins winner i t := by
  induction t with
  | zero => simp [run.start i member, wins]
  | succ t ih =>
    rw [run.step t (by omega) i member, ih (by omega), wins_succ]
    split <;> push_cast <;> ring

theorem sum_credit (run : SmoothRun members weight credit winner rounds) (bound : t ≤ rounds) :
    ∑ i ∈ members, credit t i = 0 := by
  induction t with
  | zero => exact sum_eq_zero run.start
  | succ t ih =>
    rw [sum_congr rfl (run.step t (by omega)), sum_sub_distrib, sum_add_distrib, ih (by omega),
      sum_ite_eq, if_pos (run.mem t (by omega))]
    push_cast
    ring

/-- A winner has positive credit before it pays, so nobody falls to minus the
    total weight. -/
theorem neg_total_lt_credit (run : SmoothRun members weight credit winner rounds)
    (positive : ∀ j ∈ members, 0 < weight j) (bound : t ≤ rounds) (member : i ∈ members) :
    -((∑ j ∈ members, weight j : ℕ) : ℤ) < credit t i := by
  have total_pos : 0 < ∑ j ∈ members, weight j := sum_pos positive ⟨i, member⟩
  induction t generalizing i with
  | zero =>
    rw [run.start i member]
    omega
  | succ t ih =>
    have weight_pos := positive i member
    have before := ih (by omega) member
    rw [run.step t (by omega) i member]
    split
    · rename_i won
      have richest : 0 < credit t (winner t) + weight (winner t) := by
        by_contra poor
        have nonpos : ∑ j ∈ members, (credit t j + weight j) ≤ 0 :=
          sum_nonpos fun j hj => (run.maximal t (by omega) j hj).trans (by omega)
        rw [sum_add_distrib, run.sum_credit (by omega), ← Nat.cast_sum] at nonpos
        omega
      rw [won] at richest
      omega
    · omega

theorem credit_add_weight_le (run : SmoothRun members weight credit winner rounds)
    (positive : ∀ j ∈ members, 0 < weight j) (bound : t ≤ rounds) (member : i ∈ members) :
    credit t i + weight i ≤ (members.card * ∑ j ∈ members, weight j : ℕ) := by
  have others : -(((members.erase i).card * ∑ j ∈ members, weight j : ℕ) : ℤ) ≤
      ∑ j ∈ members.erase i, (credit t j + weight j) := by
    have each : ∀ j ∈ members.erase i,
        -((∑ j ∈ members, weight j : ℕ) : ℤ) ≤ credit t j + weight j := by
      intro j hj
      have := run.neg_total_lt_credit positive bound (mem_of_mem_erase hj)
      omega
    have := card_nsmul_le_sum _ _ _ each
    rw [nsmul_eq_mul] at this
    push_cast at this ⊢
    linarith
  have sum : ∑ j ∈ members, (credit t j + weight j) = (∑ j ∈ members, weight j : ℕ) := by
    rw [sum_add_distrib, run.sum_credit bound, zero_add, Nat.cast_sum]
  rw [← add_sum_erase members _ member] at sum
  have card : members.card = (members.erase i).card + 1 := (card_erase_add_one member).symm
  rw [card, Nat.add_mul, Nat.one_mul]
  push_cast at *
  linarith

/-- After a whole number of cycles every credit is paid off. -/
theorem credit_cycle (run : SmoothRun members weight credit winner rounds)
    (cycles : ℕ) (positive : ∀ j ∈ members, 0 < weight j)
    (bound : cycles * ∑ j ∈ members, weight j ≤ rounds) (member : i ∈ members) :
    credit (cycles * ∑ j ∈ members, weight j) i = 0 := by
  have total_pos : 0 < ∑ j ∈ members, weight j := sum_pos positive ⟨i, member⟩
  have nonneg : ∀ j ∈ members, 0 ≤ credit (cycles * ∑ j ∈ members, weight j) j := by
    intro j hj
    have above := run.neg_total_lt_credit positive bound hj
    rw [run.credit_eq bound hj] at above ⊢
    have factored : ((cycles * ∑ j ∈ members, weight j : ℕ) : ℤ) * weight j -
        (∑ j ∈ members, weight j : ℕ) * wins winner j (cycles * ∑ j ∈ members, weight j) =
        (∑ j ∈ members, weight j : ℕ) *
          (cycles * weight j - wins winner j (cycles * ∑ j ∈ members, weight j)) := by
      push_cast
      ring
    rw [factored] at above ⊢
    have quotient : (-1 : ℤ) < cycles * weight j - wins winner j (cycles * ∑ j ∈ members, weight j) := by
      by_contra low
      have : ((∑ j ∈ members, weight j : ℕ) : ℤ) *
          (cycles * weight j - wins winner j (cycles * ∑ j ∈ members, weight j)) ≤
          (∑ j ∈ members, weight j : ℕ) * (-1) :=
        mul_le_mul_of_nonneg_left (by omega) (by omega)
      omega
    exact mul_nonneg (by omega) (by omega)
  exact (sum_eq_zero_iff_of_nonneg nonneg).mp (run.sum_credit bound) i member

/-- A schedule that decides by the credits alone repeats itself after a cycle. -/
theorem credit_periodic (run : SmoothRun members weight credit winner rounds)
    (positive : ∀ j ∈ members, 0 < weight j)
    (decided : ∀ s < rounds, ∀ t < rounds, (∀ j ∈ members, credit s j = credit t j) → winner s = winner t)
    (bound : t + ∑ j ∈ members, weight j ≤ rounds) :
    ∀ j ∈ members, credit (t + ∑ j ∈ members, weight j) j = credit t j := by
  induction t with
  | zero =>
    intro j hj
    have cycle := run.credit_cycle 1 positive (by omega) hj
    rw [Nat.one_mul] at cycle
    rw [Nat.zero_add, cycle, run.start j hj]
  | succ t ih =>
    have same := ih (by omega)
    by_cases empty : members = ∅
    · simp [empty]
    · obtain ⟨j₀, member⟩ := nonempty_iff_ne_empty.mpr empty
      have total_pos : 0 < ∑ j ∈ members, weight j := sum_pos positive ⟨j₀, member⟩
      have winners := decided _ (by omega) t (by omega) same
      intro j hj
      rw [Nat.add_right_comm, run.step _ (by omega) j hj, run.step t (by omega) j hj, same j hj, winners]

/-- Exact proportionality, over any window of one cycle. -/
theorem wins_window (run : SmoothRun members weight credit winner rounds)
    (positive : ∀ j ∈ members, 0 < weight j)
    (decided : ∀ s < rounds, ∀ t < rounds, (∀ j ∈ members, credit s j = credit t j) → winner s = winner t)
    (bound : t + ∑ j ∈ members, weight j ≤ rounds) (member : i ∈ members) :
    wins winner i (t + ∑ j ∈ members, weight j) = wins winner i t + weight i := by
  have total_pos : 0 < ∑ j ∈ members, weight j := sum_pos positive ⟨i, member⟩
  have same := run.credit_periodic positive decided bound i member
  rw [run.credit_eq bound member, run.credit_eq (by omega) member] at same
  have balance : ((∑ j ∈ members, weight j : ℕ) : ℤ) *
      (wins winner i (t + ∑ j ∈ members, weight j) - (wins winner i t + weight i)) = 0 := by
    push_cast at same ⊢
    linarith
  rcases mul_eq_zero.mp balance with zero | zero <;> omega

end SmoothRun

/-! ## Rounds in which some sit out

When only some take part in a round, a credit may fall below minus the total
weight.  What survives is a bound on the credits of every group: the larger of
the group and the rest is, the more it can have gathered. -/

/-- Credits that sum to zero, with a bound on what a group of participants has. -/
structure Balanced (members : Finset ι) (total : ℤ) (credit : ι → ℤ) : Prop where
  sum : ∑ i ∈ members, credit i = 0
  group : ∀ group ⊆ members,
    ∑ i ∈ group, credit i ≤ total * (group.card * (members.card - group.card))

namespace Balanced

variable {members present : Finset ι} {weight : ι → ℕ} {total : ℤ} {credit credit' : ι → ℤ} {winner i : ι}

omit [DecidableEq ι] in
theorem zero (nonneg : 0 ≤ total) (start : ∀ i ∈ members, credit i = 0) :
    Balanced members total credit where
  sum := sum_eq_zero start
  group := by
    intro group inside
    rw [sum_eq_zero fun i member => start i (inside member)]
    have fewer : (group.card : ℤ) ≤ members.card := by exact_mod_cast card_le_card inside
    exact mul_nonneg nonneg (mul_nonneg (by positivity) (by linarith))

omit [DecidableEq ι] in
theorem congr (balanced : Balanced members total credit) (same : ∀ i ∈ members, credit' i = credit i) :
    Balanced members total credit' where
  sum := (sum_congr rfl same).trans balanced.sum
  group := fun group inside =>
    (sum_congr rfl fun i member => same i (inside member)).trans_le (balanced.group group inside)

omit [DecidableEq ι] in
/-- The credit of one participant. -/
theorem credit_le (balanced : Balanced members total credit) (member : i ∈ members) :
    credit i ≤ total * (members.card - 1) := by
  have alone := balanced.group {i} (singleton_subset_iff.mpr member)
  rw [sum_singleton, card_singleton, Nat.cast_one, one_mul] at alone
  exact alone

theorem neg_le_credit (balanced : Balanced members total credit) (member : i ∈ members) :
    -(total * (members.card - 1)) ≤ credit i := by
  have others := balanced.group (members.erase i) (erase_subset _ _)
  have whole := add_sum_erase members credit member
  have card : (members.card : ℤ) = (members.erase i).card + 1 := by
    exact_mod_cast (card_erase_add_one member).symm
  rw [balanced.sum] at whole
  rw [card, add_sub_cancel_left, mul_one] at others
  rw [card, add_sub_cancel_right]
  linarith

/-- The gathered credit of a group that does not have the winner: the winner is at
    least as rich as a present member of the group, so exchanging the two shows that the
    group was below its bound. -/
theorem group_of_poorer (balanced : Balanced members total credit) (here : winner ∈ members)
    (maximal : credit i + weight i ≤ credit winner + weight winner) {group : Finset ι}
    (inside : group ⊆ members) (outside : winner ∉ group) (member : i ∈ group) :
    2 * ∑ j ∈ group, credit j ≤
      2 * (total * (group.card * (members.card - group.card))) - 2 * total + weight winner - weight i := by
  have more := balanced.group (insert winner group) (insert_subset here inside)
  have less := balanced.group (group.erase i) ((erase_subset _ _).trans inside)
  have split := add_sum_erase group credit member
  have card : ((group.erase i).card : ℤ) = group.card - 1 :=
    eq_sub_of_add_eq (by exact_mod_cast card_erase_add_one member)
  rw [sum_insert outside, card_insert_of_notMem outside] at more
  rw [card] at less
  push_cast at more
  have bend : total * ((group.card + 1) * (members.card - (group.card + 1))) +
      total * ((group.card - 1) * (members.card - (group.card - 1))) =
      2 * (total * (group.card * (members.card - group.card))) - 2 * total := by ring
  linarith

/-- One round among the participants that are present. -/
theorem round (balanced : Balanced members total credit) (here : present ⊆ members)
    (enough : ((∑ i ∈ members, weight i : ℕ) : ℤ) ≤ total) (won : winner ∈ present)
    (maximal : ∀ i ∈ present, credit i + weight i ≤ credit winner + weight winner)
    (step : ∀ i ∈ members, credit' i = credit i + (if i ∈ present then (weight i : ℤ) else 0) -
      if winner = i then ((∑ j ∈ present, weight j : ℕ) : ℤ) else 0) :
    Balanced members total credit' := by
  have gathered : ∀ group ⊆ members, ∑ i ∈ group, credit' i = ∑ i ∈ group, credit i +
      ((∑ i ∈ group ∩ present, weight i : ℕ) : ℤ) -
        if winner ∈ group then ((∑ j ∈ present, weight j : ℕ) : ℤ) else 0 := by
    intro group inside
    rw [sum_congr rfl fun i member => step i (inside member), sum_sub_distrib, sum_add_distrib,
      sum_ite_eq, sum_ite_mem, Nat.cast_sum (group ∩ present)]
  have shares : ∀ group ⊆ present, ((∑ i ∈ group, weight i : ℕ) : ℤ) ≤ (∑ i ∈ present, weight i : ℕ) :=
    fun group inside => by exact_mod_cast sum_le_sum_of_subset inside
  refine ⟨?_, ?_⟩
  · rw [gathered members subset_rfl, balanced.sum, inter_eq_right.mpr here, if_pos (here won)]
    ring
  · intro group inside
    rw [gathered group inside]
    have before := balanced.group group inside
    by_cases holds : winner ∈ group
    · rw [if_pos holds]
      have := shares (group ∩ present) inter_subset_right
      linarith
    · rw [if_neg holds]
      by_cases absent : group ∩ present = ∅
      · rw [absent, sum_empty]
        simpa using before
      · obtain ⟨i, member⟩ := nonempty_iff_ne_empty.mpr absent
        obtain ⟨inGroup, inPresent⟩ := mem_inter.mp member
        have poorer := balanced.group_of_poorer (here won) (maximal i inPresent) inside holds inGroup
        have apart : winner ∉ group ∩ present := fun both => holds (mem_inter.mp both).1
        have together := shares (insert winner (group ∩ present)) (insert_subset won inter_subset_right)
        rw [sum_insert apart] at together
        have all : ((∑ i ∈ present, weight i : ℕ) : ℤ) ≤ (∑ i ∈ members, weight i : ℕ) := by
          exact_mod_cast sum_le_sum_of_subset here
        push_cast at *
        linarith

end Balanced

end CoServer.Lib
