import Mathlib.Data.List.Perm.Basic

/-! # Entries under keys

A map that is a list of entries, in which a value is found under its own key.
It holds all values only while their keys differ. -/

namespace CoServer.Lib

universe u v

variable {Key : Type u} {Value : Type v} [BEq Key] [LawfulBEq Key]

/-- The entries are the values, each under its key. -/
def Keyed (key : Value → Key) (entries : List (Key × Value)) (values : List Value) : Prop :=
  entries.Perm (values.map fun value => (key value, value))

variable {key : Value → Key} {entries : List (Key × Value)} {values : List Value} {value : Value}

omit [BEq Key] [LawfulBEq Key] in
theorem Keyed.mem (keyed : Keyed key entries values) {entry : Key × Value} (mem : entry ∈ entries) :
    entry.2 ∈ values ∧ entry.1 = key entry.2 := by
  obtain ⟨found, held, rfl⟩ := List.mem_map.1 (keyed.mem_iff.1 mem)
  exact ⟨held, rfl⟩

omit [BEq Key] [LawfulBEq Key] in
theorem Keyed.congr (keyed : Keyed key entries values) {other : Value → Key}
    (same : ∀ value ∈ values, other value = key value) : Keyed other entries values := by
  refine List.Perm.trans keyed (.of_eq (List.map_congr_left fun value mem => ?_))
  rw [same value mem]

/-- A new value replaces what was under its key, which is nothing if its key is new. -/
theorem Keyed.insert (keyed : Keyed key entries values) (fresh : ∀ other ∈ values, key other ≠ key value) :
    Keyed key (entries.filter (fun entry => entry.1 != key value) ++ [(key value, value)])
      (values ++ [value]) := by
  have kept : entries.filter (fun entry => entry.1 != key value) = entries := by
    refine List.filter_eq_self.2 fun entry mem => ?_
    obtain ⟨held, same⟩ := keyed.mem mem
    rw [same]
    exact bne_iff_ne.2 (fresh entry.2 held)
  unfold Keyed
  rw [kept, List.map_append]
  exact List.Perm.append_right _ keyed

theorem Keyed.erase [DecidableEq Value] (keyed : Keyed key entries values) (nodup : values.Nodup)
    (mem : value ∈ values) (distinct : ∀ other ∈ values, key other = key value → other = value) :
    Keyed key (entries.filter fun entry => entry.1 != key value) (values.erase value) := by
  have left := List.Perm.filter (fun entry => entry.1 != key value) keyed
  refine left.trans (.of_eq ?_)
  rw [List.filter_map, nodup.erase_eq_filter]
  congr 1
  refine List.filter_congr fun other held => ?_
  rw [Bool.eq_iff_iff]
  simp only [Function.comp_apply, bne_iff_ne, ne_eq]
  refine not_congr ⟨distinct other held, ?_⟩
  rintro rfl
  rfl

end CoServer.Lib
