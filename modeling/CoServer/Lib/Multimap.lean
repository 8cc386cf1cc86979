import Mathlib.Data.List.Sort

/-! # A multimap in the order of its iterator

`std::multimap` keeps its entries sorted by their keys.  A new entry goes behind
the entries that have its key already. -/

namespace CoServer.Lib

universe u

variable {Entry : Type u} {key : Entry → Nat} {entry : Entry} {entries : List Entry}

/-- `multimap::insert` -/
def multimapInsert (key : Entry → Nat) (entry : Entry) (entries : List Entry) : List Entry :=
  entries.orderedInsert (fun new old => key new < key old) entry

def SortedBy (key : Entry → Nat) (entries : List Entry) : Prop :=
  entries.Pairwise fun first second => key first ≤ key second

theorem perm_multimapInsert : (multimapInsert key entry entries).Perm (entry :: entries) :=
  List.perm_orderedInsert _ entry entries

theorem mem_multimapInsert {other : Entry} :
    other ∈ multimapInsert key entry entries ↔ other = entry ∨ other ∈ entries := by
  rw [perm_multimapInsert.mem_iff, List.mem_cons]

theorem SortedBy.insert (sorted : SortedBy key entries) :
    SortedBy key (multimapInsert key entry entries) := by
  induction entries with
  | nil => simp [multimapInsert, SortedBy]
  | cons head rest ih =>
    obtain ⟨least, sortedRest⟩ := List.pairwise_cons.1 sorted
    by_cases before : key entry < key head
    · have inserted : multimapInsert key entry (head :: rest) = entry :: head :: rest := by
        simp [multimapInsert, before]
      rw [inserted]
      refine List.pairwise_cons.2 ⟨fun other mem => ?_, sorted⟩
      obtain rfl | mem := List.mem_cons.1 mem
      · exact before.le
      · exact before.le.trans (least other mem)
    · have inserted : multimapInsert key entry (head :: rest) =
          head :: multimapInsert key entry rest := by
        simp [multimapInsert, before]
      rw [inserted]
      refine List.pairwise_cons.2 ⟨fun other mem => ?_, ih sortedRest⟩
      obtain rfl | mem := mem_multimapInsert.1 mem
      · exact not_lt.1 before
      · exact least other mem

end CoServer.Lib
