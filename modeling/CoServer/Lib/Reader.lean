import Mathlib.Data.List.TakeDrop

/-! # Incremental readers

A reader looks at its state and at the tokens that have arrived, and either
takes some of them from the front or waits for more.  What it takes it takes for
good: a decision is not changed by tokens that arrive later.

That one condition makes a reader independent of how its input is cut.
Whatever arrives in pieces can be read in one piece, and two ways of reading the
same tokens meet. -/

namespace CoServer.Lib

universe u v

structure Reader (State : Type u) (Token : Type v) where
  /-- The state after the next item and the number of tokens the item takes. -/
  next : State → List Token → Option (State × Nat)
  bounded {state next' : State} {pending : List Token} {count : Nat} :
    next state pending = some (next', count) → count ≤ pending.length
  stable {state next' : State} {pending : List Token} {count : Nat} :
    next state pending = some (next', count) →
      ∀ more, next state (pending ++ more) = some (next', count)

namespace Reader

variable {State : Type u} {Token : Type v} {reader : Reader State Token}
variable {state mid final left right : State}
variable {pending rest more leftRest rightRest : List Token} {count : Nat}

/-- Some items are read, one after the other. -/
inductive Reads (reader : Reader State Token) : State → List Token → State → List Token → Prop
  | done {state : State} {pending : List Token} : Reads reader state pending state pending
  | take {state mid final : State} {pending rest : List Token} {count : Nat}
      (hnext : reader.next state pending = some (mid, count))
      (hreads : Reads reader mid (pending.drop count) final rest) :
      Reads reader state pending final rest

/-- Nothing more can be read from what has arrived. -/
def Waits (reader : Reader State Token) (state : State) (pending : List Token) : Prop :=
  reader.next state pending = none

/-- Nothing more will ever be read. -/
def Final (reader : Reader State Token) (state : State) : Prop :=
  ∀ pending, reader.Waits state pending

theorem Reads.one (hnext : reader.next state pending = some (final, count)) :
    reader.Reads state pending final (pending.drop count) :=
  .take hnext .done

theorem Reads.trans {mids : List Token} (hfirst : reader.Reads state pending mid mids)
    (hsecond : reader.Reads mid mids final rest) : reader.Reads state pending final rest := by
  induction hfirst with
  | done => exact hsecond
  | take hnext _ ih => exact .take hnext (ih hsecond)

/-- Later tokens change nothing that was read. -/
theorem Reads.append (hreads : reader.Reads state pending final rest) (more : List Token) :
    reader.Reads state (pending ++ more) final (rest ++ more) := by
  induction hreads with
  | done => exact .done
  | take hnext _ ih =>
    refine .take (reader.stable hnext more) ?_
    rwa [List.drop_append_of_le_length (reader.bounded hnext)]

/-- Reading what arrived, then what arrives next, is reading both at once. -/
theorem Reads.extend (hreads : reader.Reads state pending mid rest)
    (hmore : reader.Reads mid (rest ++ more) final leftRest) :
    reader.Reads state (pending ++ more) final leftRest :=
  (hreads.append more).trans hmore

theorem Reads.of_waits (hreads : reader.Reads state pending final rest)
    (hwaits : reader.Waits state pending) : final = state ∧ rest = pending := by
  cases hreads with
  | done => exact ⟨rfl, rfl⟩
  | take hnext _ => exact absurd (hnext.symm.trans hwaits) nofun

/-- The reader decides, so one way of reading is a part of the other. -/
theorem Reads.join (hleft : reader.Reads state pending left leftRest)
    (hright : reader.Reads state pending right rightRest) (hwaits : reader.Waits right rightRest) :
    reader.Reads left leftRest right rightRest := by
  induction hleft with
  | done => exact hright
  | take hnext _ ih =>
    cases hright with
    | done => exact absurd (hnext.symm.trans hwaits) nofun
    | take hnext' hreads' =>
      rw [hnext] at hnext'
      cases hnext'
      exact ih hreads'

theorem Reads.unique (hleft : reader.Reads state pending left leftRest)
    (hright : reader.Reads state pending right rightRest) (hwaitsLeft : reader.Waits left leftRest)
    (hwaitsRight : reader.Waits right rightRest) : right = left ∧ rightRest = leftRest :=
  (hleft.join hright hwaitsRight).of_waits hwaitsLeft

/-- A final state that was reached early is the one reached in the end, and
    everything that came later is left over. -/
theorem Reads.final_early (hearly : reader.Reads state pending left leftRest) (hfinal : reader.Final left)
    (hall : reader.Reads state (pending ++ more) right rightRest)
    (hwaits : reader.Waits right rightRest) : right = left ∧ rightRest = leftRest ++ more :=
  (hearly.append more).unique hall (hfinal _) hwaits

/-- What is left is the end of what was there. -/
theorem Reads.suffix (hreads : reader.Reads state pending final rest) :
    ∃ taken, pending = taken ++ rest := by
  induction hreads with
  | done => exact ⟨[], rfl⟩
  | @take state mid final pending rest count hnext _ ih =>
    obtain ⟨taken, htaken⟩ := ih
    exact ⟨pending.take count ++ taken, by rw [List.append_assoc, ← htaken, List.take_append_drop]⟩

/-- What every item of the whole input keeps, reading a part of it keeps. -/
theorem Reads.invariant {holds : State → List Token → Prop}
    (hstep : ∀ {state next' : State} {pending : List Token} {count : Nat}, holds state pending →
      reader.next state pending = some (next', count) → holds next' (pending.drop count))
    (hreads : reader.Reads state pending final rest) (hholds : holds state (pending ++ more)) :
    holds final (rest ++ more) := by
  induction hreads with
  | done => exact hholds
  | take hnext _ ih =>
    apply ih
    have hafter := hstep hholds (reader.stable hnext more)
    rwa [List.drop_append_of_le_length (reader.bounded hnext)] at hafter

end Reader

end CoServer.Lib
