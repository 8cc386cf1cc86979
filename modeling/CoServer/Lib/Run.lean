import Mathlib.Data.List.Basic

/-! # Runs of executable machines

A machine is a partial step function over a state and an input; `none` is a
step without a defined result.  Its run over a list of inputs is
`List.foldlM`. -/

namespace CoServer.Lib

universe u v

variable {State : Type u} {Input : Type v}

/-- Progress and preservation, packaged once: an invariant that also speaks
    about the inputs still to come holds of the machine at the end of the run. -/
theorem run_invariant (step : State → Input → Option State) (Inv : List Input → State → Prop)
    (progress : ∀ input rest state, Inv (input :: rest) state →
      ∃ next, step state input = some next ∧ Inv rest next)
    (inputs : List Input) (state : State) (start : Inv inputs state) :
    ∃ final, inputs.foldlM step state = some final ∧ Inv [] final := by
  induction inputs generalizing state with
  | nil => exact ⟨state, rfl, start⟩
  | cons input rest ih =>
    obtain ⟨next, stepped, kept⟩ := progress input rest state start
    obtain ⟨final, ran, done⟩ := ih next kept
    exact ⟨final, by simp [List.foldlM_cons, stepped, ran], done⟩

/-! ## Reachable states -/

/-- The steps of a run that starts with `input`. -/
theorem run_cons {step : State → Input → Option State} {input : Input} {rest : List Input}
    {state final : State} :
    (input :: rest).foldlM step state = some final ↔
      ∃ next, step state input = some next ∧ rest.foldlM step next = some final := by
  rw [List.foldlM_cons]
  exact Option.bind_eq_some_iff

/-- The last step of a run that ends with `input`. -/
theorem run_concat {step : State → Input → Option State} {input : Input} {front : List Input}
    {state final : State} :
    (front ++ [input]).foldlM step state = some final ↔
      ∃ before, front.foldlM step state = some before ∧ step before input = some final := by
  have last : ∀ before, [input].foldlM step before = step before input := fun before => by
    rw [List.foldlM_cons]
    exact bind_pure _
  rw [List.foldlM_append]
  simp only [last]
  exact Option.bind_eq_some_iff

/-- What every step keeps holds of every reachable state. -/
theorem run_keeps (step : State → Input → Option State) (Inv : State → Prop)
    (kept : ∀ state input next, Inv state → step state input = some next → Inv next)
    {inputs : List Input} {state final : State} (start : Inv state)
    (ran : inputs.foldlM step state = some final) : Inv final := by
  induction inputs generalizing state with
  | nil =>
    cases ran
    exact start
  | cons input rest ih =>
    obtain ⟨next, stepped, ran⟩ := run_cons.1 ran
    exact ih (kept state input next start stepped) ran

/-- Every step of the run is taken under the condition. -/
def Along (step : State → Input → Option State) (condition : State → Input → Prop) :
    State → List Input → Prop
  | _, [] => True
  | state, input :: rest =>
    condition state input ∧ ∀ next, step state input = some next → Along step condition next rest

/-- A given run can be checked step by step. -/
instance decidableAlong (step : State → Input → Option State) (condition : State → Input → Prop)
    [∀ state input, Decidable (condition state input)] :
    ∀ inputs state, Decidable (Along step condition state inputs)
  | [], _ => isTrue trivial
  | input :: rest, state =>
    match stepped : step state input with
    | none => decidable_of_iff (condition state input)
        ⟨fun met => ⟨met, fun _ next => nomatch stepped.symm.trans next⟩, And.left⟩
    | some next =>
      have := decidableAlong step condition rest next
      decidable_of_iff (condition state input ∧ Along step condition next rest)
        ⟨fun ⟨met, along⟩ => ⟨met, fun _ same => by
          cases stepped.symm.trans same
          exact along⟩, fun ⟨met, along⟩ => ⟨met, along next stepped⟩⟩

/-- What every step under the condition keeps holds at the end of every run
    along the condition. -/
theorem run_keeps_along (step : State → Input → Option State) (condition : State → Input → Prop)
    (Inv : State → Prop)
    (kept : ∀ state input next, Inv state → condition state input →
      step state input = some next → Inv next)
    {inputs : List Input} {state final : State} (start : Inv state)
    (along : Along step condition state inputs)
    (ran : inputs.foldlM step state = some final) : Inv final := by
  induction inputs generalizing state with
  | nil =>
    cases ran
    exact start
  | cons input rest ih =>
    obtain ⟨next, stepped, ran⟩ := run_cons.1 ran
    exact ih (kept state input next start along.1 stepped) (along.2 next stepped) ran

/-- When a step under the condition is what keeps a state good, and a step from a good
    state into a good one is one under the condition, the states of a run are all good if and only if the
    run is along the condition. -/
theorem run_along_iff (step : State → Input → Option State) {condition : State → Input → Prop}
    {Inv Good : State → Prop}
    (kept : ∀ state input next, Inv state → step state input = some next → Inv next)
    (forward : ∀ state input next, Inv state → Good state → condition state input →
      step state input = some next → Good next)
    (backward : ∀ state input next, Inv state → Good state → step state input = some next →
      Good next → condition state input)
    {inputs : List Input} {state final : State} (inv : Inv state) (good : Good state)
    (ran : inputs.foldlM step state = some final) :
    (∀ first middle, first <+: inputs → first.foldlM step state = some middle → Good middle) ↔
      Along step condition state inputs := by
  induction inputs generalizing state with
  | nil =>
    refine ⟨fun _ => trivial, fun _ first middle starts reached => ?_⟩
    cases List.prefix_nil.1 starts
    cases reached
    exact good
  | cons input rest ih =>
    obtain ⟨next, stepped, goesOn⟩ := run_cons.1 ran
    have invNext := kept state input next inv stepped
    constructor
    · intro all
      have goodNext : Good next :=
        all [input] next ⟨rest, rfl⟩ (run_cons.2 ⟨next, stepped, rfl⟩)
      refine ⟨backward state input next inv good stepped goodNext, fun other steppedToo => ?_⟩
      cases stepped.symm.trans steppedToo
      refine (ih invNext goodNext goesOn).1 fun first middle starts reached => ?_
      exact all (input :: first) middle (List.cons_prefix_cons.2 ⟨rfl, starts⟩)
        (run_cons.2 ⟨next, stepped, reached⟩)
    · rintro ⟨met, along⟩ first middle starts reached
      cases first with
      | nil =>
        cases reached
        exact good
      | cons head tail =>
        obtain ⟨rfl, tailStarts⟩ := List.cons_prefix_cons.1 starts
        obtain ⟨after, steppedToo, tailReached⟩ := run_cons.1 reached
        cases stepped.symm.trans steppedToo
        have goodNext := forward state head next inv good met stepped
        exact (ih invNext goodNext goesOn).2 (along next stepped) tail middle tailStarts tailReached

/-- When a law of one step from a good state holds exactly under the condition, and keeps
    the state good, every step of a run obeys the law if and only if the run is along the condition. -/
theorem run_law_iff (step : State → Input → Option State) {condition : State → Input → Prop}
    {law : State → Input → State → Prop} {Inv Good : State → Prop}
    (kept : ∀ state input next, Inv state → step state input = some next → Inv next)
    (keepsGood : ∀ state input next, law state input next → Good next)
    (lawful : ∀ state input next, Inv state → Good state → step state input = some next →
      (law state input next ↔ condition state input))
    {inputs : List Input} {state final : State} (inv : Inv state) (good : Good state)
    (ran : inputs.foldlM step state = some final) :
    Along step (fun state input => ∀ next, step state input = some next → law state input next)
      state inputs ↔ Along step condition state inputs := by
  induction inputs generalizing state with
  | nil => exact Iff.rfl
  | cons input rest ih =>
    obtain ⟨next, stepped, ran⟩ := run_cons.1 ran
    have here := lawful state input next inv good stepped
    constructor
    · rintro ⟨obeys, along⟩
      have law := obeys next stepped
      refine ⟨here.1 law, fun other same => ?_⟩
      cases stepped.symm.trans same
      exact (ih (kept _ _ _ inv stepped) (keepsGood _ _ _ law) ran).1 (along next stepped)
    · rintro ⟨met, along⟩
      have law := here.2 met
      refine ⟨fun other same => ?_, fun other same => ?_⟩
      · cases stepped.symm.trans same
        exact law
      · cases stepped.symm.trans same
        exact (ih (kept _ _ _ inv stepped) (keepsGood _ _ _ law) ran).2 (along next stepped)

end CoServer.Lib
