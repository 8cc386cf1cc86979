import CoServer.Lib.Run

/-! # Simulations between executable machines

A machine simulates another one when every step of the other is matched by steps
of its own, from related states to related states.  Then runs are matched too.
The matching steps are named by labels, of which a step may have several or none. -/

namespace CoServer.Lib

universe u v w x

variable {State : Type u} {Input : Type v} {Above : Type w} {Label : Type x}

/-- Every step is matched by the steps above that its labels name. -/
def Simulates (step : State → Input → Option State) (above : Above → Label → Option Above)
    (labels : State → Input → List Label) (Rel : State → Above → Prop) : Prop :=
  ∀ state input next abstract, Rel state abstract → step state input = some next →
    ∃ abstractNext, (labels state input).foldlM above abstract = some abstractNext ∧
      Rel next abstractNext

/-- The labels of a run, in order. -/
def runLabels (step : State → Input → Option State) (labels : State → Input → List Label) :
    State → List Input → List Label
  | _, [] => []
  | state, input :: rest =>
    labels state input ++
      match step state input with
      | none => []
      | some next => runLabels step labels next rest

variable {step : State → Input → Option State} {above : Above → Label → Option Above}
  {labels : State → Input → List Label} {Rel : State → Above → Prop}

theorem runLabels_cons {state next : State} {input : Input} (stepped : step state input = some next)
    (rest : List Input) :
    runLabels step labels state (input :: rest) = labels state input ++ runLabels step labels next rest := by
  rw [runLabels, stepped]

/-- What comes in goes out in the same order, or is still there. -/
theorem run_fifo {Item : Type x} (content : State → List Item) {ins outs : State → Input → List Item}
    (Inv : State → Prop) (kept : ∀ state input next, Inv state → step state input = some next → Inv next)
    (moves : ∀ state input next, Inv state → step state input = some next →
      content state ++ ins state input = outs state input ++ content next)
    {inputs : List Input} {state final : State} (inv : Inv state)
    (ran : inputs.foldlM step state = some final) :
    content state ++ runLabels step ins state inputs = runLabels step outs state inputs ++ content final := by
  induction inputs generalizing state with
  | nil =>
    cases ran
    simp [runLabels]
  | cons input rest ih =>
    obtain ⟨next, stepped, ran⟩ := run_cons.1 ran
    rw [runLabels_cons stepped, runLabels_cons stepped, ← List.append_assoc, moves state input next inv stepped,
      List.append_assoc, List.append_assoc, ih (kept state input next inv stepped) ran]

/-- A run is matched by the run over its labels. -/
theorem Simulates.run (simulates : Simulates step above labels Rel) {inputs : List Input}
    {state final : State} {abstract : Above} (related : Rel state abstract)
    (ran : inputs.foldlM step state = some final) :
    ∃ abstractFinal, (runLabels step labels state inputs).foldlM above abstract = some abstractFinal ∧
      Rel final abstractFinal := by
  induction inputs generalizing state abstract with
  | nil =>
    cases ran
    exact ⟨abstract, rfl, related⟩
  | cons input rest ih =>
    obtain ⟨next, stepped, ran⟩ := run_cons.1 ran
    obtain ⟨middle, matched, related⟩ := simulates state input next abstract related stepped
    obtain ⟨last, goesOn, related⟩ := ih related ran
    refine ⟨last, ?_, related⟩
    rw [runLabels_cons stepped, List.foldlM_append, matched]
    exact goesOn

end CoServer.Lib
