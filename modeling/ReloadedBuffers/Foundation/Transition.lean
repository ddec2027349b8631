import Mathlib.Logic.Relation

/-! Runs of a partial step function. A run may be restricted to steps that a
condition on the state before the step allows; a safety property is then a
fact about the initial states and one preservation lemma.
-/

set_option autoImplicit false

namespace Transition

variable {State Label : Type}

/-- Finite runs all of whose steps are enabled and allowed where they are taken. -/
inductive Run (step : State → Label → Option State) (allowed : State → Label → Prop) :
    State → List Label → State → Prop where
  | nil {state : State} : Run step allowed state [] state
  | snoc {first middle last : State} {labels : List Label} {label : Label} :
      Run step allowed first labels middle → allowed middle label → step middle label = some last →
      Run step allowed first (labels ++ [label]) last

/-- No restriction on the steps of a run. -/
def always (_ : State) (_ : Label) : Prop := True

variable {step : State → Label → Option State} {allowed : State → Label → Prop}

theorem Run.single {first last : State} {label : Label} (ok : allowed first label)
    (taken : step first label = some last) : Run step allowed first [label] last :=
  .snoc .nil ok taken

theorem Run.append {first middle last : State} {before after : List Label}
    (left : Run step allowed first before middle) (right : Run step allowed middle after last) :
    Run step allowed first (before ++ after) last := by
  induction right with
  | nil => rwa [List.append_nil]
  | snoc _ ok taken ih =>
      rw [← List.append_assoc]
      exact .snoc ih ok taken

theorem Run.cons {first middle last : State} {label : Label} {labels : List Label}
    (ok : allowed first label) (taken : step first label = some middle)
    (rest : Run step allowed middle labels last) : Run step allowed first (label :: labels) last :=
  (Run.single ok taken).append rest

/-- An invariant that every allowed step preserves holds at the end of every run. -/
theorem Run.invariant {first last : State} {labels : List Label} (Inv : State → Prop)
    (preserved : ∀ state label next, Inv state → allowed state label → step state label = some next → Inv next)
    (run : Run step allowed first labels last) (start : Inv first) : Inv last := by
  induction run with
  | nil => exact start
  | snoc _ ok taken ih => exact preserved _ _ _ ih ok taken

/-- A preorder that every step from a state of the invariant respects relates the two ends of a run. -/
theorem Run.monotone {first last : State} {labels : List Label} (Inv : State → Prop) (le : State → State → Prop)
    (refl : ∀ state, le state state) (trans : ∀ a b c, le a b → le b c → le a c)
    (preserved : ∀ state label next, Inv state → allowed state label → step state label = some next → Inv next)
    (grows : ∀ state label next, Inv state → allowed state label → step state label = some next → le state next)
    (run : Run step allowed first labels last) (start : Inv first) : le first last := by
  induction run with
  | nil => exact refl _
  | snoc before ok taken ih =>
      have holds := before.invariant Inv preserved start
      exact trans _ _ _ ih (grows _ _ _ holds ok taken)

/-- A system whose every step is answered by a run of another one, with the same
observations, has only runs that the other has. -/
theorem Run.simulate {Other Event Observation : Type} {next : Other → Event → Option Other}
    {permitted : Other → Event → Prop} (Inv : State → Prop) (image : State → Other)
    (history : State → List Observation) (observe : Event → Option Observation)
    (answers : ∀ state label after, Inv state → allowed state label → step state label = some after →
      Inv after ∧ ∃ events, Run next permitted (image state) events (image after) ∧
        history after = history state ++ events.filterMap observe)
    {first last : State} {labels : List Label} (run : Run step allowed first labels last) (start : Inv first) :
    Inv last ∧ ∃ events, Run next permitted (image first) events (image last) ∧
      history last = history first ++ events.filterMap observe := by
  induction run with
  | nil => exact ⟨start, [], .nil, by simp⟩
  | snoc _ ok taken ih =>
      obtain ⟨inv, events, reached, observed⟩ := ih
      obtain ⟨preserved, more, answered, seen⟩ := answers _ _ _ inv ok taken
      refine ⟨preserved, events ++ more, reached.append answered, ?_⟩
      rw [seen, observed, List.filterMap_append, List.append_assoc]

/-- Execute a list of labels; a label that is not enabled has no result. -/
def execute (step : State → Label → Option State) (state : State) : List Label → Option State
  | [] => some state
  | label :: labels => (step state label).bind fun next => execute step next labels

theorem execute_run {state last : State} {labels : List Label} (ok : ∀ state, ∀ label ∈ labels, allowed state label)
    (result : execute step state labels = some last) : Run step allowed state labels last := by
  induction labels generalizing state with
  | nil =>
      cases result
      exact .nil
  | cons label labels ih =>
      obtain ⟨next, taken, rest⟩ := Option.bind_eq_some_iff.mp result
      exact .cons (ok state label List.mem_cons_self) taken
        (ih (fun state later member => ok state later (List.mem_cons_of_mem _ member)) rest)

/-- Steps that are not allowed are not enabled. -/
def restrict (step : State → Label → Option State) (allowed : State → Label → Prop)
    [∀ state label, Decidable (allowed state label)] (state : State) (label : Label) : Option State :=
  if allowed state label then step state label else none

theorem execute_restrict [∀ state label, Decidable (allowed state label)] {state last : State} {labels : List Label}
    (result : execute (restrict step allowed) state labels = some last) : Run step allowed state labels last := by
  induction labels generalizing state with
  | nil =>
      cases result
      exact .nil
  | cons label labels ih =>
      obtain ⟨next, taken, rest⟩ := Option.bind_eq_some_iff.mp result
      unfold restrict at taken
      split at taken
      · rename_i ok
        exact .cons ok taken (ih rest)
      · cases taken

end Transition
