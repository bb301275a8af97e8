import Mathlib.Data.List.Induction
import Mathlib.Logic.Function.Basic

/-!
# Runs of labelled partial transition functions

A system is a step function `State → Label → Option State`: the label says
what happens next and `none` says that it cannot happen in that state.  This
module supplies finite runs, their composition, and the invariant rule in a
plain form and in a guarded form, where only runs whose every step meets a
condition on the state before it are considered, with what is observed along
them.
-/

namespace Foundation
namespace Run

variable {State Label : Type*}

/-- Follow a list of labels, failing at the first one that is not enabled. -/
def run (step : State → Label → Option State) :
    State → List Label → Option State
  | state, [] => some state
  | state, label :: labels =>
      match step state label with
      | none => none
      | some next => run step next labels

@[simp] theorem run_nil
    (step : State → Label → Option State)
    (state : State) :
    run step state [] = some state := rfl

/-- A run over a nonempty list is its first step followed by a run. -/
theorem run_cons_eq_some
    (step : State → Label → Option State)
    (state final : State)
    (label : Label)
    (labels : List Label) :
    run step state (label :: labels) = some final ↔
      ∃ next, step state label = some next ∧
        run step next labels = some final := by
  cases stepped : step state label with
  | none => simp [run, stepped]
  | some next => simp [run, stepped]

/-- Runs compose along concatenation of their label lists. -/
theorem run_append_eq_some
    (step : State → Label → Option State)
    (state final : State)
    (first second : List Label) :
    run step state (first ++ second) = some final ↔
      ∃ middle, run step state first = some middle ∧
        run step middle second = some final := by
  induction first generalizing state with
  | nil => simp
  | cons label labels inductionHypothesis =>
      simp only [List.cons_append, run_cons_eq_some, inductionHypothesis]
      constructor
      · rintro ⟨next, stepped, middle, reached, rest⟩
        exact ⟨middle, ⟨next, stepped, reached⟩, rest⟩
      · rintro ⟨middle, ⟨next, stepped, reached⟩, rest⟩
        exact ⟨next, stepped, middle, reached, rest⟩

/-- Every step taken along the label list meets the guard, which sees the
state before the step and its label. -/
def Guarded
    (step : State → Label → Option State)
    (guard : State → Label → Prop) :
    State → List Label → Prop
  | _, [] => True
  | state, label :: labels =>
      guard state label ∧
        ∀ next, step state label = some next →
          Guarded step guard next labels

/-- A run is guarded if its first step is and the rest is. -/
theorem Guarded.cons
    {step : State → Label → Option State}
    {guard : State → Label → Prop}
    {state next : State}
    {label : Label}
    {labels : List Label}
    (allowed : guard state label)
    (stepped : step state label = some next)
    (rest : Guarded step guard next labels) :
    Guarded step guard state (label :: labels) := by
  refine ⟨allowed, fun other equal => ?_⟩
  obtain rfl := Option.some.inj (stepped.symm.trans equal)
  exact rest

/-- A guarded run is guarded from every state on its way. -/
theorem Guarded.append_right
    {step : State → Label → Option State}
    {guard : State → Label → Prop}
    {state middle : State}
    {first second : List Label}
    (guarded : Guarded step guard state (first ++ second))
    (reached : run step state first = some middle) :
    Guarded step guard middle second := by
  induction first generalizing state with
  | nil =>
      obtain rfl := Option.some.inj reached
      exact guarded
  | cons label labels inductionHypothesis =>
      obtain ⟨next, stepped, rest⟩ :=
        (run_cons_eq_some step state middle label labels).mp reached
      exact inductionHypothesis (guarded.2 next stepped) rest

/-- A guarded run is extended in front by labels that meet the guard in every
state. -/
theorem Guarded.append
    {step : State → Label → Option State}
    {guard : State → Label → Prop}
    {state middle : State}
    {first second : List Label}
    (allowed : ∀ label ∈ first, ∀ state, guard state label)
    (reached : run step state first = some middle)
    (rest : Guarded step guard middle second) :
    Guarded step guard state (first ++ second) := by
  induction first generalizing state with
  | nil =>
      obtain rfl := Option.some.inj reached
      exact rest
  | cons label labels inductionHypothesis =>
      obtain ⟨next, stepped, later⟩ :=
        (run_cons_eq_some step state middle label labels).mp reached
      exact Guarded.cons (allowed label List.mem_cons_self state) stepped
        (inductionHypothesis (fun other member =>
          allowed other (List.mem_cons_of_mem label member)) later)

/-- A guarded run is extended in front by a step that meets the guard. -/
theorem exists_guarded_run_cons
    {step : State → Label → Option State}
    {guard : State → Label → Prop}
    {state next : State}
    {label : Label}
    {labels : List Label}
    (allowed : guard state label)
    (stepped : step state label = some next)
    (rest : ∃ final, Guarded step guard next labels ∧
      run step next labels = some final) :
    ∃ final, Guarded step guard state (label :: labels) ∧
      run step state (label :: labels) = some final := by
  obtain ⟨final, guarded, reached⟩ := rest
  exact ⟨final, Guarded.cons allowed stepped guarded,
    (run_cons_eq_some step state final label labels).mpr
      ⟨next, stepped, reached⟩⟩

/-- A guard that holds of the labels of a run in every state holds along the
run. -/
theorem guarded_of_forall_state
    {step : State → Label → Option State}
    {guard : State → Label → Prop}
    {labels : List Label}
    (allowed : ∀ label ∈ labels, ∀ state, guard state label)
    {state : State} :
    Guarded step guard state labels := by
  induction labels generalizing state with
  | nil => trivial
  | cons label labels inductionHypothesis =>
      refine ⟨allowed label List.mem_cons_self state, fun next _ => ?_⟩
      exact inductionHypothesis fun other member =>
        allowed other (List.mem_cons_of_mem label member)

/-- A guard on labels alone holds along a run once it holds of its labels. -/
theorem guarded_of_forall
    {step : State → Label → Option State}
    {guard : Label → Prop}
    {labels : List Label}
    (allowed : ∀ label ∈ labels, guard label)
    {state : State} :
    Guarded step (fun _ label => guard label) state labels :=
  guarded_of_forall_state fun label member _ => allowed label member

/-- What the guard says of labels alone holds of every label of a run. -/
theorem forall_of_guarded
    {step : State → Label → Option State}
    {guard : State → Label → Prop}
    {condition : Label → Prop}
    (implies : ∀ state label, guard state label → condition label)
    {state final : State}
    {labels : List Label}
    (guarded : Guarded step guard state labels)
    (reached : run step state labels = some final) :
    ∀ label ∈ labels, condition label := by
  induction labels generalizing state with
  | nil =>
      intro label member
      cases member
  | cons first others inductionHypothesis =>
      obtain ⟨next, stepped, rest⟩ :=
        (run_cons_eq_some step state final first others).mp reached
      intro label member
      rcases List.mem_cons.mp member with rfl | member
      · exact implies state label guarded.1
      · exact inductionHypothesis (guarded.2 next stepped) rest label member

/-- A property kept by every guarded step is kept by every guarded run. -/
theorem invariant_of_guarded
    {step : State → Label → Option State}
    (guard : State → Label → Prop)
    (invariant : State → Prop)
    (preserved : ∀ state label next, invariant state → guard state label →
      step state label = some next → invariant next)
    {state final : State}
    {labels : List Label}
    (holds : invariant state)
    (guarded : Guarded step guard state labels)
    (reached : run step state labels = some final) :
    invariant final := by
  induction labels generalizing state with
  | nil =>
      obtain rfl := Option.some.inj reached
      exact holds
  | cons label labels inductionHypothesis =>
      obtain ⟨next, stepped, rest⟩ :=
        (run_cons_eq_some step state final label labels).mp reached
      obtain ⟨labelGuard, tailGuard⟩ := guarded
      exact inductionHypothesis
        (preserved state label next holds labelGuard stepped)
        (tailGuard next stepped) rest

/-- A property kept by every step is kept by every run. -/
theorem invariant_of_step
    {step : State → Label → Option State}
    (invariant : State → Prop)
    (preserved : ∀ state label next, invariant state →
      step state label = some next → invariant next)
    {state final : State}
    {labels : List Label}
    (holds : invariant state)
    (reached : run step state labels = some final) :
    invariant final :=
  invariant_of_guarded (fun _ _ => True) invariant
    (fun state label next holds _ stepped =>
      preserved state label next holds stepped)
    holds (guarded_of_forall_state fun _ _ _ => trivial) reached

/-- A property of the labels so far and of the state they lead to is kept by
every run if it is kept by every step. -/
theorem history_of_run
    {step : State → Label → Option State}
    (invariant : List Label → State → Prop)
    (preserved : ∀ labels state label next, invariant labels state →
      step state label = some next → invariant (labels ++ [label]) next)
    {state final : State}
    {labels : List Label}
    (holds : invariant [] state)
    (reached : run step state labels = some final) :
    invariant labels final := by
  induction labels using List.reverseRecOn generalizing final with
  | nil =>
      obtain rfl := Option.some.inj reached
      exact holds
  | append_singleton labels label inductionHypothesis =>
      obtain ⟨middle, first, last⟩ := (run_append_eq_some ..).mp reached
      obtain ⟨next, stepped, done⟩ := (run_cons_eq_some ..).mp last
      obtain rfl := Option.some.inj done
      exact preserved labels middle label next (inductionHypothesis first)
        stepped

/-! ## Observations along a run -/

/-- What is observed of the successive steps along a list of labels. -/
def observed
    {Shown : Type*}
    (step : State → Label → Option State)
    (observe : State → Label → List Shown) : State → List Label → List Shown
  | _, [] => []
  | state, label :: labels =>
      observe state label ++
        match step state label with
        | none => []
        | some next => observed step observe next labels

/-- A relation between what has been observed and the state is kept by every
run if it is kept by every step with one of its labels. -/
theorem observed_of_run
    {Shown : Type*}
    {step : State → Label → Option State}
    {observe : State → Label → List Shown}
    {labels : List Label}
    (relation : List Shown → State → Prop)
    (preserved : ∀ shown state next, ∀ label ∈ labels, relation shown state →
      step state label = some next →
      relation (shown ++ observe state label) next)
    {state final : State}
    (holds : relation [] state)
    (reached : run step state labels = some final) :
    relation (observed step observe state labels) final := by
  induction labels generalizing relation state with
  | nil =>
      obtain rfl := Option.some.inj reached
      exact holds
  | cons label labels inductionHypothesis =>
      obtain ⟨next, stepped, rest⟩ :=
        (run_cons_eq_some step state final label labels).mp reached
      rw [observed, stepped]
      -- What follows is related behind what the first step shows.
      refine inductionHypothesis
        (fun shown => relation (observe state label ++ shown)) ?_ ?_ rest
      · intro shown before after other member related otherStepped
        rw [← List.append_assoc]
        exact preserved _ before after other
          (List.mem_cons_of_mem label member) related otherStepped
      · have first := preserved [] state next label List.mem_cons_self holds
          stepped
        rw [List.append_nil]
        exact first

/-! ## Properties of every state of a run -/

/-- Every state along the label list has the property, the first and the last
included. -/
def Always
    (step : State → Label → Option State)
    (property : State → Prop) :
    State → List Label → Prop
  | state, [] => property state
  | state, label :: labels =>
      property state ∧
        ∀ next, step state label = some next →
          Always step property next labels

/-- If the steps keep an invariant, and under it keep a property exactly when
they meet the guard, the states of a run have the property exactly when its
steps meet the guard. -/
theorem always_iff_guarded_of_invariant
    {step : State → Label → Option State}
    {guard : State → Label → Prop}
    {property : State → Prop}
    (invariant : State → Prop)
    (kept : ∀ state label next, invariant state →
      step state label = some next → invariant next)
    (exact_step : ∀ state label next, invariant state → property state →
      step state label = some next → (property next ↔ guard state label))
    {state final : State}
    {labels : List Label}
    (initial : invariant state)
    (holds : property state)
    (reached : run step state labels = some final) :
    Always step property state labels ↔ Guarded step guard state labels := by
  induction labels generalizing state with
  | nil => exact ⟨fun _ => trivial, fun _ => holds⟩
  | cons label labels inductionHypothesis =>
      obtain ⟨next, stepped, rest⟩ :=
        (run_cons_eq_some step state final label labels).mp reached
      have keeps := exact_step state label next initial holds stepped
      have nextInitial := kept state label next initial stepped
      constructor
      · rintro ⟨-, always⟩
        have after := always next stepped
        have nextHolds : property next := by
          cases labels with
          | nil => exact after
          | cons second others => exact after.1
        exact Guarded.cons (keeps.mp nextHolds) stepped
          ((inductionHypothesis nextInitial nextHolds rest).mp after)
      · rintro ⟨allowed, guarded⟩
        refine ⟨holds, fun other equal => ?_⟩
        obtain rfl := Option.some.inj (stepped.symm.trans equal)
        exact (inductionHypothesis nextInitial (keeps.mpr allowed) rest).mpr
          (guarded next stepped)

/-- If a step keeps a property exactly when it meets the guard, the states of a
run have the property exactly when its steps meet the guard. -/
theorem always_iff_guarded
    {step : State → Label → Option State}
    {guard : State → Label → Prop}
    {property : State → Prop}
    (exact_step : ∀ state label next, property state →
      step state label = some next → (property next ↔ guard state label))
    {state final : State}
    {labels : List Label}
    (holds : property state)
    (reached : run step state labels = some final) :
    Always step property state labels ↔ Guarded step guard state labels :=
  always_iff_guarded_of_invariant (fun _ => True)
    (fun _ _ _ _ _ => trivial)
    (fun state label next _ => exact_step state label next)
    trivial holds reached

/-! ## Stuck states -/

/-- Nothing can happen any more. -/
def Stuck
    (step : State → Label → Option State)
    (state : State) : Prop :=
  ∀ label, step state label = none

end Run
end Foundation
