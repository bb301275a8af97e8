import GhostProtocol.Foundation.AsyncTask

/-!
# Two tasks under one select

`tokio::select!` polls two tasks until the first of them finishes and then
drops the other.  A run of the pair is an interleaving of events of both
tasks; once either has finished no event is left.  Each side of such a run is
a run of its own task.
-/

namespace Foundation
namespace AsyncTask

variable {LeftPoint RightPoint : Type*}

/-- The states of two tasks joined by a select. -/
structure Joined (LeftPoint RightPoint : Type*) where
  left : TaskState LeftPoint
  right : TaskState RightPoint

/-- An event of one of two joined tasks. -/
inductive JoinedEvent
  | left (event : Event)
  | right (event : Event)
  deriving DecidableEq, Repr

/-- The event, if it belongs to the left task. -/
def JoinedEvent.ofLeft : JoinedEvent → Option Event
  | .left event => some event
  | .right _ => none

/-- The event, if it belongs to the right task. -/
def JoinedEvent.ofRight : JoinedEvent → Option Event
  | .left _ => none
  | .right event => some event

/-- The event of the task on either side. -/
def JoinedEvent.event : JoinedEvent → Event
  | .left event => event
  | .right event => event

/-- Whether the select has completed. -/
def Joined.isFinished
    (leftProgram : LeftPoint → Await LeftPoint)
    (rightProgram : RightPoint → Await RightPoint)
    (state : Joined LeftPoint RightPoint) : Bool :=
  (leftProgram state.left.point).isFinished ||
    (rightProgram state.right.point).isFinished

/-- One event of two joined tasks.  A completed select takes none. -/
def stepSelect
    (leftProgram : LeftPoint → Await LeftPoint)
    (rightProgram : RightPoint → Await RightPoint)
    (state : Joined LeftPoint RightPoint)
    (event : JoinedEvent) : Option (Joined LeftPoint RightPoint) :=
  if state.isFinished leftProgram rightProgram then none
  else
    match event with
    | .left event =>
        (step leftProgram state.left event).map fun left =>
          { state with left }
    | .right event =>
        (step rightProgram state.right event).map fun right =>
          { state with right }

/-- A step of the pair is a step of one side before the select completes. -/
theorem stepSelect_cases
    {leftProgram : LeftPoint → Await LeftPoint}
    {rightProgram : RightPoint → Await RightPoint}
    {state next : Joined LeftPoint RightPoint}
    {event : JoinedEvent}
    (stepped : stepSelect leftProgram rightProgram state event = some next) :
    state.isFinished leftProgram rightProgram = false ∧
      ((∃ own left, event = .left own ∧
          step leftProgram state.left own = some left ∧
          next = { state with left }) ∨
        (∃ own right, event = .right own ∧
          step rightProgram state.right own = some right ∧
          next = { state with right })) := by
  unfold stepSelect at stepped
  split_ifs at stepped with finished
  refine ⟨Bool.eq_false_of_not_eq_true finished, ?_⟩
  cases event with
  | left own =>
      obtain ⟨left, leftStepped, rfl⟩ := Option.map_eq_some_iff.mp stepped
      exact .inl ⟨own, left, rfl, leftStepped, rfl⟩
  | right own =>
      obtain ⟨right, rightStepped, rfl⟩ := Option.map_eq_some_iff.mp stepped
      exact .inr ⟨own, right, rfl, rightStepped, rfl⟩

/-- Each side of a run of the pair is a run of its own task. -/
theorem runs_of_run_stepSelect
    {leftProgram : LeftPoint → Await LeftPoint}
    {rightProgram : RightPoint → Await RightPoint}
    {state final : Joined LeftPoint RightPoint}
    {events : List JoinedEvent}
    (reached : Run.run (stepSelect leftProgram rightProgram) state events =
      some final) :
    Run.run (step leftProgram) state.left
        (events.filterMap JoinedEvent.ofLeft) = some final.left ∧
      Run.run (step rightProgram) state.right
        (events.filterMap JoinedEvent.ofRight) = some final.right := by
  induction events generalizing state with
  | nil =>
      obtain rfl := Option.some.inj reached
      exact ⟨rfl, rfl⟩
  | cons event events inductionHypothesis =>
      obtain ⟨next, stepped, rest⟩ :=
        (Run.run_cons_eq_some _ _ _ _ _).mp reached
      obtain ⟨leftRun, rightRun⟩ := inductionHypothesis rest
      obtain ⟨_, sides⟩ := stepSelect_cases stepped
      rcases sides with ⟨own, left, rfl, leftStepped, rfl⟩ |
        ⟨own, right, rfl, rightStepped, rfl⟩
      · refine ⟨?_, rightRun⟩
        exact (Run.run_cons_eq_some _ _ _ _ _).mpr
          ⟨left, leftStepped, leftRun⟩
      · refine ⟨leftRun, ?_⟩
        exact (Run.run_cons_eq_some _ _ _ _ _).mpr
          ⟨right, rightStepped, rightRun⟩

/-- A run of the left task is a run of the pair while the right task is
running. -/
theorem run_stepSelect_left
    {leftProgram : LeftPoint → Await LeftPoint}
    {rightProgram : RightPoint → Await RightPoint}
    {state : Joined LeftPoint RightPoint}
    {left : TaskState LeftPoint}
    {events : List Event}
    (running : (rightProgram state.right.point).isFinished = false)
    (reached : Run.run (step leftProgram) state.left events = some left) :
    Run.run (stepSelect leftProgram rightProgram) state
        (events.map .left) = some { state with left } := by
  induction events generalizing state with
  | nil =>
      obtain rfl := Option.some.inj reached
      rfl
  | cons event events inductionHypothesis =>
      obtain ⟨next, stepped, rest⟩ :=
        (Run.run_cons_eq_some _ _ _ _ _).mp reached
      have unfinished : ¬state.isFinished leftProgram rightProgram = true := by
        intro finished
        unfold Joined.isFinished at finished
        rw [running, Bool.or_false] at finished
        rw [step_of_isFinished finished] at stepped
        cases stepped
      refine (Run.run_cons_eq_some _ _ _ _ _).mpr
        ⟨{ state with left := next }, ?_, inductionHypothesis running rest⟩
      rw [stepSelect, if_neg unfinished]
      simp only [stepped, Option.map_some]

/-- A run of the right task is a run of the pair while the left task is
running. -/
theorem run_stepSelect_right
    {leftProgram : LeftPoint → Await LeftPoint}
    {rightProgram : RightPoint → Await RightPoint}
    {state : Joined LeftPoint RightPoint}
    {right : TaskState RightPoint}
    {events : List Event}
    (running : (leftProgram state.left.point).isFinished = false)
    (reached : Run.run (step rightProgram) state.right events = some right) :
    Run.run (stepSelect leftProgram rightProgram) state
        (events.map .right) = some { state with right } := by
  induction events generalizing state with
  | nil =>
      obtain rfl := Option.some.inj reached
      rfl
  | cons event events inductionHypothesis =>
      obtain ⟨next, stepped, rest⟩ :=
        (Run.run_cons_eq_some _ _ _ _ _).mp reached
      have unfinished : ¬state.isFinished leftProgram rightProgram = true := by
        intro finished
        unfold Joined.isFinished at finished
        rw [running, Bool.false_or] at finished
        rw [step_of_isFinished finished] at stepped
        cases stepped
      refine (Run.run_cons_eq_some _ _ _ _ _).mpr
        ⟨{ state with right := next }, ?_, inductionHypothesis running rest⟩
      rw [stepSelect, if_neg unfinished]
      simp only [stepped, Option.map_some]

/-- A property of left events holds along the left side of a run when it
holds of every event of the pair. -/
theorem not_mem_filterMap_ofLeft
    {events : List JoinedEvent}
    {excluded : Event}
    (absent : ∀ event ∈ events, event.event ≠ excluded) :
    excluded ∉ events.filterMap JoinedEvent.ofLeft := by
  intro member
  obtain ⟨event, eventMember, isLeft⟩ := List.mem_filterMap.mp member
  cases event with
  | left own => exact absent _ eventMember (Option.some.inj isLeft)
  | right own => cases isLeft

/-- The right side of `not_mem_filterMap_ofLeft`. -/
theorem not_mem_filterMap_ofRight
    {events : List JoinedEvent}
    {excluded : Event}
    (absent : ∀ event ∈ events, event.event ≠ excluded) :
    excluded ∉ events.filterMap JoinedEvent.ofRight := by
  intro member
  obtain ⟨event, eventMember, isRight⟩ := List.mem_filterMap.mp member
  cases event with
  | left own => cases isRight
  | right own => exact absent _ eventMember (Option.some.inj isRight)

end AsyncTask
end Foundation
