import GhostProtocol.Foundation.Prediction

/-!
# Following one task with another

A task follows another one along a map of program points when both await the
same operation at corresponding points and go on to corresponding points.  They
then take the same events, so that everything that holds of the runs of the one
holds of the runs of the other.  A task whose steps decrease a rank comes to
rest, and nothing it predicts is then left to write.
-/

namespace Foundation
namespace AsyncTask

variable {Point Other : Type*}

/-! ## Corresponding points -/

/-- Both operations transfer the same bytes and go on to corresponding
points. -/
inductive Await.Follows (map : Point → Other) : Await Point → Await Other → Prop
  | readExact {count filled eof failed otherFilled}
      (agree : ∀ block : Bytes, block.length = count →
        otherFilled block = map (filled block)) :
      Follows map (.readExact count filled eof failed)
        (.readExact count otherFilled (map eof) (map failed))
  | read {capacity received eof failed} :
      Follows map (.read capacity received eof failed)
        (.read capacity (fun bytes => map (received bytes)) (map eof)
          (map failed))
  | writeAll {data written failed} :
      Follows map (.writeAll data written failed)
        (.writeAll data (map written) (map failed))
  | finished : Follows map .finished .finished

/-- The state of the followed task. -/
def TaskState.map
    (map : Point → Other)
    (state : TaskState Point) : TaskState Other where
  point := map state.point
  progress := state.progress
  unread := state.unread
  closed := state.closed
  written := state.written

/-- A followed task takes the same events. -/
theorem step_map
    {program : Point → Await Point}
    {otherProgram : Other → Await Other}
    {map : Point → Other}
    (follows : ∀ point, (program point).Follows map (otherProgram (map point)))
    (state : TaskState Point)
    (event : Event) :
    step otherProgram (state.map map) event =
      (step program state event).map (TaskState.map map) := by
  have atPoint := follows state.point
  generalize awaits : program state.point = await at atPoint
  generalize otherAwaits : otherProgram (map state.point) = otherAwait
    at atPoint
  cases atPoint with
  | @readExact count filled eof failed otherFilled agree =>
      cases event with
      | transfer amount =>
          simp only [step, awaits, TaskState.map, otherAwaits]
          rw [apply_ite (Option.map (TaskState.map map))]
          rfl
      | resume =>
          simp only [step, awaits, TaskState.map, otherAwaits]
          split_ifs with complete
          · rw [agree state.progress complete]
            exact if_pos complete
          · exact if_neg complete
      | eof =>
          simp only [step, awaits, TaskState.map, otherAwaits]
          rw [apply_ite (Option.map (TaskState.map map))]
          rfl
      | fail =>
          simp only [step, awaits, TaskState.map, otherAwaits]
          rfl
  | read =>
      cases event with
      | transfer amount =>
          simp only [step, awaits, TaskState.map, otherAwaits]
          rw [apply_ite (Option.map (TaskState.map map))]
          rfl
      | resume =>
          simp only [step, awaits, TaskState.map, otherAwaits]
          rfl
      | eof =>
          simp only [step, awaits, TaskState.map, otherAwaits]
          rw [apply_ite (Option.map (TaskState.map map))]
          rfl
      | fail =>
          simp only [step, awaits, TaskState.map, otherAwaits]
          rfl
  | writeAll =>
      cases event with
      | transfer amount =>
          simp only [step, awaits, TaskState.map, otherAwaits]
          rw [apply_ite (Option.map (TaskState.map map))]
          rfl
      | resume =>
          simp only [step, awaits, TaskState.map, otherAwaits]
          rw [apply_ite (Option.map (TaskState.map map))]
          rfl
      | eof =>
          simp only [step, awaits, TaskState.map, otherAwaits]
          rfl
      | fail =>
          simp only [step, awaits, TaskState.map, otherAwaits]
          rfl
  | finished =>
      cases event <;> simp only [step, awaits, TaskState.map, otherAwaits] <;> rfl

/-- A run of a task is a run of the followed task. -/
theorem run_map
    {program : Point → Await Point}
    {otherProgram : Other → Await Other}
    {map : Point → Other}
    (follows : ∀ point, (program point).Follows map (otherProgram (map point)))
    (state : TaskState Point)
    (events : List Event) :
    Run.run (step otherProgram) (state.map map) events =
      (Run.run (step program) state events).map (TaskState.map map) := by
  induction events generalizing state with
  | nil => rfl
  | cons event events inductionHypothesis =>
      rw [Run.run, Run.run, step_map follows]
      cases step program state event with
      | none => rfl
      | some next => exact inductionHypothesis next

/-- A task rests exactly when the followed task does. -/
theorem atRest_map
    {program : Point → Await Point}
    {otherProgram : Other → Await Other}
    {map : Point → Other}
    (follows : ∀ point, (program point).Follows map (otherProgram (map point)))
    (state : TaskState Point) :
    AtRest otherProgram (state.map map) ↔ AtRest program state := by
  have atPoint := follows state.point
  generalize awaits : program state.point = await at atPoint
  generalize otherAwaits : otherProgram (map state.point) = otherAwait
    at atPoint
  unfold AtRest
  cases atPoint with
  | readExact agree => simp only [awaits, TaskState.map, otherAwaits]
  | read => simp only [awaits, TaskState.map, otherAwaits]
  | writeAll => simp only [awaits, TaskState.map, otherAwaits]
  | finished => simp only [awaits, TaskState.map, otherAwaits]

/-! ## Points that are never reached -/

/-- Whatever happens to the operation, the task goes on to a good point. -/
def Await.GoesOnTo (good : Point → Prop) : Await Point → Prop
  | .readExact count filled eof failed =>
      (∀ block : Bytes, block.length = count → good (filled block)) ∧
        good eof ∧ good failed
  | .read _ received eof failed =>
      (∀ bytes, good (received bytes)) ∧ good eof ∧ good failed
  | .writeAll _ written failed => good written ∧ good failed
  | .finished => True

/-- A task that goes from good points to good points never leaves them. -/
theorem good_of_run
    {program : Point → Await Point}
    {good : Point → Prop}
    (goesOn : ∀ point, good point → (program point).GoesOnTo good)
    {start state : TaskState Point}
    {events : List Event}
    (goodStart : good start.point)
    (reached : Run.run (step program) start events = some state) :
    good state.point := by
  refine Run.invariant_of_step (fun state : TaskState Point => good state.point)
    ?_ goodStart reached
  intro before event after goodBefore stepped
  have next := goesOn before.point goodBefore
  cases transition_of_step stepped with
  | fill awaits positive fits available => exact goodBefore
  | receive awaits positive fits available =>
      rw [awaits] at next
      exact next.1 _
  | write awaits positive fits => exact goodBefore
  | filled awaits complete =>
      rw [awaits] at next
      exact next.1 _ complete
  | wrote awaits complete =>
      rw [awaits] at next
      exact next.1
  | fillEof awaits partly drained closed =>
      rw [awaits] at next
      exact next.2.1
  | readEof awaits drained closed =>
      rw [awaits] at next
      exact next.2.1
  | failFill awaits =>
      rw [awaits] at next
      exact next.2.2
  | failRead awaits =>
      rw [awaits] at next
      exact next.2.2
  | failWrite awaits =>
      rw [awaits] at next
      exact next.2

/-! ## Coming to rest -/

/-- The progress of an operation does not exceed it, and a read has room. -/
def Bounded
    (program : Point → Await Point)
    (state : TaskState Point) : Prop :=
  match program state.point with
  | .readExact total _ _ _ => state.progress.length ≤ total
  | .read capacity _ _ _ => 0 < capacity
  | .writeAll data _ _ => state.progress.length ≤ data.length
  | .finished => True

/-- A new operation has not made any progress. -/
theorem bounded_goto
    {program : Point → Await Point}
    (roomy : ∀ {point capacity received eof failed},
      program point = .read capacity received eof failed → 0 < capacity)
    (state : TaskState Point)
    (point : Point) :
    Bounded program (state.goto point) := by
  unfold Bounded
  cases awaits : program point with
  | readExact total filled eof failed =>
      simp only [TaskState.goto, awaits]
      exact Nat.zero_le _
  | read capacity received eof failed =>
      simp only [TaskState.goto, awaits]
      exact roomy awaits
  | writeAll data next failed =>
      simp only [TaskState.goto, awaits]
      exact Nat.zero_le _
  | finished => simp only [TaskState.goto, awaits]

/-- No event takes the progress of an operation beyond it. -/
theorem Bounded.of_transition
    {program : Point → Await Point}
    (roomy : ∀ {point capacity received eof failed},
      program point = .read capacity received eof failed → 0 < capacity)
    {state next : TaskState Point}
    {event : Event}
    (transition : Transition program state event next) :
    Bounded program next := by
  cases transition with
  | fill awaits positive fits available =>
      simp only [Bounded, awaits, List.length_append]
      rw [List.length_take_of_le available]
      exact fits
  | receive awaits positive fits available =>
      exact bounded_goto roomy { state with unread := _ } _
  | write awaits positive fits =>
      simp only [Bounded, awaits]
      rw [List.length_take_of_le fits]
      exact fits
  | filled awaits complete => exact bounded_goto roomy state _
  | wrote awaits complete => exact bounded_goto roomy state _
  | fillEof awaits partly drained closed => exact bounded_goto roomy state _
  | readEof awaits drained closed => exact bounded_goto roomy state _
  | failFill awaits => exact bounded_goto roomy state _
  | failRead awaits => exact bounded_goto roomy state _
  | failWrite awaits => exact bounded_goto roomy state _

/-- Along a run the progress of no operation exceeds it. -/
theorem bounded_of_run
    {program : Point → Await Point}
    (roomy : ∀ {point capacity received eof failed},
      program point = .read capacity received eof failed → 0 < capacity)
    {start state : TaskState Point}
    {events : List Event}
    (bounded : Bounded program start)
    (reached : Run.run (step program) start events = some state) :
    Bounded program state :=
  Run.invariant_of_step (Bounded program)
    (fun _ _ _ _ stepped => .of_transition roomy (transition_of_step stepped))
    bounded reached

/-- A task that is not at rest can go on without an I/O error. -/
theorem exists_step_of_not_atRest
    {program : Point → Await Point}
    {state : TaskState Point}
    (bounded : Bounded program state)
    (active : ¬AtRest program state) :
    ∃ event, event ≠ .fail ∧ (step program state event).isSome = true := by
  unfold Bounded at bounded
  unfold AtRest at active
  cases awaits : program state.point with
  | readExact total filled eof failed =>
      simp only [awaits] at bounded active
      by_cases complete : state.progress.length = total
      · refine ⟨.resume, Event.noConfusion, ?_⟩
        simp only [step, awaits, if_pos complete, Option.isSome_some]
      · have partly := Nat.lt_of_le_of_ne bounded complete
        have available : 0 < state.unread.length :=
          List.length_pos_of_ne_nil fun drained => active ⟨drained, partly⟩
        refine ⟨.transfer 1, Event.noConfusion, ?_⟩
        simp only [step, awaits,
          if_pos (show 0 < 1 ∧ state.progress.length + 1 ≤ total ∧
            1 ≤ state.unread.length from ⟨Nat.one_pos, partly, available⟩),
          Option.isSome_some]
  | read capacity received eof failed =>
      simp only [awaits] at bounded active
      have available : 0 < state.unread.length :=
        List.length_pos_of_ne_nil active
      refine ⟨.transfer 1, Event.noConfusion, ?_⟩
      simp only [step, awaits, if_pos (show 0 < 1 ∧ 1 ≤ capacity ∧
        1 ≤ state.unread.length from ⟨Nat.one_pos, bounded, available⟩),
        Option.isSome_some]
  | writeAll data next failed =>
      simp only [awaits] at bounded
      by_cases complete : state.progress.length = data.length
      · refine ⟨.resume, Event.noConfusion, ?_⟩
        simp only [step, awaits, if_pos complete, Option.isSome_some]
      · have partly := Nat.lt_of_le_of_ne bounded complete
        refine ⟨.transfer 1, Event.noConfusion, ?_⟩
        simp only [step, awaits, if_pos (show 0 < 1 ∧
          state.progress.length + 1 ≤ data.length from
            ⟨Nat.one_pos, partly⟩), Option.isSome_some]
  | finished =>
      simp only [awaits] at active
      exact absurd trivial active

/-- A task whose steps decrease a rank comes to rest without an I/O error. -/
theorem exists_run_atRest
    {program : Point → Await Point}
    (roomy : ∀ {point capacity received eof failed},
      program point = .read capacity received eof failed → 0 < capacity)
    {rank : TaskState Point → Nat}
    (decreases : ∀ {state event next},
      Transition program state event next → rank next < rank state)
    (state : TaskState Point)
    (bounded : Bounded program state) :
    ∃ events final, Event.fail ∉ events ∧
      Run.run (step program) state events = some final ∧
      AtRest program final := by
  by_cases rest : AtRest program state
  · exact ⟨[], state, List.not_mem_nil, rfl, rest⟩
  obtain ⟨event, noFail, enabled⟩ := exists_step_of_not_atRest bounded rest
  obtain ⟨next, stepped⟩ := Option.isSome_iff_exists.mp enabled
  have transition := transition_of_step stepped
  have smaller := decreases transition
  obtain ⟨events, final, clean, reached, rest⟩ :=
    exists_run_atRest roomy decreases next (.of_transition roomy transition)
  refine ⟨event :: events, final, ?_, ?_, rest⟩
  · intro member
    rcases List.mem_cons.mp member with isFail | member
    · exact noFail isFail.symm
    · exact clean member
  · exact (Run.run_cons_eq_some _ _ _ _ _).mpr ⟨next, stepped, reached⟩
  termination_by rank state

end AsyncTask
end Foundation
