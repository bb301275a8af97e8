import GhostProtocol.Foundation.Prediction
import GhostProtocol.Foundation.Select

/-!
# Half-closed connections

A select over the two directions of a connection completes when the first of
them finishes, whatever the other one still has to do.  It loses nothing when
each task finishes only at the end of its source, and a task notices that end
only after the other one has reached its own.
-/

namespace Foundation
namespace AsyncTask

variable {Point LeftPoint RightPoint : Type*}

/-- A task whose source has ended and that has nothing left to do. -/
def Ended
    (program : Point → Await Point)
    (state : TaskState Point) : Prop :=
  state.closed = true ∧ Settled program state

/-- In the states of an invariant, and without I/O errors, a task finishes only
when its source reports the end of the stream. -/
structure FinishesAtEof
    (program : Point → Await Point)
    (invariant : TaskState Point → Prop) : Prop where
  preserved : ∀ {state event next}, invariant state → event ≠ .fail →
    Transition program state event next → invariant next
  finishes : ∀ {state event next}, invariant state → event ≠ .fail →
    Transition program state event next →
    (program next.point).isFinished = true → event = .eof

/-- After the end of the stream a task has nothing left to do, if it
finishes. -/
theorem ended_of_eof
    {program : Point → Await Point}
    {state next : TaskState Point}
    (transition : Transition program state .eof next)
    (finished : (program next.point).isFinished = true) :
    Ended program next := by
  have ends (closed : next.closed = true) (drained : next.unread = []) :
      Ended program next := by
    refine ⟨closed, drained, ?_⟩
    cases awaits : program next.point with
    | readExact total filled eof failed =>
        rw [awaits] at finished
        cases finished
    | read capacity received eof failed => trivial
    | writeAll data after failed =>
        rw [awaits] at finished
        cases finished
    | finished => trivial
  cases transition with
  | fillEof awaits partly drained closed => exact ends closed drained
  | readEof awaits drained closed => exact ends closed drained

/-- No event is an I/O error, and the end of one source is noticed only after
the other direction has ended. -/
def EofLast
    (leftProgram : LeftPoint → Await LeftPoint)
    (rightProgram : RightPoint → Await RightPoint)
    (state : Joined LeftPoint RightPoint)
    (event : JoinedEvent) : Prop :=
  event.event ≠ .fail ∧
    (event = .left .eof → Ended rightProgram state.right) ∧
    (event = .right .eof → Ended leftProgram state.left)

/-- What a completed select has done, when the end of one source is noticed
only after the other direction has ended: both directions have ended. -/
theorem ended_of_run
    {leftProgram : LeftPoint → Await LeftPoint}
    {rightProgram : RightPoint → Await RightPoint}
    {leftInvariant : TaskState LeftPoint → Prop}
    {rightInvariant : TaskState RightPoint → Prop}
    (leftFinishes : FinishesAtEof leftProgram leftInvariant)
    (rightFinishes : FinishesAtEof rightProgram rightInvariant)
    {start final : Joined LeftPoint RightPoint}
    (leftStart : leftInvariant start.left)
    (rightStart : rightInvariant start.right)
    (running : start.isFinished leftProgram rightProgram = false)
    {events : List JoinedEvent}
    (guarded : Run.Guarded (stepSelect leftProgram rightProgram)
      (EofLast leftProgram rightProgram) start events)
    (reached : Run.run (stepSelect leftProgram rightProgram) start events =
      some final)
    (finished : final.isFinished leftProgram rightProgram = true) :
    Ended leftProgram final.left ∧ Ended rightProgram final.right := by
  have holds := Run.invariant_of_guarded
    (EofLast leftProgram rightProgram)
    (fun state : Joined LeftPoint RightPoint =>
      leftInvariant state.left ∧ rightInvariant state.right ∧
        (state.isFinished leftProgram rightProgram = true →
          Ended leftProgram state.left ∧ Ended rightProgram state.right))
    ?_ ⟨leftStart, rightStart, ?_⟩ guarded reached
  · exact holds.2.2 finished
  · rintro state event next ⟨leftHolds, rightHolds, _⟩
      ⟨noFailure, leftLast, rightLast⟩ stepped
    obtain ⟨unfinished, sides⟩ := stepSelect_cases stepped
    obtain ⟨leftRuns, rightRuns⟩ := Bool.or_eq_false_iff.mp unfinished
    rcases sides with ⟨own, left, rfl, ownStepped, rfl⟩ |
      ⟨own, right, rfl, ownStepped, rfl⟩
    · have transition := transition_of_step ownStepped
      refine ⟨leftFinishes.preserved leftHolds noFailure transition,
        rightHolds, fun done => ?_⟩
      have leftDone : (leftProgram left.point).isFinished = true := by
        rw [Joined.isFinished, rightRuns, Bool.or_false] at done
        exact done
      obtain rfl := leftFinishes.finishes leftHolds noFailure transition
        leftDone
      exact ⟨ended_of_eof transition leftDone, leftLast rfl⟩
    · have transition := transition_of_step ownStepped
      refine ⟨leftHolds,
        rightFinishes.preserved rightHolds noFailure transition,
        fun done => ?_⟩
      have rightDone : (rightProgram right.point).isFinished = true := by
        rw [Joined.isFinished, leftRuns, Bool.false_or] at done
        exact done
      obtain rfl := rightFinishes.finishes rightHolds noFailure transition
        rightDone
      exact ⟨rightLast rfl, ended_of_eof transition rightDone⟩
  · intro done
    rw [running] at done
    cases done

end AsyncTask
end Foundation
