import GhostProtocol.Foundation.AsyncTask

/-!
# Predicting the output of a task from its input

For a task that reads with `read_exact` only, and writes nothing more once its
source has ended, what it writes is a function of the bytes of its source and
not of how they arrive.  A prediction assigns to every program point the
output still to come on the remaining input; it is checked once against each
operation, and then holds along every run: what has been written, followed by
what is still predicted, never changes, and an I/O error can only cut it short.
-/

namespace Foundation
namespace AsyncTask

variable {Point : Type*}

/-- `output point input` is what the task writes from `point` on when its
source holds `input`. -/
structure Predicts
    (program : Point → Await Point)
    (output : Point → Bytes → Bytes) : Prop where
  readExact_filled : ∀ {point total filled eof failed},
    program point = .readExact total filled eof failed →
      ∀ block rest, block.length = total →
        output point (block ++ rest) = output (filled block) rest
  readExact_short : ∀ {point total filled eof failed},
    program point = .readExact total filled eof failed →
      ∀ short, short.length < total → output point short = []
  readExact_eof : ∀ {point total filled eof failed},
    program point = .readExact total filled eof failed → output eof [] = []
  readExact_failed : ∀ {point total filled eof failed},
    program point = .readExact total filled eof failed →
      ∀ input, output failed input = []
  not_read : ∀ {point capacity received eof failed},
    program point ≠ .read capacity received eof failed
  writeAll_written : ∀ {point data next failed},
    program point = .writeAll data next failed →
      ∀ input, output point input = data ++ output next input
  writeAll_failed : ∀ {point data next failed},
    program point = .writeAll data next failed →
      ∀ input, output failed input = []
  finished : ∀ {point},
    program point = .finished → ∀ input, output point input = []

/-- What a task is still predicted to write: the rest of a pending write and
the output of what follows, or the output on the bytes received so far and
those still unread. -/
def pendingOutput
    (program : Point → Await Point)
    (output : Point → Bytes → Bytes)
    (state : TaskState Point) : Bytes :=
  match program state.point with
  | .writeAll data next _ =>
      data.drop state.progress.length ++ output next state.unread
  | _ => output state.point (state.progress ++ state.unread)

/-- At a fresh operation the pending output is the predicted output. -/
theorem pendingOutput_goto
    {program : Point → Await Point}
    {output : Point → Bytes → Bytes}
    (predicts : Predicts program output)
    (state : TaskState Point)
    (point : Point) :
    pendingOutput program output (state.goto point) =
      output point state.unread := by
  unfold pendingOutput
  cases awaits : program point with
  | writeAll data next failed =>
      simp only [TaskState.goto, awaits]
      rw [predicts.writeAll_written awaits]
      rfl
  | readExact total filled eof failed =>
      simp only [TaskState.goto, awaits]
      rfl
  | read capacity received eof failed =>
      simp only [TaskState.goto, awaits]
      rfl
  | finished =>
      simp only [TaskState.goto, awaits]
      rfl

/-- One event without an I/O error moves output from pending to written; an
I/O error drops the pending output. -/
theorem written_append_pendingOutput_of_transition
    {program : Point → Await Point}
    {output : Point → Bytes → Bytes}
    (predicts : Predicts program output)
    {state next : TaskState Point}
    {event : Event}
    (transition : Transition program state event next) :
    (event ≠ .fail ∧
      next.written ++ pendingOutput program output next =
        state.written ++ pendingOutput program output state) ∨
    (event = .fail ∧ next.written = state.written ∧
      pendingOutput program output next = []) := by
  cases transition with
  | fill awaits positive fits available =>
      left
      refine ⟨Event.noConfusion, ?_⟩
      simp only [pendingOutput, awaits, List.append_assoc,
        List.take_append_drop]
  | receive awaits positive fits available =>
      exact absurd awaits predicts.not_read
  | @write data following failed count awaits positive fits =>
      left
      refine ⟨Event.noConfusion, ?_⟩
      have length :
          (data.take (state.progress.length + count)).length =
            state.progress.length + count :=
        List.length_take_of_le fits
      simp only [pendingOutput, awaits, length]
      rw [List.append_assoc, ← List.append_assoc (List.take _ _),
        ← List.drop_drop, List.take_append_drop]
  | filled awaits complete =>
      left
      refine ⟨Event.noConfusion, ?_⟩
      rw [pendingOutput_goto predicts]
      simp only [pendingOutput, awaits]
      rw [predicts.readExact_filled awaits _ _ complete]
      rfl
  | wrote awaits complete =>
      left
      refine ⟨Event.noConfusion, ?_⟩
      rw [pendingOutput_goto predicts]
      simp only [pendingOutput, awaits, complete, List.drop_length,
        List.nil_append]
      rfl
  | fillEof awaits partly drained closed =>
      left
      refine ⟨Event.noConfusion, ?_⟩
      rw [pendingOutput_goto predicts]
      simp only [pendingOutput, awaits, drained, List.append_nil]
      rw [predicts.readExact_short awaits _ partly]
      simp only [TaskState.goto, drained, List.append_nil]
      rw [predicts.readExact_eof awaits, List.append_nil]
  | readEof awaits drained closed =>
      exact absurd awaits predicts.not_read
  | failFill awaits =>
      right
      refine ⟨rfl, rfl, ?_⟩
      rw [pendingOutput_goto predicts]
      exact predicts.readExact_failed awaits _
  | failRead awaits =>
      exact absurd awaits predicts.not_read
  | failWrite awaits =>
      right
      refine ⟨rfl, rfl, ?_⟩
      rw [pendingOutput_goto predicts]
      exact predicts.writeAll_failed awaits _

/-- No event adds to what is written and pending. -/
theorem length_pendingOutput_of_transition
    {program : Point → Await Point}
    {output : Point → Bytes → Bytes}
    (predicts : Predicts program output)
    {state next : TaskState Point}
    {event : Event}
    (transition : Transition program state event next) :
    next.written.length + (pendingOutput program output next).length ≤
      state.written.length + (pendingOutput program output state).length := by
  obtain ⟨_, kept⟩ | ⟨_, written, dropped⟩ :=
    written_append_pendingOutput_of_transition predicts transition
  · have lengths := congrArg List.length kept
    rw [List.length_append, List.length_append] at lengths
    exact Nat.le_of_eq lengths
  · rw [written, dropped, List.length_nil]
    omega

/-- Along every run the written bytes are a prefix of the predicted output. -/
theorem written_prefix_of_run
    {program : Point → Await Point}
    {output : Point → Bytes → Bytes}
    (predicts : Predicts program output)
    {point : Point}
    {input : Bytes}
    {closed : Bool}
    {events : List Event}
    {state : TaskState Point}
    (reached : Run.run (step program)
      (TaskState.start point input closed) events = some state) :
    state.written ++ pendingOutput program output state <+:
      output point input := by
  refine Run.invariant_of_step
    (fun state : TaskState Point =>
      state.written ++ pendingOutput program output state <+:
        output point input) ?_ ?_ reached
  · intro before event after holds stepped
    obtain ⟨_, kept⟩ | ⟨_, written, dropped⟩ :=
      written_append_pendingOutput_of_transition predicts
        (transition_of_step stepped)
    · rw [kept]
      exact holds
    · rw [written, dropped, List.append_nil]
      exact (List.prefix_append _ _).trans holds
  · change [] ++ pendingOutput program output
      ((TaskState.start point input closed).goto point) <+: _
    rw [pendingOutput_goto predicts]
    exact List.prefix_rfl

/-- Without I/O errors nothing of the predicted output is lost. -/
theorem written_append_pendingOutput_of_run
    {program : Point → Await Point}
    {output : Point → Bytes → Bytes}
    (predicts : Predicts program output)
    {point : Point}
    {input : Bytes}
    {closed : Bool}
    {events : List Event}
    {state : TaskState Point}
    (noFailure : Event.fail ∉ events)
    (reached : Run.run (step program)
      (TaskState.start point input closed) events = some state) :
    state.written ++ pendingOutput program output state =
      output point input := by
  refine Run.invariant_of_guarded
    (fun _ event => event ≠ Event.fail)
    (fun state : TaskState Point =>
      state.written ++ pendingOutput program output state =
        output point input) ?_ ?_ ?_ reached
  · intro before event after holds noFail stepped
    obtain ⟨_, kept⟩ | ⟨isFail, _⟩ :=
      written_append_pendingOutput_of_transition predicts
        (transition_of_step stepped)
    · rw [kept]
      exact holds
    · exact absurd isFail noFail
  · change [] ++ pendingOutput program output
      ((TaskState.start point input closed).goto point) = _
    rw [pendingOutput_goto predicts]
    rfl
  · apply Run.guarded_of_forall
    intro event member equal
    subst equal
    exact noFailure member

/-- A task at rest has finished, or waits for bytes that are not there. -/
def AtRest
    (program : Point → Await Point)
    (state : TaskState Point) : Prop :=
  match program state.point with
  | .readExact total _ _ _ =>
      state.unread = [] ∧ state.progress.length < total
  | .read _ _ _ _ => state.unread = []
  | .writeAll _ _ _ => False
  | .finished => True

/-- A task at rest has no output pending. -/
theorem pendingOutput_of_atRest
    {program : Point → Await Point}
    {output : Point → Bytes → Bytes}
    (predicts : Predicts program output)
    {state : TaskState Point}
    (rest : AtRest program state) :
    pendingOutput program output state = [] := by
  unfold AtRest at rest
  unfold pendingOutput
  cases awaits : program state.point with
  | readExact total filled eof failed =>
      simp only [awaits] at rest
      simp only [rest.1, List.append_nil]
      exact predicts.readExact_short awaits _ rest.2
  | read capacity received eof failed =>
      exact absurd awaits predicts.not_read
  | writeAll data next failed =>
      simp only [awaits] at rest
  | finished => exact predicts.finished awaits _

/-- A task at rest has written its whole predicted output. -/
theorem written_of_atRest
    {program : Point → Await Point}
    {output : Point → Bytes → Bytes}
    (predicts : Predicts program output)
    {point : Point}
    {input : Bytes}
    {closed : Bool}
    {events : List Event}
    {state : TaskState Point}
    (noFailure : Event.fail ∉ events)
    (reached : Run.run (step program)
      (TaskState.start point input closed) events = some state)
    (rest : AtRest program state) :
    state.written = output point input := by
  have whole :=
    written_append_pendingOutput_of_run predicts noFailure reached
  rwa [pendingOutput_of_atRest predicts rest, List.append_nil] at whole

/-- A task with nothing left to do: its unread bytes are used up, and it has
finished or waits for more. -/
def Settled
    (program : Point → Await Point)
    (state : TaskState Point) : Prop :=
  state.unread = [] ∧
    match program state.point with
    | .readExact total _ _ _ => state.progress.length < total
    | .read _ _ _ _ => True
    | .writeAll _ _ _ => False
    | .finished => True

/-- A settled task is at rest. -/
theorem Settled.atRest
    {program : Point → Await Point}
    {state : TaskState Point}
    (settled : Settled program state) :
    AtRest program state := by
  obtain ⟨drained, waits⟩ := settled
  unfold AtRest
  cases awaits : program state.point with
  | readExact total filled eof failed =>
      simp only [awaits] at waits
      exact ⟨drained, waits⟩
  | read capacity received eof failed => exact drained
  | writeAll data next failed => simp only [awaits] at waits
  | finished => trivial

/-- A settled task has written its whole predicted output. -/
theorem written_of_settled
    {program : Point → Await Point}
    {output : Point → Bytes → Bytes}
    (predicts : Predicts program output)
    {point : Point}
    {input : Bytes}
    {closed : Bool}
    {events : List Event}
    {state : TaskState Point}
    (noFailure : Event.fail ∉ events)
    (reached : Run.run (step program)
      (TaskState.start point input closed) events = some state)
    (settled : Settled program state) :
    state.written = output point input :=
  written_of_atRest predicts noFailure reached settled.atRest

end AsyncTask
end Foundation
