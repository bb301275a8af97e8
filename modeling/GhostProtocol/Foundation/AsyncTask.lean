import GhostProtocol.Foundation.Bytes
import GhostProtocol.Foundation.Run

/-!
# Asynchronous tasks between one byte source and one byte sink

A task is a function from program points to the operation awaited there.  A
read delivers any nonempty part of the unread bytes that fits the buffer, a
write is accepted in parts of any positive size, and `read_exact` and
`write_all` repeat until they are complete, so every segmentation of the
source and every partial acceptance by the sink is a run.  At the end of the
unread bytes a closed source reports the end of the stream and an open one
leaves the task waiting.
-/

namespace Foundation
namespace AsyncTask

variable {Point LeftPoint RightPoint : Type*}

/-- The operation awaited at a program point, with the points that follow its
completion, the end of the source and an I/O error. -/
inductive Await (Point : Type*)
  | readExact (count : Nat) (filled : Bytes → Point) (eof failed : Point)
  | read (capacity : Nat) (received : Bytes → Point) (eof failed : Point)
  | writeAll (data : Bytes) (written failed : Point)
  | finished

/-- Whether nothing is awaited any more. -/
def Await.isFinished : Await Point → Bool
  | .finished => true
  | _ => false

/-- A task at an await point.  `progress` holds the bytes that the pending
`read_exact` has received or the pending `write_all` has written. -/
structure TaskState (Point : Type*) where
  point : Point
  progress : Bytes
  unread : Bytes
  closed : Bool
  written : Bytes

/-- A task about to run from `point` on a source that holds `unread`. -/
def TaskState.start
    (point : Point)
    (unread : Bytes)
    (closed : Bool) : TaskState Point :=
  { point, progress := [], unread, closed, written := [] }

/-- What happens to the awaited operation. -/
inductive Event
  /-- `count` bytes are read or written. -/
  | transfer (count : Nat)
  /-- The complete operation hands over to the next point. -/
  | resume
  /-- The source reports the end of the stream. -/
  | eof
  /-- The operation reports an I/O error. -/
  | fail
  deriving DecidableEq, Repr

/-- The task moves to another point with no operation in progress. -/
def TaskState.goto
    (state : TaskState Point)
    (point : Point) : TaskState Point :=
  { state with point, progress := [] }

/-- One event of a task, when the awaited operation allows it. -/
def step
    (program : Point → Await Point)
    (state : TaskState Point) : Event → Option (TaskState Point)
  | .transfer count =>
      match program state.point with
      | .readExact total _ _ _ =>
          if 0 < count ∧ state.progress.length + count ≤ total ∧
              count ≤ state.unread.length then
            some { state with
              progress := state.progress ++ state.unread.take count
              unread := state.unread.drop count }
          else none
      | .read capacity received _ _ =>
          if 0 < count ∧ count ≤ capacity ∧ count ≤ state.unread.length then
            some { state.goto (received (state.unread.take count)) with
              unread := state.unread.drop count }
          else none
      | .writeAll data _ _ =>
          if 0 < count ∧ state.progress.length + count ≤ data.length then
            some { state with
              progress := data.take (state.progress.length + count)
              written := state.written ++
                (data.drop state.progress.length).take count }
          else none
      | .finished => none
  | .resume =>
      match program state.point with
      | .readExact total filled _ _ =>
          if state.progress.length = total then
            some (state.goto (filled state.progress))
          else none
      | .writeAll data written _ =>
          if state.progress.length = data.length then
            some (state.goto written)
          else none
      | _ => none
  | .eof =>
      match program state.point with
      | .readExact total _ eof _ =>
          if state.progress.length < total ∧ state.unread = [] ∧
              state.closed = true then
            some (state.goto eof)
          else none
      | .read _ _ eof _ =>
          if state.unread = [] ∧ state.closed = true then
            some (state.goto eof)
          else none
      | _ => none
  | .fail =>
      match program state.point with
      | .readExact _ _ _ failed => some (state.goto failed)
      | .read _ _ _ failed => some (state.goto failed)
      | .writeAll _ _ failed => some (state.goto failed)
      | .finished => none

/-- Everything one event can do to a task. -/
inductive Transition
    (program : Point → Await Point) :
    TaskState Point → Event → TaskState Point → Prop
  | fill {state total filled eof failed count}
      (awaits : program state.point = .readExact total filled eof failed)
      (positive : 0 < count)
      (fits : state.progress.length + count ≤ total)
      (available : count ≤ state.unread.length) :
      Transition program state (.transfer count)
        { state with
          progress := state.progress ++ state.unread.take count
          unread := state.unread.drop count }
  | receive {state capacity received eof failed count}
      (awaits : program state.point = .read capacity received eof failed)
      (positive : 0 < count)
      (fits : count ≤ capacity)
      (available : count ≤ state.unread.length) :
      Transition program state (.transfer count)
        { state.goto (received (state.unread.take count)) with
          unread := state.unread.drop count }
  | write {state data next failed count}
      (awaits : program state.point = .writeAll data next failed)
      (positive : 0 < count)
      (fits : state.progress.length + count ≤ data.length) :
      Transition program state (.transfer count)
        { state with
          progress := data.take (state.progress.length + count)
          written := state.written ++
            (data.drop state.progress.length).take count }
  | filled {state total filled eof failed}
      (awaits : program state.point = .readExact total filled eof failed)
      (complete : state.progress.length = total) :
      Transition program state .resume (state.goto (filled state.progress))
  | wrote {state data next failed}
      (awaits : program state.point = .writeAll data next failed)
      (complete : state.progress.length = data.length) :
      Transition program state .resume (state.goto next)
  | fillEof {state total filled eof failed}
      (awaits : program state.point = .readExact total filled eof failed)
      (partly : state.progress.length < total)
      (drained : state.unread = [])
      (closed : state.closed = true) :
      Transition program state .eof (state.goto eof)
  | readEof {state capacity received eof failed}
      (awaits : program state.point = .read capacity received eof failed)
      (drained : state.unread = [])
      (closed : state.closed = true) :
      Transition program state .eof (state.goto eof)
  | failFill {state total filled eof failed}
      (awaits : program state.point = .readExact total filled eof failed) :
      Transition program state .fail (state.goto failed)
  | failRead {state capacity received eof failed}
      (awaits : program state.point = .read capacity received eof failed) :
      Transition program state .fail (state.goto failed)
  | failWrite {state data next failed}
      (awaits : program state.point = .writeAll data next failed) :
      Transition program state .fail (state.goto failed)

/-- Every step is one of the listed transitions. -/
theorem transition_of_step
    {program : Point → Await Point}
    {state next : TaskState Point}
    {event : Event}
    (stepped : step program state event = some next) :
    Transition program state event next := by
  cases event with
  | transfer count =>
      simp only [step] at stepped
      split at stepped
      · rename_i awaits
        split_ifs at stepped with enabled
        obtain rfl := Option.some.inj stepped
        exact .fill awaits enabled.1 enabled.2.1 enabled.2.2
      · rename_i awaits
        split_ifs at stepped with enabled
        obtain rfl := Option.some.inj stepped
        exact .receive awaits enabled.1 enabled.2.1 enabled.2.2
      · rename_i awaits
        split_ifs at stepped with enabled
        obtain rfl := Option.some.inj stepped
        exact .write awaits enabled.1 enabled.2
      · contradiction
  | resume =>
      simp only [step] at stepped
      split at stepped
      · rename_i awaits
        split_ifs at stepped with complete
        obtain rfl := Option.some.inj stepped
        exact .filled awaits complete
      · rename_i awaits
        split_ifs at stepped with complete
        obtain rfl := Option.some.inj stepped
        exact .wrote awaits complete
      · contradiction
  | eof =>
      simp only [step] at stepped
      split at stepped
      · rename_i awaits
        split_ifs at stepped with ended
        obtain rfl := Option.some.inj stepped
        exact .fillEof awaits ended.1 ended.2.1 ended.2.2
      · rename_i awaits
        split_ifs at stepped with ended
        obtain rfl := Option.some.inj stepped
        exact .readEof awaits ended.1 ended.2
      · contradiction
  | fail =>
      simp only [step] at stepped
      split at stepped
      · obtain rfl := Option.some.inj stepped
        exact .failFill (by assumption)
      · obtain rfl := Option.some.inj stepped
        exact .failRead (by assumption)
      · obtain rfl := Option.some.inj stepped
        exact .failWrite (by assumption)
      · contradiction

/-- What an event reads: the bytes of a `read`, if it is one. -/
def readBy
    (program : Point → Await Point)
    (state : TaskState Point) : Event → List Bytes
  | .transfer count =>
      match program state.point with
      | .read _ _ _ _ => [state.unread.take count]
      | _ => []
  | .resume => []
  | .eof => []
  | .fail => []

/-- What the successive reads of a task return along a list of events. -/
def reads
    (program : Point → Await Point) :
    TaskState Point → List Event → List Bytes :=
  Run.observed (step program) (readBy program)

/-- A finished task takes no event. -/
theorem step_of_isFinished
    {program : Point → Await Point}
    {state : TaskState Point}
    (finished : (program state.point).isFinished = true)
    (event : Event) :
    step program state event = none := by
  cases awaits : program state.point with
  | readExact total filled eof failed =>
      rw [awaits] at finished
      cases finished
  | read capacity received eof failed =>
      rw [awaits] at finished
      cases finished
  | writeAll data next failed =>
      rw [awaits] at finished
      cases finished
  | finished => cases event <;> simp only [step, awaits]

/-! ## Whole operations

Each operation can be carried out in one piece, so nothing a task awaits is
out of reach. -/

/-- A `read_exact` can receive a nonempty block that is there at once. -/
theorem run_transfer_readExact
    (program : Point → Await Point)
    (state : TaskState Point)
    (block rest : Bytes)
    {filled : Bytes → Point}
    {eof failed : Point}
    (awaits : program state.point =
      .readExact block.length filled eof failed)
    (fresh : state.progress = [])
    (unread : state.unread = block ++ rest)
    (nonempty : block ≠ []) :
    Run.run (step program) state [.transfer block.length] =
      some { state with progress := block, unread := rest } := by
  have positive : 0 < block.length := List.length_pos_of_ne_nil nonempty
  have only : step program state (.transfer block.length) =
      some { state with progress := block, unread := rest } := by
    simp only [step, awaits, fresh, unread, List.take_left, List.drop_left,
      List.length_nil, List.nil_append]
    rw [if_pos ⟨positive, by omega, by rw [List.length_append]; omega⟩]
  simp only [Run.run, only]

/-- A `read_exact` of a nonempty block that is there can be completed. -/
theorem run_readExact
    (program : Point → Await Point)
    (state : TaskState Point)
    (block rest : Bytes)
    {filled : Bytes → Point}
    {eof failed : Point}
    (awaits : program state.point =
      .readExact block.length filled eof failed)
    (fresh : state.progress = [])
    (unread : state.unread = block ++ rest)
    (nonempty : block ≠ []) :
    Run.run (step program) state [.transfer block.length, .resume] =
      some { state.goto (filled block) with unread := rest } := by
  have received := run_transfer_readExact program state block rest awaits fresh
    unread nonempty
  have resumed : step program { state with progress := block, unread := rest }
      .resume = some { state.goto (filled block) with unread := rest } := by
    simp only [step, awaits]
    rfl
  refine (Run.run_append_eq_some _ _ _ [_] [_]).mpr ⟨_, received, ?_⟩
  simp only [Run.run, resumed]

/-- A `read` can return a nonempty block that is there and fits. -/
theorem run_read
    (program : Point → Await Point)
    (state : TaskState Point)
    (block rest : Bytes)
    {capacity : Nat}
    {received : Bytes → Point}
    {eof failed : Point}
    (awaits : program state.point = .read capacity received eof failed)
    (unread : state.unread = block ++ rest)
    (nonempty : block ≠ [])
    (fits : block.length ≤ capacity) :
    Run.run (step program) state [.transfer block.length] =
      some { state.goto (received block) with unread := rest } := by
  have positive : 0 < block.length := List.length_pos_of_ne_nil nonempty
  have only : step program state (.transfer block.length) =
      some { state.goto (received block) with unread := rest } := by
    simp only [step, awaits, unread, List.take_left, List.drop_left]
    rw [if_pos ⟨positive, fits, by rw [List.length_append]; omega⟩]
  simp only [Run.run, only]

/-- A `write_all` of nonempty data can be completed. -/
theorem run_writeAll
    (program : Point → Await Point)
    (state : TaskState Point)
    (data : Bytes)
    {next failed : Point}
    (awaits : program state.point = .writeAll data next failed)
    (fresh : state.progress = [])
    (nonempty : data ≠ []) :
    Run.run (step program) state [.transfer data.length, .resume] =
      some { state.goto next with written := state.written ++ data } := by
  have positive : 0 < data.length := List.length_pos_of_ne_nil nonempty
  have first : step program state (.transfer data.length) =
      some { state with progress := data, written := state.written ++ data } := by
    simp only [step, awaits, fresh, List.length_nil, List.drop_zero,
      Nat.zero_add, List.take_length]
    rw [if_pos ⟨positive, le_refl _⟩]
  have second : step program
      { state with progress := data, written := state.written ++ data }
      .resume = some { state.goto next with written := state.written ++ data } := by
    simp only [step, awaits]
    rfl
  simp only [Run.run, first, second]

end AsyncTask
end Foundation
