import GhostProtocol.Foundation.Stream
import Mathlib.Logic.Function.Iterate

/-!
# Writing through a polled writer

A writer is polled with the bytes on offer and either accepts some of them,
fails, or is not ready yet.  `write_all` polls until the whole buffer has been
accepted, and the buffers of successive calls follow one another.  A recorder
around a writer keeps what has been accepted and what was offered where.
-/

namespace Foundation

/-- The answer of a poll. -/
inductive Poll (α : Type)
  | ready (value : α)
  | pending
  deriving DecidableEq, Repr

/-- How a writer answers a poll, and what becomes of it. -/
abbrev AsyncWrite (σ : Type) :=
  σ → Bytes → Poll (Except IoError Nat) × σ

namespace AsyncWrite

variable {σ : Type}

/-! ## Sequences of `write_all` -/

/-- A task that writes buffers one after another: the writer, the rest of the
buffer being written, the buffers still to come, and the error that ended
it. -/
structure Writing (σ : Type) where
  writer : σ
  current : Bytes
  later : List Bytes
  failed : Option IoError

/-- A task about to write the buffers. -/
def start (writer : σ) (buffers : List Bytes) : Writing σ :=
  { writer, current := [], later := buffers, failed := none }

/-- The error of a writer that accepts nothing. -/
def writeZero : IoError :=
  .other "write zero"

/-- One poll of a `write_all` that still has bytes to write. -/
def pollBuffer (write : AsyncWrite σ) (state : Writing σ) : Writing σ :=
  match write state.writer state.current with
  | (.pending, writer) => { state with writer }
  | (.ready (.error error), writer) =>
      { state with writer, failed := some error }
  | (.ready (.ok count), writer) =>
      if count = 0 then { state with writer, failed := some writeZero }
      else { state with writer, current := state.current.drop count }

/-- One step of the task: the next poll of the running `write_all`, or the
start of the next one.  An error ends the task. -/
def step (write : AsyncWrite σ) (state : Writing σ) : Writing σ :=
  match state.failed with
  | some _ => state
  | none =>
      match state.current, state.later with
      | [], [] => state
      | [], buffer :: later => { state with current := buffer, later }
      | _ :: _, _ => pollBuffer write state

/-- Whether every `write_all` of the task has completed. -/
def Completed (state : Writing σ) : Prop :=
  state.failed = none ∧ state.current = [] ∧ state.later = []

/-! ## Writers that make progress -/

/-- Polled again and again with the same bytes, the writer becomes ready. -/
inductive BecomesReady (write : AsyncWrite σ) (bytes : Bytes) : σ → Prop
  | ready {writer : σ} {result : Except IoError Nat}
      (answered : (write writer bytes).1 = .ready result) :
      BecomesReady write bytes writer
  | pending {writer : σ}
      (waits : (write writer bytes).1 = .pending)
      (later : BecomesReady write bytes (write writer bytes).2) :
      BecomesReady write bytes writer

/-- A writer that accepts between one and all of the bytes on offer whenever it
is ready, and is not ready only finitely often in between. -/
structure Accepting (write : AsyncWrite σ) : Prop where
  accepts : ∀ writer bytes result, bytes ≠ [] →
    (write writer bytes).1 = .ready result →
      ∃ count, result = .ok count ∧ 0 < count ∧ count ≤ bytes.length
  becomesReady : ∀ writer bytes, bytes ≠ [] →
    BecomesReady write bytes writer

/-- What a poll does to a task whose writer makes progress: nothing is lost
while it waits, and what it accepts is at least one byte of the buffer. -/
theorem pollBuffer_cases
    {write : AsyncWrite σ}
    (accepting : Accepting write)
    (state : Writing σ)
    (nonempty : state.current ≠ []) :
    ((write state.writer state.current).1 = .pending ∧
        pollBuffer write state =
          { state with writer := (write state.writer state.current).2 }) ∨
      ∃ count, (write state.writer state.current).1 = .ready (.ok count) ∧
        0 < count ∧ count ≤ state.current.length ∧
        pollBuffer write state =
          { state with
            writer := (write state.writer state.current).2
            current := state.current.drop count } := by
  unfold pollBuffer
  cases answer : write state.writer state.current with
  | mk result writer =>
      cases result with
      | pending => exact .inl ⟨rfl, rfl⟩
      | ready result =>
          obtain ⟨count, rfl, positive, fits⟩ := accepting.accepts state.writer
            state.current result nonempty (by rw [answer])
          refine .inr ⟨count, rfl, positive, fits, ?_⟩
          simp only [if_neg (Nat.ne_of_gt positive)]

/-- A running `write_all` is polled. -/
theorem step_of_current
    (write : AsyncWrite σ)
    {state : Writing σ}
    (running : state.failed = none)
    (nonempty : state.current ≠ []) :
    step write state = pollBuffer write state := by
  unfold step
  rw [running]
  match current : state.current, nonempty with
  | byte :: rest, _ => rfl

/-- The next buffer is taken up when the one before it is written. -/
theorem step_of_later
    (write : AsyncWrite σ)
    {state : Writing σ}
    (running : state.failed = none)
    (written : state.current = [])
    {buffer : Bytes}
    {later : List Bytes}
    (next : state.later = buffer :: later) :
    step write state = { state with current := buffer, later } := by
  unfold step
  rw [running, written, next]

/-- A task that has written everything is done. -/
theorem step_of_done
    (write : AsyncWrite σ)
    {state : Writing σ}
    (running : state.failed = none)
    (written : state.current = [])
    (last : state.later = []) :
    step write state = state := by
  unfold step
  rw [running, written, last]

/-! ## Completion -/

/-- The task reaches a state with the property. -/
def Reaches
    (write : AsyncWrite σ)
    (property : Writing σ → Prop)
    (state : Writing σ) : Prop :=
  ∃ polls, property ((step write)^[polls] state)

theorem Reaches.of_now
    {write : AsyncWrite σ}
    {property : Writing σ → Prop}
    {state : Writing σ}
    (now : property state) :
    Reaches write property state :=
  ⟨0, now⟩

theorem Reaches.of_step
    {write : AsyncWrite σ}
    {property : Writing σ → Prop}
    {state : Writing σ}
    (reached : Reaches write property (step write state)) :
    Reaches write property state := by
  obtain ⟨polls, holds⟩ := reached
  exact ⟨polls + 1, holds⟩

/-- While the writer is not ready, the task waits for it to become ready. -/
theorem reaches_of_becomesReady
    {write : AsyncWrite σ}
    (accepting : Accepting write)
    {property : Writing σ → Prop}
    {writer : σ}
    {current : Bytes}
    {later : List Bytes}
    (nonempty : current ≠ [])
    (eventually : BecomesReady write current writer)
    (continues : ∀ next count, 0 < count → count ≤ current.length →
      Reaches write property ⟨next, current.drop count, later, none⟩) :
    Reaches write property ⟨writer, current, later, none⟩ := by
  induction eventually with
  | @ready writer result answered =>
      refine .of_step ?_
      rw [step_of_current write rfl nonempty]
      rcases pollBuffer_cases accepting ⟨writer, current, later, none⟩
        nonempty with ⟨waits, -⟩ | ⟨count, -, positive, fits, polled⟩
      · rw [show (write writer current).1 = .pending from waits] at answered
        cases answered
      · rw [polled]
        exact continues _ count positive fits
  | @pending writer waits eventually inductionHypothesis =>
      refine .of_step ?_
      rw [step_of_current write rfl nonempty]
      rcases pollBuffer_cases accepting ⟨writer, current, later, none⟩
        nonempty with ⟨-, polled⟩ | ⟨count, answered, -⟩
      · rw [polled]
        exact inductionHypothesis
      · rw [show (write writer current).1 = .ready (.ok count) from answered]
          at waits
        cases waits

/-- A running `write_all` writes its whole buffer. -/
theorem reaches_written
    {write : AsyncWrite σ}
    (accepting : Accepting write)
    {property : Writing σ → Prop}
    {later : List Bytes}
    (continues : ∀ next, Reaches write property ⟨next, [], later, none⟩)
    (writer : σ)
    (current : Bytes) :
    Reaches write property ⟨writer, current, later, none⟩ := by
  induction length : current.length using Nat.strongRecOn
    generalizing writer current with
  | ind total inductionHypothesis =>
      by_cases empty : current = []
      · rw [empty]
        exact continues writer
      · refine reaches_of_becomesReady accepting empty
          (accepting.becomesReady writer current empty) ?_
        intro next count positive fits
        refine inductionHypothesis (current.drop count).length ?_ next _ rfl
        rw [List.length_drop]
        omega

/-- Every `write_all` of a task completes. -/
theorem reaches_completed
    {write : AsyncWrite σ}
    (accepting : Accepting write)
    (writer : σ)
    (current : Bytes)
    (later : List Bytes) :
    Reaches write Completed ⟨writer, current, later, none⟩ := by
  induction later generalizing writer current with
  | nil =>
      exact reaches_written accepting
        (fun next => .of_now ⟨rfl, rfl, rfl⟩) writer current
  | cons buffer later inductionHypothesis =>
      refine reaches_written accepting (fun next => .of_step ?_) writer current
      rw [step_of_later write rfl rfl rfl]
      exact inductionHypothesis next buffer

/-! ## Recording -/

/-- One offer to a writer: how many bytes it had accepted before, and how many
were offered. -/
structure Offer where
  position : Nat
  length : Nat
  deriving DecidableEq, Repr

/-- A writer with the bytes it has accepted and the offers made to it. -/
structure Recorded (σ : Type) where
  writer : σ
  accepted : Bytes
  offers : List Offer

/-- A fresh record of a writer. -/
def record (writer : σ) : Recorded σ :=
  { writer, accepted := [], offers := [] }

/-- The bytes accepted by an answer. -/
def acceptedBy (bytes : Bytes) : Poll (Except IoError Nat) → Bytes
  | .ready (.ok count) => bytes.take count
  | _ => []

/-- Poll a writer and record the offer and what was accepted of it. -/
def recording (write : AsyncWrite σ) : AsyncWrite (Recorded σ) :=
  fun recorded bytes =>
    let answer := write recorded.writer bytes
    (answer.1,
      { writer := answer.2
        accepted := recorded.accepted ++ acceptedBy bytes answer.1
        offers := recorded.offers ++
          [{ position := recorded.accepted.length, length := bytes.length }] })

/-- Recording changes nothing about the answers of a writer. -/
theorem Accepting.recording
    {write : AsyncWrite σ}
    (accepting : Accepting write) :
    Accepting (recording write) where
  accepts recorded bytes := accepting.accepts recorded.writer bytes
  becomesReady recorded bytes nonempty := by
    obtain ⟨writer, accepted, offers⟩ := recorded
    have eventually := accepting.becomesReady writer bytes nonempty
    induction eventually generalizing accepted offers with
    | ready answered => exact .ready answered
    | pending waits later inductionHypothesis =>
        exact .pending waits (inductionHypothesis _ _)

end AsyncWrite
end Foundation
