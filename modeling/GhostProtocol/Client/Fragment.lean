import GhostProtocol.Foundation.AsyncWrite

/-!
# Fragmenting the start of a connection

The first bytes of a connection are written in small pieces, and the rest as it
comes.  Each poll offers at most one piece, which ends where the fragmented part
of the stream ends.
-/

namespace GhostProtocol
namespace Client

open Foundation

/-- A connection whose first bytes are written in pieces: how many of them are
left, the size of a piece, which is positive, and the delay between pieces in
milliseconds. -/
structure FragmentedStream (σ : Type) where
  inner : σ
  remainingFragBytes : Nat
  fragmentSize : Nat
  fragmentDelayMs : UInt64
  positive : 0 < fragmentSize

namespace FragmentedStream

variable {σ : Type}

/-- Wrap a connection.  A piece has at least one byte. -/
def new
    (inner : σ)
    (fragBytes fragmentSize : Nat)
    (delayMs : UInt64) : FragmentedStream σ :=
  { inner
    remainingFragBytes := fragBytes
    fragmentSize := max fragmentSize 1
    fragmentDelayMs := delayMs
    positive := Nat.le_max_right fragmentSize 1 }

/-- Offer the bytes, or the next piece of them while fragmenting. -/
def pollWrite (write : AsyncWrite σ) : AsyncWrite (FragmentedStream σ) :=
  fun self buf =>
    if self.remainingFragBytes = 0 then
      let answer := write self.inner buf
      (answer.1, { self with inner := answer.2 })
    else
      let chunk := min (min self.fragmentSize self.remainingFragBytes)
        buf.length
      match write self.inner (buf.take chunk) with
      | (.ready (.ok count), inner) =>
          (.ready (.ok count),
            { self with
              inner
              remainingFragBytes := self.remainingFragBytes - count })
      | (other, inner) => (other, { self with inner })

/-- What a poll offers to the connection. -/
def offered (self : FragmentedStream σ) (buf : Bytes) : Bytes :=
  if self.remainingFragBytes = 0 then buf
  else
    buf.take (min (min self.fragmentSize self.remainingFragBytes) buf.length)

/-- What becomes of the stream when the connection has answered. -/
def answered
    (self : FragmentedStream σ)
    (answer : Poll (Except IoError Nat))
    (inner : σ) : FragmentedStream σ :=
  match answer with
  | .ready (.ok count) =>
      { self with
        inner
        remainingFragBytes := self.remainingFragBytes - count }
  | _ => { self with inner }

/-- A poll offers a piece, hands the answer on and counts what was accepted. -/
theorem pollWrite_eq
    (write : AsyncWrite σ)
    (self : FragmentedStream σ)
    (buf : Bytes) :
    pollWrite write self buf =
      ((write self.inner (self.offered buf)).1,
        self.answered (write self.inner (self.offered buf)).1
          (write self.inner (self.offered buf)).2) := by
  unfold pollWrite offered
  split_ifs with done
  · generalize write self.inner buf = answer
    obtain ⟨result, inner⟩ := answer
    match result with
    | .pending => rfl
    | .ready (.error error) => rfl
    | .ready (.ok count) =>
        simp only [answered, done, Nat.zero_sub]
  · dsimp only
    generalize write self.inner _ = answer
    obtain ⟨result, inner⟩ := answer
    match result with
    | .pending => rfl
    | .ready (.error error) => rfl
    | .ready (.ok count) => rfl

/-- A poll offers the front of the buffer. -/
theorem offered_prefix
    (self : FragmentedStream σ)
    (buf : Bytes) :
    self.offered buf <+: buf := by
  unfold offered
  split_ifs with done
  · exact List.prefix_refl buf
  · exact List.take_prefix _ buf

/-- Something is offered of a nonempty buffer. -/
theorem offered_ne_nil
    (self : FragmentedStream σ)
    {buf : Bytes}
    (nonempty : buf ≠ []) :
    self.offered buf ≠ [] := by
  have positive := self.positive
  have long := List.length_pos_of_ne_nil nonempty
  apply List.ne_nil_of_length_pos
  unfold offered
  split_ifs with done
  · exact long
  · rw [List.length_take]
    omega

/-- While fragmenting, an offer is at most one piece and does not go beyond the
fragmented part. -/
theorem length_offered_le
    (self : FragmentedStream σ)
    (buf : Bytes)
    (fragmenting : self.remainingFragBytes ≠ 0) :
    (self.offered buf).length ≤ self.fragmentSize ∧
      (self.offered buf).length ≤ self.remainingFragBytes := by
  unfold offered
  rw [if_neg fragmenting, List.length_take]
  omega

/-- Waiting for the connection leaves the offer as it is, so the stream becomes
ready when the connection does. -/
theorem becomesReady_of_inner
    {write : AsyncWrite σ}
    {bytes buf : Bytes}
    {writer : σ}
    (eventually : AsyncWrite.BecomesReady write bytes writer)
    {self : FragmentedStream σ}
    (inner : self.inner = writer)
    (offers : self.offered buf = bytes) :
    AsyncWrite.BecomesReady (pollWrite write) buf self := by
  induction eventually generalizing self with
  | ready answered =>
      subst inner offers
      have same : (pollWrite write self buf).1 =
          (write self.inner (self.offered buf)).1 := by
        rw [pollWrite_eq]
      exact .ready (same.trans answered)
  | pending waits later inductionHypothesis =>
      subst inner offers
      refine .pending ?_ ?_
      · rw [pollWrite_eq]
        exact waits
      · rw [pollWrite_eq, waits]
        exact inductionHypothesis rfl rfl

/-- A fragmented connection makes progress when the connection does. -/
theorem accepting_pollWrite
    {write : AsyncWrite σ}
    (accepting : write.Accepting) :
    (pollWrite write).Accepting where
  accepts self buf result nonempty answered := by
    rw [pollWrite_eq] at answered
    obtain ⟨count, rfl, positive, fits⟩ := accepting.accepts self.inner
      (self.offered buf) result (self.offered_ne_nil nonempty) answered
    refine ⟨count, rfl, positive, fits.trans ?_⟩
    exact (self.offered_prefix buf).length_le
  becomesReady self buf nonempty :=
    becomesReady_of_inner (accepting.becomesReady self.inner (self.offered buf)
      (self.offered_ne_nil nonempty)) rfl rfl

/-! ## Runs -/

/-- What holds of a task that writes `all` through a fragmented connection: the
bytes accepted so far are followed by those still to be written, the bytes left
to fragment are those not yet accepted, and no offer that starts in the
fragmented part is longer than a piece or leaves that part. -/
structure Fragments
    (fragBytes fragmentSize : Nat)
    (all : Bytes)
    (state : AsyncWrite.Writing (FragmentedStream (AsyncWrite.Recorded σ))) :
    Prop where
  running : state.failed = none
  written : state.writer.inner.accepted ++
    (state.current ++ state.later.flatten) = all
  remaining : state.writer.remainingFragBytes =
    fragBytes - state.writer.inner.accepted.length
  size : state.writer.fragmentSize = fragmentSize
  offers : ∀ offer ∈ state.writer.inner.offers, offer.position < fragBytes →
    offer.length ≤ fragmentSize ∧ offer.position + offer.length ≤ fragBytes

/-- A task starts with nothing accepted and nothing offered. -/
theorem fragments_start
    (writer : σ)
    (fragBytes fragmentSize : Nat)
    (delayMs : UInt64)
    (buffers : List Bytes) :
    Fragments fragBytes (max fragmentSize 1) buffers.flatten
      (AsyncWrite.start (new (AsyncWrite.record writer) fragBytes fragmentSize
        delayMs) buffers) where
  running := rfl
  written := rfl
  remaining := rfl
  size := rfl
  offers _ member := absurd member List.not_mem_nil

/-- The next offer respects the fragmented part. -/
theorem Fragments.offers_append
    {fragBytes fragmentSize : Nat}
    {all : Bytes}
    {state : AsyncWrite.Writing (FragmentedStream (AsyncWrite.Recorded σ))}
    (fragments : Fragments fragBytes fragmentSize all state) :
    ∀ offer ∈ state.writer.inner.offers ++
        [⟨state.writer.inner.accepted.length,
          (state.writer.offered state.current).length⟩],
      offer.position < fragBytes →
        offer.length ≤ fragmentSize ∧
          offer.position + offer.length ≤ fragBytes := by
  intro offer member inside
  rcases List.mem_append.mp member with earlier | last
  · exact fragments.offers offer earlier inside
  · obtain rfl := List.mem_singleton.mp last
    have remaining := fragments.remaining
    have bounds := length_offered_le state.writer state.current (by
      rw [remaining]
      simp only at inside
      omega)
    rw [fragments.size, remaining] at bounds
    simp only at inside ⊢
    omega

/-- A poll that is not answered records the offer only. -/
theorem pollWrite_recording_pending
    {write : AsyncWrite σ}
    {self : FragmentedStream (AsyncWrite.Recorded σ)}
    {buf : Bytes}
    (waits : (pollWrite (AsyncWrite.recording write) self buf).1 = .pending) :
    ∃ writer, (pollWrite (AsyncWrite.recording write) self buf).2 =
      { self with
        inner := {
          writer
          accepted := self.inner.accepted
          offers := self.inner.offers ++
            [⟨self.inner.accepted.length, (self.offered buf).length⟩] } } := by
  rw [pollWrite_eq] at waits ⊢
  refine ⟨(write self.inner.writer (self.offered buf)).2, ?_⟩
  simp only [AsyncWrite.recording] at waits ⊢
  rw [waits]
  simp only [answered, AsyncWrite.acceptedBy, List.append_nil]

/-- A poll that accepts bytes records them, and they are the front of the
buffer. -/
theorem pollWrite_recording_ready
    {write : AsyncWrite σ}
    (accepting : write.Accepting)
    {self : FragmentedStream (AsyncWrite.Recorded σ)}
    {buf : Bytes}
    (nonempty : buf ≠ [])
    {count : Nat}
    (accepted : (pollWrite (AsyncWrite.recording write) self buf).1 =
      .ready (.ok count)) :
    ∃ writer, (pollWrite (AsyncWrite.recording write) self buf).2 =
      { self with
        inner := {
          writer
          accepted := self.inner.accepted ++ buf.take count
          offers := self.inner.offers ++
            [⟨self.inner.accepted.length, (self.offered buf).length⟩] }
        remainingFragBytes := self.remainingFragBytes - count } := by
  rw [pollWrite_eq] at accepted ⊢
  refine ⟨(write self.inner.writer (self.offered buf)).2, ?_⟩
  simp only [AsyncWrite.recording] at accepted ⊢
  obtain ⟨_, same, -, fits⟩ := accepting.accepts self.inner.writer
    (self.offered buf) _ (self.offered_ne_nil nonempty) accepted
  obtain rfl := Except.ok.inj same
  obtain ⟨rest, split⟩ := self.offered_prefix buf
  have front : buf.take count = (self.offered buf).take count := by
    conv_lhs => rw [← split]
    exact List.take_append_of_le_length fits
  rw [accepted, front]
  rfl

/-- Every step preserves what holds of a task. -/
theorem Fragments.step
    {write : AsyncWrite σ}
    (accepting : write.Accepting)
    {fragBytes fragmentSize : Nat}
    {all : Bytes}
    {state : AsyncWrite.Writing (FragmentedStream (AsyncWrite.Recorded σ))}
    (fragments : Fragments fragBytes fragmentSize all state) :
    Fragments fragBytes fragmentSize all
      (AsyncWrite.step (pollWrite (AsyncWrite.recording write)) state) := by
  have running := fragments.running
  have written := fragments.written
  by_cases empty : state.current = []
  · cases later : state.later with
    | nil =>
        rw [AsyncWrite.step_of_done _ running empty later]
        exact fragments
    | cons buffer later' =>
        rw [AsyncWrite.step_of_later _ running empty later]
        refine ⟨running, ?_, fragments.remaining, fragments.size,
          fragments.offers⟩
        rw [empty, later, List.nil_append, List.flatten_cons] at written
        exact written
  rw [AsyncWrite.step_of_current _ running empty]
  rcases AsyncWrite.pollBuffer_cases
    (accepting_pollWrite accepting.recording) state empty with
    ⟨waits, polled⟩ | ⟨count, accepted, positive, fits, polled⟩
  · obtain ⟨writer, next⟩ := pollWrite_recording_pending waits
    rw [polled, next]
    exact ⟨running, written, fragments.remaining, fragments.size,
      fragments.offers_append⟩
  · obtain ⟨writer, next⟩ := pollWrite_recording_ready accepting empty accepted
    rw [polled, next]
    refine ⟨running, ?_, ?_, fragments.size, fragments.offers_append⟩
    · rw [← written]
      simp only [List.append_assoc]
      rw [← List.append_assoc (state.current.take count),
        List.take_append_drop]
    · simp only [List.length_append, List.length_take_of_le fits,
        fragments.remaining]
      omega

/-- A task that writes the buffers through a fragmented connection, after some
number of polls. -/
def writing
    (write : AsyncWrite σ)
    (writer : σ)
    (fragBytes fragmentSize : Nat)
    (delayMs : UInt64)
    (buffers : List Bytes)
    (polls : Nat) :
    AsyncWrite.Writing (FragmentedStream (AsyncWrite.Recorded σ)) :=
  (AsyncWrite.step (pollWrite (AsyncWrite.recording write)))^[polls]
    (AsyncWrite.start (new (AsyncWrite.record writer) fragBytes fragmentSize
      delayMs) buffers)

/-- What holds of a task holds after any number of polls. -/
theorem fragments_writing
    {write : AsyncWrite σ}
    (accepting : write.Accepting)
    (writer : σ)
    (fragBytes fragmentSize : Nat)
    (delayMs : UInt64)
    (buffers : List Bytes)
    (polls : Nat) :
    Fragments fragBytes (max fragmentSize 1) buffers.flatten
      (writing write writer fragBytes fragmentSize delayMs buffers polls) := by
  induction polls with
  | zero => exact fragments_start writer fragBytes fragmentSize delayMs buffers
  | succ polls inductionHypothesis =>
      rw [writing, Function.iterate_succ_apply']
      exact inductionHypothesis.step accepting

/-- Writing buffers one after another through a fragmented connection never
fails and never loses or repeats a byte: at any time the accepted bytes are
followed by those still to be written, the bytes left to fragment are those not
yet accepted, and the offers respect the fragmented part; and every `write_all`
completes, with all bytes accepted. -/
theorem fragmented_writes
    {write : AsyncWrite σ}
    (accepting : write.Accepting)
    (writer : σ)
    (fragBytes fragmentSize : Nat)
    (delayMs : UInt64)
    (buffers : List Bytes) :
    (∀ polls, Fragments fragBytes (max fragmentSize 1) buffers.flatten
      (writing write writer fragBytes fragmentSize delayMs buffers polls)) ∧
    ∃ polls,
      AsyncWrite.Completed
        (writing write writer fragBytes fragmentSize delayMs buffers polls) ∧
      (writing write writer fragBytes fragmentSize delayMs buffers
        polls).writer.inner.accepted = buffers.flatten := by
  refine ⟨fragments_writing accepting writer fragBytes fragmentSize delayMs
    buffers, ?_⟩
  obtain ⟨polls, completed⟩ := AsyncWrite.reaches_completed
    (accepting_pollWrite accepting.recording)
    (new (AsyncWrite.record writer) fragBytes fragmentSize delayMs) [] buffers
  refine ⟨polls, completed, ?_⟩
  have written := (fragments_writing accepting writer fragBytes fragmentSize
    delayMs buffers polls).written
  obtain ⟨-, current, later⟩ := completed
  change (writing write writer fragBytes fragmentSize delayMs buffers
    polls).current = [] at current
  change (writing write writer fragBytes fragmentSize delayMs buffers
    polls).later = [] at later
  rw [current, later] at written
  simpa using written

/-- A writer that is not ready every other time, and then accepts one byte. -/
def oneByteWriter : AsyncWrite Bool
  | true, _ => (.pending, false)
  | false, _ => (.ready (.ok 1), true)

theorem accepting_oneByteWriter : AsyncWrite.Accepting oneByteWriter where
  accepts writer bytes result nonempty answered := by
    cases writer with
    | true => cases answered
    | false =>
        cases answered
        exact ⟨1, rfl, Nat.one_pos, List.length_pos_of_ne_nil nonempty⟩
  becomesReady writer bytes _ := by
    have ready : AsyncWrite.BecomesReady oneByteWriter bytes false := .ready rfl
    cases writer with
    | false => exact ready
    | true => exact .pending rfl ready

/-- Two buffers are written to the slow writer, the first bytes in pieces. -/
theorem fragmented_writes_oneByte :
    ∃ polls,
      AsyncWrite.Completed
        (writing oneByteWriter true 3 2 5 [[1, 2], [3, 4, 5]] polls) ∧
      (writing oneByteWriter true 3 2 5 [[1, 2], [3, 4, 5]]
        polls).writer.inner.accepted = [1, 2, 3, 4, 5] :=
  (fragmented_writes accepting_oneByteWriter true 3 2 5
    [[1, 2], [3, 4, 5]]).2

end FragmentedStream
end Client
end GhostProtocol
