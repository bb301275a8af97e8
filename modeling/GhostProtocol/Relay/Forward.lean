import GhostProtocol.Relay.Frames

/-!
# The frames a receiving loop forwards

A receiving loop forwards the frames at the front of its input that have a
payload, and no others.  That they open under its cipher is all it asks of
them.
-/

namespace GhostProtocol
namespace Relay

open Foundation Foundation.AsyncTask Common Crypto

/-- A receiving loop that has read a whole sealed frame with a payload, which it
is about to forward. -/
def Forwards
    (cipher : GhostCipher)
    (state : TaskState ReceivePoint)
    (frame : GhostFrame) : Prop :=
  state.point = .frame state.progress.length ∧
    openFrame cipher state.progress = some frame ∧ frame.payload ≠ []

/-- Next such a loop writes the payload. -/
theorem Forwards.step
    {cipher : GhostCipher}
    {state : TaskState ReceivePoint}
    {frame : GhostFrame}
    (forwards : Forwards cipher state frame) :
    AsyncTask.step (receiveLoop cipher) state .resume =
      some (state.goto (.payload frame.payload)) := by
  obtain ⟨point, opened, nonempty⟩ := forwards
  simp only [AsyncTask.step, point, receiveLoop, if_true, afterFrame, opened,
    if_neg nonempty]

/-- The frames that a receiving loop has still to open. -/
def pendingFrames
    (cipher : GhostCipher)
    (state : TaskState ReceivePoint) : List (Bytes × GhostFrame) :=
  if state.point = .stopped then []
  else frontFrames cipher
    (receivePending state.point state.progress ++ state.unread)

theorem pendingFrames_of_stopped
    (cipher : GhostCipher)
    {state : TaskState ReceivePoint}
    (stopped : state.point = .stopped) :
    pendingFrames cipher state = [] :=
  if_pos stopped

theorem pendingFrames_of_running
    (cipher : GhostCipher)
    {state : TaskState ReceivePoint}
    (running : state.point ≠ .stopped) :
    pendingFrames cipher state = frontFrames cipher
      (receivePending state.point state.progress ++ state.unread) :=
  if_neg running

/-- A loop that has read a frame that opens has that frame still to open. -/
theorem pendingFrames_of_openFrame
    {cipher : GhostCipher}
    {state : TaskState ReceivePoint}
    {frame : GhostFrame}
    (point : state.point = .frame state.progress.length)
    (fits : state.progress.length < 65536)
    (opened : openFrame cipher state.progress = some frame) :
    pendingFrames cipher state =
      (state.progress, frame) :: frontFrames cipher state.unread := by
  rw [pendingFrames_of_running cipher (by
    rw [point]
    exact ReceivePoint.noConfusion), point]
  exact frontFrames_frameBytes cipher fits opened state.unread

/-- A receiving loop whose frames still to open are the last of those at the
front of `input`. -/
structure Ahead
    (cipher : GhostCipher)
    (input : Bytes)
    (state : TaskState ReceivePoint) : Prop where
  short : ∀ frameLen, state.point = .frame frameLen → frameLen < 65536
  suffix : pendingFrames cipher state <:+ frontFrames cipher input

/-- A loop about to start on `input`. -/
theorem ahead_start
    (cipher : GhostCipher)
    (input : Bytes)
    (closed : Bool) :
    Ahead cipher input (TaskState.start .length input closed) where
  short := by
    intro frameLen isFrame
    cases isFrame
  suffix := List.suffix_rfl

/-- A loop that stops has nothing still to open. -/
theorem ahead_stopped
    (cipher : GhostCipher)
    (input : Bytes)
    (state : TaskState ReceivePoint) :
    Ahead cipher input (state.goto .stopped) where
  short := by
    intro frameLen isFrame
    cases isFrame
  suffix := by
    rw [pendingFrames_of_stopped cipher rfl]
    exact List.nil_suffix

/-- Each event of a loop leaves the frames still to open, or takes the first of
them, or all. -/
theorem Ahead.of_transition
    {cipher : GhostCipher}
    {input : Bytes}
    {state next : TaskState ReceivePoint}
    {event : Event}
    (ahead : Ahead cipher input state)
    (transition : Transition (receiveLoop cipher) state event next) :
    Ahead cipher input next := by
  have suffix := ahead.suffix
  cases receiveStep_of_transition transition with
  | filling reads positive fits available =>
      rw [pendingFrames, ← receivePending_fill reads] at suffix
      exact ⟨ahead.short, suffix⟩
  | writing waits positive fits =>
      refine ⟨ahead.short, ?_⟩
      rw [pendingFrames] at suffix ⊢
      simp only [waits] at suffix ⊢
      exact suffix
  | lengthRead waits complete =>
      refine ⟨fun frameLen => short_of_lengthRead, ?_⟩
      rw [pendingFrames_of_running cipher (by
        rw [waits]
        exact ReceivePoint.noConfusion), waits] at suffix
      rw [pendingFrames_of_running cipher ReceivePoint.noConfusion]
      simp only [TaskState.goto]
      rw [receivePending_lengthRead complete]
      exact suffix
  | frameRead waits =>
      cases opened : openFrame cipher state.progress with
      | none =>
          rw [afterFrame, opened]
          exact ahead_stopped cipher input state
      | some frame =>
          rw [pendingFrames_of_openFrame waits
            (ahead.short _ waits) opened] at suffix
          have others := (List.suffix_cons _ _).trans suffix
          rcases afterFrame_of_openFrame opened with after | after
          · rw [after]
            exact ⟨fun _ isFrame => ReceivePoint.noConfusion isFrame, others⟩
          · rw [after]
            exact ⟨fun _ isFrame => ReceivePoint.noConfusion isFrame, others⟩
  | payloadWritten waits complete =>
      rw [pendingFrames_of_running cipher (by
        rw [waits]
        exact ReceivePoint.noConfusion), waits] at suffix
      exact ⟨fun _ isFrame => ReceivePoint.noConfusion isFrame, suffix⟩
  | stopping running ended => exact ahead_stopped cipher input state

/-- A loop forwards only frames at the front of its input. -/
theorem mem_frontFrames_of_run
    {cipher : GhostCipher}
    {input : Bytes}
    {closed : Bool}
    {events : List Event}
    {state : TaskState ReceivePoint}
    {frame : GhostFrame}
    (reached : Run.run (step (receiveLoop cipher))
      (TaskState.start .length input closed) events = some state)
    (forwards : Forwards cipher state frame) :
    (state.progress, frame) ∈ frontFrames cipher input := by
  have ahead : Ahead cipher input state :=
    Run.invariant_of_step (Ahead cipher input)
      (fun _ _ _ before stepped =>
        before.of_transition (transition_of_step stepped))
      (ahead_start cipher input closed) reached
  obtain ⟨point, opened, -⟩ := forwards
  refine ahead.suffix.subset ?_
  rw [pendingFrames_of_openFrame point (ahead.short _ point) opened]
  exact List.mem_cons_self

/-- A loop can come to forward any frame at the front of its input that has a
payload. -/
theorem exists_run_forwards
    {cipher : GhostCipher}
    {input : Bytes}
    {entry : Bytes × GhostFrame}
    (member : entry ∈ frontFrames cipher input)
    (nonempty : entry.2.payload ≠ [])
    (closed : Bool) :
    ∃ events state,
      Run.run (step (receiveLoop cipher))
          (TaskState.start .length input closed) events = some state ∧
        Forwards cipher state entry.2 := by
  obtain ⟨opens, tail, bytes⟩ := frontFrames_spec cipher input
  obtain ⟨before, after, split⟩ := List.append_of_mem member
  obtain ⟨blob, frame⟩ := entry
  obtain ⟨fits, opened⟩ := opens _ member
  have opensBefore : ∀ other ∈ before, other.1.length < 65536 ∧
      openFrame cipher other.1 = some other.2 := by
    intro other early
    refine opens other ?_
    rw [split]
    exact List.mem_append_left _ early
  obtain ⟨events, -, received⟩ := run_receive_frames opensBefore
    (frameBytes blob ++
      (after.flatMap (fun other => frameBytes other.1) ++ tail)) closed []
  rw [split, List.flatMap_append, List.flatMap_cons, List.append_assoc,
    List.append_assoc] at bytes
  rw [← bytes] at received
  have lengthRead := run_readExact (receiveLoop cipher)
    ⟨.length, [], frameBytes blob ++
      (after.flatMap (fun other => frameBytes other.1) ++ tail), closed,
      [] ++ before.flatMap fun other => other.2.payload⟩
    (u16Be (UInt16.ofNat blob.length))
    (blob ++ (after.flatMap (fun other => frameBytes other.1) ++ tail))
    rfl rfl (List.append_assoc _ _ _) (List.cons_ne_nil _ _)
  rw [afterLength_eq, u16FromBuffer_u16Be, toNat_ofNat_length _ fits]
    at lengthRead
  have blobRead := run_transfer_readExact (receiveLoop cipher)
    ⟨.frame blob.length, [],
      blob ++ (after.flatMap (fun other => frameBytes other.1) ++ tail),
      closed, [] ++ before.flatMap fun other => other.2.payload⟩ blob _
    rfl rfl rfl (ne_nil_of_openFrame opened)
  exact ⟨_, _, (Run.run_append_eq_some _ _ _ _ _).mpr ⟨_, received,
    (Run.run_append_eq_some _ _ _ _ _).mpr ⟨_, lengthRead, blobRead⟩⟩,
    rfl, opened, nonempty⟩

end Relay
end GhostProtocol
