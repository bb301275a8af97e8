import GhostProtocol.Foundation.HalfClose
import GhostProtocol.Relay.Send

/-!
# Sequences of frames

A byte string has at most one complete frame in front, so a receiving loop
reads it as one sequence of frames.  When all of them open, the loop stops
only at the end of the stream; a sending loop always does.
-/

namespace GhostProtocol
namespace Relay

open Foundation Foundation.AsyncTask Common Crypto

/-- A byte string has at most one complete frame in front. -/
theorem frameBytes_append_inj
    {first second firstRest secondRest : Bytes}
    (firstFits : first.length < 65536)
    (secondFits : second.length < 65536)
    (equal : frameBytes first ++ firstRest = frameBytes second ++ secondRest) :
    first = second ∧ firstRest = secondRest := by
  rw [frameBytes, frameBytes, List.append_assoc, List.append_assoc] at equal
  obtain ⟨lengths, bodies⟩ := List.append_inj equal rfl
  have sameLength : first.length = second.length := by
    have words := congrArg (fun bytes => (u16FromBuffer bytes).toNat) lengths
    simp only [u16FromBuffer_u16Be] at words
    rwa [toNat_ofNat_length _ firstFits, toNat_ofNat_length _ secondFits]
      at words
  exact List.append_inj bodies sameLength

/-- No complete frame is in front of the bytes. -/
def CutShort (bytes : Bytes) : Prop :=
  ∀ blob rest, blob.length < 65536 → bytes ≠ frameBytes blob ++ rest

/-- Nothing is delivered of a frame cut short. -/
theorem deliver_of_cutShort
    (cipher : GhostCipher)
    {bytes : Bytes}
    (cutShort : CutShort bytes) :
    deliver cipher bytes = [] := by
  match bytes, cutShort with
  | [], _ => exact deliver_nil cipher
  | [byte], _ => exact deliver_of_length_lt_two cipher Nat.one_lt_two
  | high :: low :: rest, cutShort =>
      have short : rest.length < (u16OfBe high low).toNat := by
        by_contra enough
        have length : (rest.take (u16OfBe high low).toNat).length =
            (u16OfBe high low).toNat :=
          List.length_take_of_le (Nat.not_lt.mp enough)
        refine cutShort (rest.take (u16OfBe high low).toNat)
          (rest.drop (u16OfBe high low).toNat) ?_ ?_
        · rw [length]
          exact (u16OfBe high low).toNat_lt
        · rw [frameBytes, length, UInt16.ofNat_toNat, u16Be_u16OfBe,
            List.append_assoc, List.take_append_drop]
          rfl
      have split : high :: low :: rest = u16Be (u16OfBe high low) ++ rest := by
        rw [u16Be_u16OfBe]
        rfl
      rw [split]
      exact deliver_of_incomplete cipher _ short

/-- Bytes made of `frames`, each of which opens, and of a last frame that is
cut short. -/
structure Framed
    (cipher : GhostCipher)
    (bytes : Bytes)
    (frames : List (Bytes × GhostFrame)) : Prop where
  opens : ∀ entry ∈ frames, entry.1.length < 65536 ∧
    openFrame cipher entry.1 = some entry.2
  bytes : ∃ rest, CutShort rest ∧
    bytes = frames.flatMap (fun entry => frameBytes entry.1) ++ rest

/-- Nothing is a frame cut short. -/
theorem cutShort_nil : CutShort [] := by
  intro blob rest _ equal
  cases equal

/-- The payloads of the frames are delivered. -/
theorem Framed.deliver
    {cipher : GhostCipher}
    {bytes : Bytes}
    {frames : List (Bytes × GhostFrame)}
    (framed : Framed cipher bytes frames) :
    Relay.deliver cipher bytes =
      frames.flatMap fun entry => entry.2.payload := by
  obtain ⟨rest, cutShort, rfl⟩ := framed.bytes
  rw [deliver_frames cipher framed.opens, deliver_of_cutShort cipher cutShort,
    List.append_nil]

/-- A complete frame in front is the first of the frames. -/
theorem Framed.head
    {cipher : GhostCipher}
    {blob rest : Bytes}
    {frames : List (Bytes × GhostFrame)}
    (fits : blob.length < 65536)
    (framed : Framed cipher (frameBytes blob ++ rest) frames) :
    ∃ frame others, openFrame cipher blob = some frame ∧
      Framed cipher rest others := by
  obtain ⟨last, cutShort, equal⟩ := framed.bytes
  cases frames with
  | nil => exact absurd equal.symm (cutShort blob rest fits)
  | cons entry others =>
      obtain ⟨entryFits, opened⟩ := framed.opens entry List.mem_cons_self
      rw [List.flatMap_cons, List.append_assoc] at equal
      obtain ⟨rfl, rfl⟩ := frameBytes_append_inj fits entryFits equal
      exact ⟨entry.2, others, opened,
        fun other member => framed.opens other (List.mem_cons_of_mem _ member),
        last, cutShort, rfl⟩

/-! ## The frames at the front -/

/-- The complete frames that stand, one after the other, in front of the bytes,
up to the first that does not open. -/
def frontFrames (cipher : GhostCipher) : Bytes → List (Bytes × GhostFrame)
  | high :: low :: rest =>
      let frameLen := (u16OfBe high low).toNat
      if frameLen ≤ rest.length then
        match openFrame cipher (rest.take frameLen) with
        | none => []
        | some frame =>
            (rest.take frameLen, frame) ::
              frontFrames cipher (rest.drop frameLen)
      else []
  | _ => []
  termination_by input => input.length
  decreasing_by
    simp only [List.length_drop, List.length_cons]
    omega

/-- No frame stands in front of fewer than two bytes. -/
theorem frontFrames_of_length_lt_two
    (cipher : GhostCipher)
    {input : Bytes}
    (short : input.length < 2) :
    frontFrames cipher input = [] := by
  match input, short with
  | [], _ => rw [frontFrames]; simp
  | [byte], _ => rw [frontFrames]; simp

/-- A frame that opens comes before the frames behind it. -/
theorem frontFrames_frameBytes
    (cipher : GhostCipher)
    {blob : Bytes}
    {frame : GhostFrame}
    (fits : blob.length < 65536)
    (opened : openFrame cipher blob = some frame)
    (rest : Bytes) :
    frontFrames cipher (frameBytes blob ++ rest) =
      (blob, frame) :: frontFrames cipher rest := by
  rw [frameBytes, List.append_assoc]
  change frontFrames cipher (_ :: _ :: (blob ++ rest)) = _
  rw [frontFrames, u16OfBe_u16Be]
  have enough : blob.length ≤ (blob ++ rest).length := by
    rw [List.length_append]
    omega
  simp only [toNat_ofNat_length _ fits, if_pos enough, List.take_left,
    List.drop_left, opened]

/-- The frames at the front open, and the bytes begin with them. -/
theorem frontFrames_spec
    (cipher : GhostCipher)
    (input : Bytes) :
    (∀ entry ∈ frontFrames cipher input, entry.1.length < 65536 ∧
        openFrame cipher entry.1 = some entry.2) ∧
      ∃ rest, input =
        (frontFrames cipher input).flatMap (fun entry => frameBytes entry.1) ++
          rest := by
  induction input using frontFrames.induct cipher with
  | case1 high low rest frameLen enough failed =>
      rw [frontFrames, if_pos enough, failed]
      exact ⟨fun entry member => (List.not_mem_nil member).elim,
        high :: low :: rest, rfl⟩
  | case2 high low rest frameLen enough frame opened inductionHypothesis =>
      obtain ⟨opens, tail, bytes⟩ := inductionHypothesis
      have length : (rest.take frameLen).length = frameLen :=
        List.length_take_of_le enough
      rw [frontFrames, if_pos enough, opened]
      refine ⟨?_, tail, ?_⟩
      · intro entry member
        rcases List.mem_cons.mp member with rfl | member
        · refine ⟨?_, opened⟩
          rw [length]
          exact (u16OfBe high low).toNat_lt
        · exact opens entry member
      · rw [List.flatMap_cons, List.append_assoc, ← bytes, frameBytes, length,
          UInt16.ofNat_toNat, u16Be_u16OfBe, List.append_assoc,
          List.take_append_drop]
        rfl
  | case3 high low rest frameLen short =>
      rw [frontFrames, if_neg short]
      exact ⟨fun entry member => (List.not_mem_nil member).elim,
        high :: low :: rest, rfl⟩
  | case4 input notLong =>
      rw [frontFrames_of_length_lt_two cipher
        (length_lt_two_of_ne_cons notLong)]
      exact ⟨fun entry member => (List.not_mem_nil member).elim, input, rfl⟩

/-- Complete frames that open stand, one after the other, in front of the
bytes. -/
def StandsInFront
    (cipher : GhostCipher)
    (input : Bytes)
    (frames : List (Bytes × GhostFrame)) : Prop :=
  (∀ entry ∈ frames, entry.1.length < 65536 ∧
      openFrame cipher entry.1 = some entry.2) ∧
    ∃ rest, input = frames.flatMap (fun entry => frameBytes entry.1) ++ rest

/-- Any frames in front are the first of the frames at the front. -/
theorem StandsInFront.prefix_frontFrames
    {cipher : GhostCipher}
    {input : Bytes}
    {frames : List (Bytes × GhostFrame)}
    (front : StandsInFront cipher input frames) :
    frames <+: frontFrames cipher input := by
  obtain ⟨opens, rest, rfl⟩ := front
  induction frames with
  | nil => exact List.nil_prefix
  | cons entry frames inductionHypothesis =>
      obtain ⟨fits, opened⟩ := opens entry List.mem_cons_self
      rw [List.flatMap_cons, List.append_assoc,
        frontFrames_frameBytes cipher fits opened]
      exact (List.prefix_cons_inj entry).mpr
        (inductionHypothesis fun other member =>
          opens other (List.mem_cons_of_mem entry member))

/-- What is delivered are the payloads of the frames at the front. -/
theorem deliver_eq_flatMap
    (cipher : GhostCipher)
    (input : Bytes) :
    deliver cipher input =
      (frontFrames cipher input).flatMap fun entry => entry.2.payload := by
  induction input using deliver.induct cipher with
  | case1 high low rest frameLen enough failed =>
      rw [deliver, frontFrames, if_pos enough, if_pos enough, failed]
      rfl
  | case2 high low rest frameLen enough frame opened inductionHypothesis =>
      rw [deliver, frontFrames, if_pos enough, if_pos enough, opened]
      exact congrArg _ inductionHypothesis
  | case3 high low rest frameLen short =>
      rw [deliver, frontFrames, if_neg short, if_neg short]
      rfl
  | case4 input notLong =>
      have short := length_lt_two_of_ne_cons notLong
      rw [deliver_of_length_lt_two cipher short,
        frontFrames_of_length_lt_two cipher short]
      rfl

/-- What is delivered of any bytes are the payloads of frames that stand, one
after the other, in front of them. -/
theorem deliver_eq_frames
    (cipher : GhostCipher)
    (input : Bytes) :
    ∃ (frames : List (Bytes × GhostFrame)) (rest : Bytes),
      (∀ entry ∈ frames, entry.1.length < 65536 ∧
        openFrame cipher entry.1 = some entry.2) ∧
      input = frames.flatMap (fun entry => frameBytes entry.1) ++ rest ∧
      deliver cipher input = frames.flatMap fun entry => entry.2.payload := by
  obtain ⟨opens, rest, bytes⟩ := frontFrames_spec cipher input
  exact ⟨frontFrames cipher input, rest, opens, bytes,
    deliver_eq_flatMap cipher input⟩

/-! ## Receiving -/

/-- Bytes of the current frame that a receiving loop has read. -/
def receivePending : ReceivePoint → Bytes → Bytes
  | .length, progress => progress
  | .frame frameLen, progress => u16Be (UInt16.ofNat frameLen) ++ progress
  | _, _ => []

/-- A receiving loop at which only frames that open are still to come. -/
structure Receiving
    (cipher : GhostCipher)
    (state : TaskState ReceivePoint) : Prop where
  short : ∀ frameLen, state.point = .frame frameLen → frameLen < 65536
  framed : state.point ≠ .stopped → ∃ frames,
    Framed cipher
      (receivePending state.point state.progress ++ state.unread) frames

/-- A receiving loop about to read frames that open. -/
theorem receiving_start
    {cipher : GhostCipher}
    {input : Bytes}
    {frames : List (Bytes × GhostFrame)}
    (framed : Framed cipher input frames)
    (closed : Bool) :
    Receiving cipher (TaskState.start .length input closed) where
  short := by
    intro frameLen isFrame
    cases isFrame
  framed _ := ⟨frames, framed⟩

/-- A loop that has read a frame that opens goes on. -/
theorem afterFrame_of_openFrame
    {cipher : GhostCipher}
    {blob : Bytes}
    {frame : GhostFrame}
    (opened : openFrame cipher blob = some frame) :
    afterFrame cipher blob = .length ∨
      afterFrame cipher blob = .payload frame.payload := by
  rw [afterFrame, opened]
  simp only
  split_ifs
  · exact .inl rfl
  · exact .inr rfl

/-- Filling the buffer moves unread bytes to those of the current frame. -/
theorem receivePending_fill
    {point : ReceivePoint}
    {total : Nat}
    (reads : point.Reads total)
    (progress unread : Bytes)
    (count : Nat) :
    receivePending point (progress ++ unread.take count) ++ unread.drop count =
      receivePending point progress ++ unread := by
  cases point with
  | length =>
      rw [receivePending, receivePending, List.append_assoc,
        List.take_append_drop]
  | frame frameLen =>
      rw [receivePending, receivePending, List.append_assoc,
        List.append_assoc, List.append_assoc, List.take_append_drop]
  | payload payload => exact reads.elim
  | stopped => exact reads.elim

/-- A complete length is kept as the length of the current frame. -/
theorem receivePending_lengthRead
    {block : Bytes}
    (two : block.length = 2) :
    receivePending (.frame (u16FromBuffer block).toNat) [] = block := by
  rw [receivePending, List.append_nil, UInt16.ofNat_toNat,
    u16Be_u16FromBuffer block two]

/-- A length has two bytes. -/
theorem short_of_lengthRead
    {block : Bytes}
    {frameLen : Nat}
    (isFrame : ReceivePoint.frame (u16FromBuffer block).toNat =
      .frame frameLen) :
    frameLen < 65536 := by
  rw [← ReceivePoint.frame.inj isFrame]
  exact (u16FromBuffer block).toNat_lt

/-- One event, not an I/O error, of a loop that receives frames that open. -/
theorem Receiving.of_transition
    {cipher : GhostCipher}
    {state next : TaskState ReceivePoint}
    {event : Event}
    (receiving : Receiving cipher state)
    (noFailure : event ≠ .fail)
    (transition : Transition (receiveLoop cipher) state event next) :
    Receiving cipher next ∧ (event = .eof ∨ next.point ≠ .stopped) := by
  have framed := receiving.framed
  cases receiveStep_of_transition transition with
  | filling reads positive fits available =>
      obtain ⟨frames, framed⟩ := framed reads.ne_stopped
      rw [← receivePending_fill reads] at framed
      exact ⟨⟨receiving.short, fun _ => ⟨frames, framed⟩⟩,
        .inr reads.ne_stopped⟩
  | writing waits positive fits =>
      rw [waits] at framed
      obtain ⟨frames, framed⟩ := framed ReceivePoint.noConfusion
      refine ⟨⟨receiving.short, fun _ => ⟨frames, ?_⟩⟩, .inr ?_⟩
      · simp only [waits]
        exact framed
      · simp only [waits]
        exact ReceivePoint.noConfusion
  | lengthRead waits complete =>
      rw [waits] at framed
      obtain ⟨frames, framed⟩ := framed ReceivePoint.noConfusion
      refine ⟨⟨fun frameLen => short_of_lengthRead,
        fun _ => ⟨frames, ?_⟩⟩, .inr ReceivePoint.noConfusion⟩
      simp only [TaskState.goto]
      rw [receivePending_lengthRead complete]
      exact framed
  | frameRead waits =>
      have fits := receiving.short _ waits
      rw [waits] at framed
      obtain ⟨frames, framed⟩ := framed ReceivePoint.noConfusion
      obtain ⟨frame, others, opened, rest⟩ := framed.head fits
      rcases afterFrame_of_openFrame opened with after | after
      · rw [after]
        exact ⟨⟨fun _ isFrame => ReceivePoint.noConfusion isFrame,
          fun _ => ⟨others, rest⟩⟩, .inr ReceivePoint.noConfusion⟩
      · rw [after]
        exact ⟨⟨fun _ isFrame => ReceivePoint.noConfusion isFrame,
          fun _ => ⟨others, rest⟩⟩, .inr ReceivePoint.noConfusion⟩
  | payloadWritten waits complete =>
      rw [waits] at framed
      obtain ⟨frames, framed⟩ := framed ReceivePoint.noConfusion
      exact ⟨⟨fun _ isFrame => ReceivePoint.noConfusion isFrame,
        fun _ => ⟨frames, framed⟩⟩,
        .inr ReceivePoint.noConfusion⟩
  | stopping running ended =>
      exact ⟨⟨fun _ isFrame => ReceivePoint.noConfusion isFrame,
        fun running => absurd rfl running⟩,
        .inl (ended.resolve_right noFailure)⟩

/-- A receiving loop is finished where it has stopped. -/
theorem stopped_of_receiveLoop
    {cipher : GhostCipher}
    {point : ReceivePoint}
    (finished : (receiveLoop cipher point).isFinished = true) :
    point = .stopped := by
  cases point with
  | length => cases finished
  | frame frameLen => cases finished
  | payload payload => cases finished
  | stopped => rfl

/-- A loop that receives frames that open finishes at the end of the
stream. -/
theorem receiveLoop_finishesAtEof (cipher : GhostCipher) :
    FinishesAtEof (receiveLoop cipher) (Receiving cipher) where
  preserved receiving noFailure transition :=
    (receiving.of_transition noFailure transition).1
  finishes receiving noFailure transition finished :=
    (receiving.of_transition noFailure transition).2.resolve_right
      fun running => running (stopped_of_receiveLoop finished)

/-! ## Sending -/

/-- A sending loop is finished where it has stopped. -/
theorem stopped_of_sendLoop
    {sealing : Sealing}
    {draws : sealing.Draws}
    {point : SendPoint}
    (finished : (sendLoop sealing draws point).isFinished = true) :
    point = .stopped := by
  cases point with
  | read index => cases finished
  | length index encrypted => cases finished
  | frame index encrypted => cases finished
  | stopped => rfl

/-- A sending loop finishes at the end of the stream. -/
theorem sendLoop_finishesAtEof
    {sealing : Sealing}
    (lawful : sealing.cipher.aead.Lawful)
    (draws : sealing.Draws) :
    FinishesAtEof (sendLoop sealing draws) fun _ => True where
  preserved _ _ _ := trivial
  finishes {state event next} _ noFailure transition finished := by
    have stopped := stopped_of_sendLoop finished
    cases transition with
    | fill awaits positive fits available =>
        exact absurd awaits sendLoop_ne_readExact
    | @receive capacity received eof failed count awaits positive fits
        available =>
        obtain ⟨index, -, rfl, rfl, -, -⟩ := sendLoop_read awaits
        obtain ⟨encrypted, sealed, _, _⟩ := sealing.sealFrame_spec lawful
          (draws index) (show TargetAddr.IsWire .none from trivial)
          ((List.length_take_le count state.unread).trans fits)
        rw [afterRead, sealed] at stopped
        cases stopped
    | write awaits positive fits =>
        exact absurd stopped (sendLoop_writeAll awaits).2.1
    | filled awaits complete => exact absurd awaits sendLoop_ne_readExact
    | wrote awaits complete =>
        exact absurd stopped (sendLoop_writeAll awaits).2.2.1
    | fillEof awaits partly drained closed => rfl
    | readEof awaits drained closed => rfl
    | failFill awaits => exact absurd rfl noFailure
    | failRead awaits => exact absurd rfl noFailure
    | failWrite awaits => exact absurd rfl noFailure

end Relay
end GhostProtocol
