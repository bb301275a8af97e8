import GhostProtocol.Foundation.Prediction
import GhostProtocol.Common.Frame
import GhostProtocol.Crypto.Cipher

/-!
# Receiving frames

Both ends of a tunnel run the same receiving loop: read a two-byte length,
read a sealed frame of that length, open and decode it, and write its payload
on.  Any failure ends the loop.  What the loop writes is the delivery of the
bytes it reads, the payloads of the longest prefix of complete frames that
open and decode.
-/

namespace GhostProtocol
namespace Relay

open Foundation Foundation.AsyncTask Common Crypto

/-- Bytes of the buffer a sealed frame is read into. -/
def ENC_BUF_LEN : Nat := 65536 + 256

/-- Where a receiving loop waits. -/
inductive ReceivePoint
  | length
  | frame (frameLen : Nat)
  | payload (payload : Bytes)
  | stopped
  deriving DecidableEq, Repr

/-- The frame in a sealed blob, if it opens and decodes. -/
def openFrame (cipher : GhostCipher) (blob : Bytes) : Option GhostFrame :=
  match cipher.decrypt blob with
  | .error _ => none
  | .ok plaintext =>
      match GhostFrame.decode plaintext with
      | .error _ => none
      | .ok frame => some frame

/-- A blob holds a frame when it opens and the plaintext decodes. -/
theorem openFrame_eq_some
    {cipher : GhostCipher}
    {blob : Bytes}
    {frame : GhostFrame}
    (opened : openFrame cipher blob = some frame) :
    ∃ plaintext, cipher.decrypt blob = .ok plaintext ∧
      GhostFrame.decode plaintext = .ok frame := by
  unfold openFrame at opened
  cases decrypted : cipher.decrypt blob with
  | error error =>
      rw [decrypted] at opened
      cases opened
  | ok plaintext =>
      rw [decrypted] at opened
      simp only at opened
      cases decoded : GhostFrame.decode plaintext with
      | error fault =>
          rw [decoded] at opened
          cases opened
      | ok result =>
          rw [decoded] at opened
          exact ⟨plaintext, rfl, by rw [decoded, Option.some.inj opened]⟩

/-- Nothing opens in an empty blob. -/
theorem ne_nil_of_openFrame
    {cipher : GhostCipher}
    {blob : Bytes}
    {frame : GhostFrame}
    (opened : openFrame cipher blob = some frame) :
    blob ≠ [] := by
  rintro rfl
  cases opened

/-- Continue after the length of a frame. -/
def afterLength (lenBuf : Bytes) : ReceivePoint :=
  let frameLen := (u16FromBuffer lenBuf).toNat
  if frameLen > ENC_BUF_LEN then .stopped else .frame frameLen

/-- Continue after a sealed frame. -/
def afterFrame (cipher : GhostCipher) (blob : Bytes) : ReceivePoint :=
  match openFrame cipher blob with
  | none => .stopped
  | some frame =>
      if frame.payload = [] then .length else .payload frame.payload

/-- The receiving loop. -/
def receiveLoop (cipher : GhostCipher) : ReceivePoint → Await ReceivePoint
  | .length => .readExact 2 afterLength .stopped .stopped
  | .frame frameLen =>
      .readExact frameLen (afterFrame cipher) .stopped .stopped
  | .payload payload => .writeAll payload .length .stopped
  | .stopped => .finished

/-- A sealed frame with its length in front, as it travels. -/
def frameBytes (blob : Bytes) : Bytes :=
  u16Be (UInt16.ofNat blob.length) ++ blob

/-- Payloads of the longest prefix of complete frames that open and decode. -/
def deliver (cipher : GhostCipher) : Bytes → Bytes
  | high :: low :: rest =>
      let frameLen := (u16OfBe high low).toNat
      if frameLen ≤ rest.length then
        match openFrame cipher (rest.take frameLen) with
        | none => []
        | some frame => frame.payload ++ deliver cipher (rest.drop frameLen)
      else []
  | _ => []
  termination_by input => input.length
  decreasing_by
    simp only [List.length_drop, List.length_cons]
    omega

/-- Bytes without a two-byte length in front are fewer than two. -/
theorem length_lt_two_of_ne_cons
    {input : Bytes}
    (notLong : ∀ high low rest, input = high :: low :: rest → False) :
    input.length < 2 := by
  match input, notLong with
  | [], _ => exact Nat.zero_lt_two
  | [byte], _ => exact Nat.one_lt_two
  | high :: low :: rest, notLong => exact (notLong high low rest rfl).elim

/-- Fewer than two bytes deliver nothing. -/
theorem deliver_of_length_lt_two
    (cipher : GhostCipher)
    {input : Bytes}
    (short : input.length < 2) :
    deliver cipher input = [] := by
  match input, short with
  | [], _ => rw [deliver]; simp
  | [byte], _ => rw [deliver]; simp

@[simp] theorem deliver_nil (cipher : GhostCipher) :
    deliver cipher [] = [] :=
  deliver_of_length_lt_two cipher Nat.zero_lt_two

/-- A frame cut short delivers nothing. -/
theorem deliver_of_incomplete
    (cipher : GhostCipher)
    (frameLen : UInt16)
    {input : Bytes}
    (short : input.length < frameLen.toNat) :
    deliver cipher (u16Be frameLen ++ input) = [] := by
  change deliver cipher (_ :: _ :: input) = []
  rw [deliver, u16OfBe_u16Be]
  exact if_neg (Nat.not_le.mpr short)

/-- A complete frame delivers its payload and what follows it, or ends the
delivery. -/
theorem deliver_append
    (cipher : GhostCipher)
    (frameLen : UInt16)
    {blob : Bytes}
    (complete : blob.length = frameLen.toNat)
    (rest : Bytes) :
    deliver cipher (u16Be frameLen ++ (blob ++ rest)) =
      match openFrame cipher blob with
      | none => []
      | some frame => frame.payload ++ deliver cipher rest := by
  change deliver cipher (_ :: _ :: (blob ++ rest)) = _
  rw [deliver, u16OfBe_u16Be]
  have enough : blob.length ≤ (blob ++ rest).length := by
    rw [List.length_append]
    omega
  simp only [← complete, if_pos enough, List.take_left, List.drop_left]

theorem deliver_frameBytes
    (cipher : GhostCipher)
    {blob : Bytes}
    {frame : GhostFrame}
    (fits : blob.length < 65536)
    (opened : openFrame cipher blob = some frame)
    (rest : Bytes) :
    deliver cipher (frameBytes blob ++ rest) =
      frame.payload ++ deliver cipher rest := by
  rw [frameBytes, List.append_assoc,
    deliver_append cipher _ (toNat_ofNat_length _ fits).symm, opened]

/-- Successive frames that open deliver their payloads. -/
theorem deliver_frames
    (cipher : GhostCipher)
    {frames : List (Bytes × GhostFrame)}
    (opens : ∀ entry ∈ frames, entry.1.length < 65536 ∧
      openFrame cipher entry.1 = some entry.2)
    (rest : Bytes) :
    deliver cipher (frames.flatMap (fun entry => frameBytes entry.1) ++ rest) =
      frames.flatMap (fun entry => entry.2.payload) ++ deliver cipher rest := by
  induction frames with
  | nil => rfl
  | cons entry frames inductionHypothesis =>
      obtain ⟨fits, opened⟩ := opens entry List.mem_cons_self
      rw [List.flatMap_cons, List.append_assoc,
        deliver_frameBytes cipher fits opened,
        inductionHypothesis fun other member =>
          opens other (List.mem_cons_of_mem entry member),
        List.flatMap_cons, List.append_assoc]

/-- More input only adds to the delivery. -/
theorem deliver_prefix
    (cipher : GhostCipher)
    {input longer : Bytes}
    (isPrefix : input <+: longer) :
    deliver cipher input <+: deliver cipher longer := by
  obtain ⟨more, rfl⟩ := isPrefix
  induction input using deliver.induct cipher with
  | case1 high low rest frameLen enough failed =>
      rw [deliver, if_pos enough, failed]
      exact List.nil_prefix
  | case2 high low rest frameLen enough frame opened inductionHypothesis =>
      have longEnough : frameLen ≤ (rest ++ more).length := by
        rw [List.length_append]
        omega
      rw [deliver, if_pos enough, opened, List.cons_append, List.cons_append,
        deliver, if_pos longEnough, List.take_append_of_le_length enough,
        opened, List.drop_append_of_le_length enough]
      exact (List.prefix_append_right_inj _).mpr inductionHypothesis
  | case3 high low rest frameLen short =>
      rw [deliver, if_neg short]
      exact List.nil_prefix
  | case4 input notLong =>
      rw [deliver_of_length_lt_two cipher (length_lt_two_of_ne_cons notLong)]
      exact List.nil_prefix

/-- Output still to come at each point of the receiving loop. -/
def receiveOutput (cipher : GhostCipher) : ReceivePoint → Bytes → Bytes
  | .length, input => deliver cipher input
  | .frame frameLen, input =>
      if frameLen ≤ input.length then
        match openFrame cipher (input.take frameLen) with
        | none => []
        | some frame => frame.payload ++ deliver cipher (input.drop frameLen)
      else []
  | .payload payload, input => payload ++ deliver cipher input
  | .stopped, _ => []

/-- A 16-bit length never exceeds the buffer. -/
theorem afterLength_eq
    (lenBuf : Bytes) :
    afterLength lenBuf = .frame (u16FromBuffer lenBuf).toNat := by
  have bound := (u16FromBuffer lenBuf).toNat_lt
  unfold afterLength
  rw [if_neg]
  unfold ENC_BUF_LEN
  omega

/-- What the receiving loop fills, and where it goes on. -/
theorem receiveLoop_readExact
    {cipher : GhostCipher}
    {point : ReceivePoint}
    {total : Nat}
    {filled : Bytes → ReceivePoint}
    {eof failed : ReceivePoint}
    (awaits : receiveLoop cipher point = .readExact total filled eof failed) :
    eof = .stopped ∧ failed = .stopped ∧
      ((point = .length ∧ total = 2 ∧ filled = afterLength) ∨
        (point = .frame total ∧ filled = afterFrame cipher)) := by
  cases point with
  | length =>
      cases awaits
      exact ⟨rfl, rfl, .inl ⟨rfl, rfl, rfl⟩⟩
  | frame frameLen =>
      cases awaits
      exact ⟨rfl, rfl, .inr ⟨rfl, rfl⟩⟩
  | payload payload => cases awaits
  | stopped => cases awaits

/-- What the receiving loop writes, and where it goes on. -/
theorem receiveLoop_writeAll
    {cipher : GhostCipher}
    {point : ReceivePoint}
    {data : Bytes}
    {next failed : ReceivePoint}
    (awaits : receiveLoop cipher point = .writeAll data next failed) :
    point = .payload data ∧ next = .length ∧ failed = .stopped := by
  cases point with
  | payload payload =>
      cases awaits
      exact ⟨rfl, rfl, rfl⟩
  | length => cases awaits
  | frame frameLen => cases awaits
  | stopped => cases awaits

/-- The receiving loop reads whole buffers only. -/
theorem receiveLoop_ne_read
    {cipher : GhostCipher}
    {point : ReceivePoint}
    {capacity : Nat}
    {received : Bytes → ReceivePoint}
    {eof failed : ReceivePoint} :
    receiveLoop cipher point ≠ .read capacity received eof failed := by
  intro awaits
  cases point with
  | length => cases awaits
  | frame frameLen => cases awaits
  | payload payload => cases awaits
  | stopped => cases awaits

/-- How many bytes are read at a point. -/
def ReceivePoint.Reads : ReceivePoint → Nat → Prop
  | .length, total => total = 2
  | .frame frameLen, total => total = frameLen
  | _, _ => False

/-- A loop that reads has not stopped. -/
theorem ReceivePoint.Reads.ne_stopped
    {point : ReceivePoint}
    {total : Nat}
    (reads : point.Reads total) :
    point ≠ .stopped := by
  rintro rfl
  exact reads

/-- A loop that awaits a whole buffer reads. -/
theorem reads_of_readExact
    {cipher : GhostCipher}
    {point : ReceivePoint}
    {total : Nat}
    {filled : Bytes → ReceivePoint}
    {eof failed : ReceivePoint}
    (awaits : receiveLoop cipher point = .readExact total filled eof failed) :
    point.Reads total := by
  obtain ⟨-, -, ⟨rfl, two, -⟩ | ⟨rfl, -⟩⟩ := receiveLoop_readExact awaits
  · exact two
  · exact rfl

/-- Everything one event can do to a receiving loop: an operation goes on or
completes, or the loop stops. -/
inductive ReceiveStep
    (cipher : GhostCipher)
    (state : TaskState ReceivePoint) :
    Event → TaskState ReceivePoint → Prop
  | filling {total count}
      (reads : state.point.Reads total)
      (positive : 0 < count)
      (fits : state.progress.length + count ≤ total)
      (available : count ≤ state.unread.length) :
      ReceiveStep cipher state (.transfer count)
        { state with
          progress := state.progress ++ state.unread.take count
          unread := state.unread.drop count }
  | writing {payload count}
      (waits : state.point = .payload payload)
      (positive : 0 < count)
      (fits : state.progress.length + count ≤ payload.length) :
      ReceiveStep cipher state (.transfer count)
        { state with
          progress := payload.take (state.progress.length + count)
          written := state.written ++
            (payload.drop state.progress.length).take count }
  | lengthRead
      (waits : state.point = .length)
      (complete : state.progress.length = 2) :
      ReceiveStep cipher state .resume
        (state.goto (.frame (u16FromBuffer state.progress).toNat))
  | frameRead
      (waits : state.point = .frame state.progress.length) :
      ReceiveStep cipher state .resume
        (state.goto (afterFrame cipher state.progress))
  | payloadWritten {payload}
      (waits : state.point = .payload payload)
      (complete : state.progress.length = payload.length) :
      ReceiveStep cipher state .resume (state.goto .length)
  | stopping {event}
      (running : state.point ≠ .stopped)
      (ended : event = .eof ∨ event = .fail) :
      ReceiveStep cipher state event (state.goto .stopped)

/-- Every transition of the receiving loop is one of these steps. -/
theorem receiveStep_of_transition
    {cipher : GhostCipher}
    {state next : TaskState ReceivePoint}
    {event : Event}
    (transition : Transition (receiveLoop cipher) state event next) :
    ReceiveStep cipher state event next := by
  cases transition with
  | fill awaits positive fits available =>
      exact .filling (reads_of_readExact awaits) positive fits available
  | receive awaits positive fits available =>
      exact absurd awaits receiveLoop_ne_read
  | write awaits positive fits =>
      obtain ⟨point, -, -⟩ := receiveLoop_writeAll awaits
      exact .writing point positive fits
  | filled awaits complete =>
      obtain ⟨-, -, ⟨point, two, rfl⟩ | ⟨point, rfl⟩⟩ :=
        receiveLoop_readExact awaits
      · rw [afterLength_eq]
        exact .lengthRead point (complete.trans two)
      · rw [← complete] at point
        exact .frameRead point
  | wrote awaits complete =>
      obtain ⟨point, rfl, -⟩ := receiveLoop_writeAll awaits
      exact .payloadWritten point complete
  | fillEof awaits partly drained closed =>
      obtain ⟨rfl, -, -⟩ := receiveLoop_readExact awaits
      exact .stopping (reads_of_readExact awaits).ne_stopped (.inl rfl)
  | readEof awaits drained closed =>
      exact absurd awaits receiveLoop_ne_read
  | failFill awaits =>
      obtain ⟨-, rfl, -⟩ := receiveLoop_readExact awaits
      exact .stopping (reads_of_readExact awaits).ne_stopped (.inr rfl)
  | failRead awaits => exact absurd awaits receiveLoop_ne_read
  | failWrite awaits =>
      obtain ⟨point, -, rfl⟩ := receiveLoop_writeAll awaits
      refine .stopping ?_ (.inr rfl)
      rw [point]
      exact ReceivePoint.noConfusion

/-- The delivery behind a length is that of the frame it announces. -/
theorem deliver_afterLength
    (cipher : GhostCipher)
    {block : Bytes}
    (two : block.length = 2)
    (rest : Bytes) :
    deliver cipher (block ++ rest) =
      receiveOutput cipher (afterLength block) rest := by
  rw [afterLength_eq, ← u16Be_u16FromBuffer block two]
  generalize u16FromBuffer block = frameLen
  rw [u16FromBuffer_u16Be]
  by_cases enough : frameLen.toNat ≤ rest.length
  · have complete : (rest.take frameLen.toNat).length = frameLen.toNat :=
      List.length_take_of_le enough
    conv_lhs => rw [← List.take_append_drop frameLen.toNat rest]
    rw [deliver_append cipher frameLen complete, receiveOutput, if_pos enough]
  · rw [deliver_of_incomplete cipher frameLen (Nat.not_le.mp enough),
      receiveOutput, if_neg enough]

/-- What a complete frame makes the loop write. -/
theorem receiveOutput_afterFrame
    (cipher : GhostCipher)
    (block rest : Bytes) :
    receiveOutput cipher (.frame block.length) (block ++ rest) =
      receiveOutput cipher (afterFrame cipher block) rest := by
  have enough : block.length ≤ (block ++ rest).length := by
    rw [List.length_append]
    omega
  simp only [receiveOutput, if_pos enough, List.take_left, List.drop_left,
    afterFrame]
  cases opened : openFrame cipher block with
  | none => rfl
  | some frame =>
      by_cases empty : frame.payload = []
      · simp only [empty, if_true]
        rfl
      · simp only [if_neg empty]

/-- The receiving loop writes the delivery of its input. -/
theorem receiveLoop_predicts (cipher : GhostCipher) :
    Predicts (receiveLoop cipher) (receiveOutput cipher) where
  readExact_filled awaits block rest full := by
    obtain ⟨-, -, ⟨rfl, rfl, rfl⟩ | ⟨rfl, rfl⟩⟩ := receiveLoop_readExact awaits
    · exact deliver_afterLength cipher full rest
    · rw [← full]
      exact receiveOutput_afterFrame cipher block rest
  readExact_short awaits short partly := by
    obtain ⟨-, -, ⟨rfl, rfl, -⟩ | ⟨rfl, -⟩⟩ := receiveLoop_readExact awaits
    · exact deliver_of_length_lt_two cipher partly
    · exact if_neg (Nat.not_le.mpr partly)
  readExact_eof awaits := by
    obtain ⟨rfl, -, -⟩ := receiveLoop_readExact awaits
    rfl
  readExact_failed awaits input := by
    obtain ⟨-, rfl, -⟩ := receiveLoop_readExact awaits
    rfl
  not_read := receiveLoop_ne_read
  writeAll_written awaits input := by
    obtain ⟨rfl, rfl, -⟩ := receiveLoop_writeAll awaits
    rfl
  writeAll_failed awaits input := by
    obtain ⟨-, -, rfl⟩ := receiveLoop_writeAll awaits
    rfl
  finished {point} awaits input := by
    cases point with
    | length => cases awaits
    | frame frameLen => cases awaits
    | payload payload => cases awaits
    | stopped => rfl

/-! ## Progress -/

/-- A complete frame that opens can be received and its payload written. -/
theorem run_receive_frame
    (cipher : GhostCipher)
    (state : TaskState ReceivePoint)
    {blob rest : Bytes}
    {frame : GhostFrame}
    (waits : state.point = .length)
    (fresh : state.progress = [])
    (unread : state.unread = frameBytes blob ++ rest)
    (fits : blob.length < 65536)
    (opened : openFrame cipher blob = some frame) :
    ∃ events, Event.fail ∉ events ∧
      Run.run (step (receiveLoop cipher)) state events =
        some { state with
          unread := rest
          written := state.written ++ frame.payload } := by
  obtain ⟨point, progress, input, closed, written⟩ := state
  obtain rfl : point = .length := waits
  obtain rfl : progress = [] := fresh
  obtain rfl : input = frameBytes blob ++ rest := unread
  have lengthRead := run_readExact (receiveLoop cipher)
    ⟨.length, [], frameBytes blob ++ rest, closed, written⟩
    (u16Be (UInt16.ofNat blob.length)) (blob ++ rest)
    rfl rfl (List.append_assoc _ _ _) (List.cons_ne_nil _ _)
  rw [afterLength_eq, u16FromBuffer_u16Be, toNat_ofNat_length _ fits]
    at lengthRead
  have blobRead := run_readExact (receiveLoop cipher)
    ⟨.frame blob.length, [], blob ++ rest, closed, written⟩ blob rest
    rfl rfl rfl (ne_nil_of_openFrame opened)
  by_cases empty : frame.payload = []
  · refine ⟨_, ?_, (Run.run_append_eq_some _ _ _ _ _).mpr
      ⟨_, lengthRead, blobRead.trans ?_⟩⟩
    · simp
    · simp only [afterFrame, opened, empty, List.append_nil]
      rfl
  · have payloadWritten := run_writeAll (receiveLoop cipher)
      ⟨.payload frame.payload, [], rest, closed, written⟩ frame.payload
      rfl rfl empty
    refine ⟨_, ?_, (Run.run_append_eq_some _ _ _ _ _).mpr
      ⟨_, lengthRead, (Run.run_append_eq_some _ _ _ _ _).mpr
        ⟨_, blobRead.trans ?_, payloadWritten⟩⟩⟩
    · simp
    · simp only [afterFrame, opened, if_neg empty]
      rfl

/-- The payloads of successive frames that open are received one by one. -/
theorem run_receive_frames
    {cipher : GhostCipher}
    {frames : List (Bytes × GhostFrame)}
    (opens : ∀ entry ∈ frames, entry.1.length < 65536 ∧
      openFrame cipher entry.1 = some entry.2)
    (rest : Bytes)
    (closed : Bool)
    (written : Bytes) :
    ∃ events, Event.fail ∉ events ∧
      Run.run (step (receiveLoop cipher))
          ⟨.length, [], frames.flatMap (fun entry => frameBytes entry.1) ++ rest,
            closed, written⟩ events =
        some ⟨.length, [], rest, closed,
          written ++ frames.flatMap fun entry => entry.2.payload⟩ := by
  induction frames generalizing written with
  | nil => exact ⟨[], List.not_mem_nil, by simp⟩
  | cons entry frames inductionHypothesis =>
      obtain ⟨fits, opened⟩ := opens entry List.mem_cons_self
      obtain ⟨first, firstClean, firstRun⟩ := run_receive_frame cipher
        ⟨.length, [], (entry :: frames).flatMap
          (fun entry => frameBytes entry.1) ++ rest, closed, written⟩
        rfl rfl (by rw [List.flatMap_cons, List.append_assoc]) fits opened
      obtain ⟨others, othersClean, othersRun⟩ := inductionHypothesis
        (fun other member => opens other (List.mem_cons_of_mem entry member))
        (written ++ entry.2.payload)
      refine ⟨first ++ others, ?_, (Run.run_append_eq_some _ _ _ _ _).mpr
        ⟨_, firstRun, ?_⟩⟩
      · simp [firstClean, othersClean]
      · rw [List.append_assoc] at othersRun
        exact othersRun

end Relay
end GhostProtocol
