import GhostProtocol.Relay.Receive

/-!
# Sending frames

Both ends of a tunnel run the same sending loop: read up to one buffer of
bytes, seal them in a frame without an address, and write the length of the
sealed frame, cast to 16 bits, and the frame.  Every frame uses a fresh draw
of a nonce and of padding.  What the loop has written is, at every moment, a
prefix of the frames of the chunks it has read.
-/

namespace GhostProtocol
namespace Relay

open Foundation Foundation.AsyncTask Common Crypto

/-- Bytes of the buffer that payload is read into. -/
def READ_BUF_LEN : Nat := 8192

/-- The randomness of one frame. -/
structure Draw (maxPaddingLen : Nat) where
  nonce : Block NONCE_SIZE
  padding : PaddingDraw maxPaddingLen

/-- How one end of a tunnel builds and seals its frames. -/
structure Sealing where
  cipher : GhostCipher
  userId : UserId
  enablePadding : Bool
  maxPaddingLen : UInt8

/-- The randomness of successive frames. -/
abbrev Sealing.Draws (sealing : Sealing) :=
  Nat → Draw sealing.maxPaddingLen.toNat

/-- A frame with the given address and payload, padded if padding is on. -/
def Sealing.frame
    (sealing : Sealing)
    (draw : Draw sealing.maxPaddingLen.toNat)
    (target : TargetAddr)
    (payload : Bytes) : GhostFrame :=
  let frame := GhostFrame.new sealing.userId target payload
  if sealing.enablePadding then
    frame.withRandomPadding sealing.maxPaddingLen.toNat draw.padding
  else frame

/-- Encode and encrypt a frame. -/
def Sealing.sealFrame
    (sealing : Sealing)
    (draw : Draw sealing.maxPaddingLen.toNat)
    (target : TargetAddr)
    (payload : Bytes) : Outcome CryptoError Bytes :=
  match (sealing.frame draw target payload).encode with
  | none => .error .panic
  | some frameData =>
      match sealing.cipher.encrypt draw.nonce frameData with
      | .error error => .error (.error error)
      | .ok encrypted => .ok encrypted

/-- Where a sending loop waits, with the number of frames sent before. -/
inductive SendPoint
  | read (index : Nat)
  | length (index : Nat) (encrypted : Bytes)
  | frame (index : Nat) (encrypted : Bytes)
  | stopped
  deriving DecidableEq, Repr

/-- Continue after reading payload bytes. -/
def afterRead
    (sealing : Sealing)
    (draws : sealing.Draws)
    (index : Nat)
    (bytes : Bytes) : SendPoint :=
  match sealing.sealFrame (draws index) .none bytes with
  | .error _ => .stopped
  | .ok encrypted => .length index encrypted

/-- The sending loop. -/
def sendLoop
    (sealing : Sealing)
    (draws : sealing.Draws) : SendPoint → Await SendPoint
  | .read index =>
      .read READ_BUF_LEN (afterRead sealing draws index) .stopped .stopped
  | .length index encrypted =>
      .writeAll (u16Be (UInt16.ofNat encrypted.length))
        (.frame index encrypted) .stopped
  | .frame index encrypted => .writeAll encrypted (.read (index + 1)) .stopped
  | .stopped => .finished

/-! ## One frame -/

theorem Sealing.frame_target
    (sealing : Sealing)
    (draw : Draw sealing.maxPaddingLen.toNat)
    (target : TargetAddr)
    (payload : Bytes) :
    (sealing.frame draw target payload).target = target := by
  unfold Sealing.frame
  split_ifs <;> rfl

theorem Sealing.frame_userId
    (sealing : Sealing)
    (draw : Draw sealing.maxPaddingLen.toNat)
    (target : TargetAddr)
    (payload : Bytes) :
    (sealing.frame draw target payload).userId = sealing.userId := by
  unfold Sealing.frame
  split_ifs <;> rfl

theorem Sealing.frame_payload
    (sealing : Sealing)
    (draw : Draw sealing.maxPaddingLen.toNat)
    (target : TargetAddr)
    (payload : Bytes) :
    (sealing.frame draw target payload).payload = payload := by
  unfold Sealing.frame
  split_ifs <;> rfl

/-- A frame built by an end of the tunnel fits the wire format. -/
theorem Sealing.frame_isWire
    (sealing : Sealing)
    (draw : Draw sealing.maxPaddingLen.toNat)
    {target : TargetAddr}
    (wire : target.IsWire)
    {payload : Bytes}
    (fits : payload.length ≤ READ_BUF_LEN) :
    (sealing.frame draw target payload).IsWire := by
  have payloadFits : payload.length ≤ 65535 := by
    unfold READ_BUF_LEN at fits
    omega
  unfold Sealing.frame
  split_ifs
  · exact ⟨rfl, wire, payloadFits,
      draw.padding.property.trans (Nat.min_le_right _ _)⟩
  · exact ⟨rfl, wire, payloadFits, Nat.zero_le _⟩

/-- The announced length of a wire address is small. -/
theorem encodedLen_le
    {target : TargetAddr}
    (wire : target.IsWire) :
    target.encodedLen ≤ 259 := by
  cases target with
  | none => decide
  | ipV4 address =>
      simp only [TargetAddr.encodedLen]
      omega
  | ipV6 address =>
      simp only [TargetAddr.encodedLen]
      omega
  | domain name port =>
      have bound := wire.2
      simp only [TargetAddr.encodedLen]
      omega

/-- Sealing a frame succeeds, its length fits 16 bits, and the receiver opens
the same frame. -/
theorem Sealing.sealFrame_spec
    {sealing : Sealing}
    (lawful : sealing.cipher.aead.Lawful)
    (draw : Draw sealing.maxPaddingLen.toNat)
    {target : TargetAddr}
    (wire : target.IsWire)
    {payload : Bytes}
    (fits : payload.length ≤ READ_BUF_LEN) :
    ∃ encrypted, sealing.sealFrame draw target payload = .ok encrypted ∧
      encrypted.length < 65536 ∧
      openFrame sealing.cipher encrypted =
        some (sealing.frame draw target payload) := by
  have isWire := sealing.frame_isWire draw wire fits
  have encoded := GhostFrame.encode_of_isWire isWire
  have length := GhostFrame.length_wireBytes (sealing.frame draw target payload)
  rw [frame_target, frame_payload] at length
  have addressBound := encodedLen_le wire
  have paddingBound := isWire.padding
  unfold READ_BUF_LEN at fits
  unfold MAX_PADDING_LEN at paddingBound
  have bound :
      (sealing.frame draw target payload).wireBytes.length < 9000 := by omega
  obtain ⟨encrypted, sealed⟩ := GhostCipher.encrypt_of_lawful lawful draw.nonce
    (bound.trans (by decide))
  refine ⟨encrypted, ?_, ?_, ?_⟩
  · rw [sealFrame, encoded]
    simp only [sealed]
  · rw [GhostCipher.length_of_encrypt lawful sealed]
    simp only [NONCE_SIZE, TAG_SIZE]
    omega
  · rw [openFrame, GhostCipher.decrypt_of_encrypt lawful sealed]
    simp only [GhostFrame.decode_encode isWire encoded]

/-! ## Successive frames -/

/-- The bytes of the frames of successive chunks. -/
def sentBytes
    (sealing : Sealing)
    (draws : sealing.Draws) : Nat → List Bytes → Bytes
  | _, [] => []
  | index, chunk :: chunks =>
      (match sealing.sealFrame (draws index) .none chunk with
        | .error _ => []
        | .ok encrypted => frameBytes encrypted) ++
      sentBytes sealing draws (index + 1) chunks

theorem sentBytes_append
    (sealing : Sealing)
    (draws : sealing.Draws)
    (index : Nat)
    (first second : List Bytes) :
    sentBytes sealing draws index (first ++ second) =
      sentBytes sealing draws index first ++
        sentBytes sealing draws (index + first.length) second := by
  induction first generalizing index with
  | nil => rfl
  | cons chunk chunks inductionHypothesis =>
      rw [List.cons_append, sentBytes, sentBytes, inductionHypothesis,
        List.append_assoc, List.length_cons, Nat.add_assoc,
        Nat.add_comm 1 chunks.length]

/-- The bytes sent for successive chunks are sealed frames that open to the
chunks. -/
theorem sentBytes_eq_frames
    {sealing : Sealing}
    (lawful : sealing.cipher.aead.Lawful)
    (draws : sealing.Draws)
    (index : Nat)
    {chunks : List Bytes}
    (fit : ∀ chunk ∈ chunks, chunk.length ≤ READ_BUF_LEN) :
    ∃ frames : List (Bytes × GhostFrame),
      (∀ entry ∈ frames, entry.1.length < 65536 ∧
        openFrame sealing.cipher entry.1 = some entry.2) ∧
      sentBytes sealing draws index chunks =
        frames.flatMap (fun entry => frameBytes entry.1) ∧
      frames.flatMap (fun entry => entry.2.payload) = chunks.flatten := by
  induction chunks generalizing index with
  | nil => exact ⟨[], by simp, rfl, rfl⟩
  | cons chunk chunks inductionHypothesis =>
      obtain ⟨encrypted, sealed, short, opened⟩ := sealing.sealFrame_spec lawful
        (draws index) (show TargetAddr.IsWire .none from trivial)
        (fit chunk List.mem_cons_self)
      obtain ⟨frames, opens, bytes, payloads⟩ := inductionHypothesis (index + 1)
        fun other member => fit other (List.mem_cons_of_mem chunk member)
      refine ⟨(encrypted, sealing.frame (draws index) .none chunk) :: frames,
        ?_, ?_, ?_⟩
      · intro entry member
        rcases List.mem_cons.mp member with rfl | member
        · exact ⟨short, opened⟩
        · exact opens entry member
      · rw [sentBytes, sealed, bytes, List.flatMap_cons]
      · rw [List.flatMap_cons, payloads, sealing.frame_payload,
          List.flatten_cons]

/-- The receiver delivers the chunks of the frames sent. -/
theorem deliver_sentBytes
    {sealing : Sealing}
    (lawful : sealing.cipher.aead.Lawful)
    (draws : sealing.Draws)
    (index : Nat)
    {chunks : List Bytes}
    (fit : ∀ chunk ∈ chunks, chunk.length ≤ READ_BUF_LEN)
    (rest : Bytes) :
    deliver sealing.cipher (sentBytes sealing draws index chunks ++ rest) =
      chunks.flatten ++ deliver sealing.cipher rest := by
  obtain ⟨frames, opens, bytes, payloads⟩ :=
    sentBytes_eq_frames lawful draws index fit
  rw [bytes, ← payloads, deliver_frames sealing.cipher opens]

/-! ## The loop -/

/-- Bytes of the current frame that are still to be written. -/
def sendPending : SendPoint → Bytes → Bytes
  | .length _ encrypted, progress =>
      (frameBytes encrypted).drop progress.length
  | .frame _ encrypted, progress => encrypted.drop progress.length
  | _, _ => []

/-- The number of chunks read when the loop waits at a point. -/
def chunksRead : SendPoint → Option Nat
  | .read index => some index
  | .length index _ => some (index + 1)
  | .frame index _ => some (index + 1)
  | .stopped => none

/-- What a sending loop has done: it has read some chunks off its input, and
written their frames except for what is pending.  A loop that stopped may have
left the frame of the last chunk unwritten, unless no operation has failed. -/
structure Sent
    (sealing : Sealing)
    (draws : sealing.Draws)
    (input : Bytes)
    (lossless : Prop)
    (state : TaskState SendPoint)
    (chunks : List Bytes) : Prop where
  fit : ∀ chunk ∈ chunks, chunk.length ≤ READ_BUF_LEN
  input : chunks.flatten ++ state.unread = input
  written : state.written <+: sentBytes sealing draws 0 chunks
  behind : sentBytes sealing draws 0 chunks.dropLast <+: state.written
  exact : state.point ≠ .stopped ∨ lossless →
    state.written ++ sendPending state.point state.progress =
      sentBytes sealing draws 0 chunks
  index : ∀ read, chunksRead state.point = some read → read = chunks.length
  stopped : state.point = .stopped → lossless → state.unread = []

/-- A stopped loop keeps what it has written. -/
theorem Sent.stop
    {sealing : Sealing}
    {draws : sealing.Draws}
    {input : Bytes}
    {lossless : Prop}
    {state : TaskState SendPoint}
    {chunks : List Bytes}
    (sent : Sent sealing draws input lossless state chunks)
    (clean : lossless →
      sendPending state.point state.progress = [] ∧
        state.point ≠ .stopped ∧ state.unread = []) :
    Sent sealing draws input lossless (state.goto .stopped) chunks where
  fit := sent.fit
  input := sent.input
  written := sent.written
  behind := sent.behind
  exact holds := by
    have noLoss : lossless := holds.resolve_left fun other => other rfl
    obtain ⟨nothing, running, _⟩ := clean noLoss
    have exact := sent.exact (.inl running)
    rw [nothing] at exact
    exact exact
  index := by
    intro read isRead
    cases isRead
  stopped _ noLoss := (clean noLoss).2.2

/-! What each operation of the loop can be. -/

theorem sendLoop_ne_readExact
    {sealing : Sealing}
    {draws : sealing.Draws}
    {point : SendPoint}
    {total : Nat}
    {filled : Bytes → SendPoint}
    {eof failed : SendPoint} :
    sendLoop sealing draws point ≠ .readExact total filled eof failed := by
  intro awaits
  cases point <;> cases awaits

theorem sendLoop_read
    {sealing : Sealing}
    {draws : sealing.Draws}
    {point : SendPoint}
    {capacity : Nat}
    {received : Bytes → SendPoint}
    {eof failed : SendPoint}
    (awaits : sendLoop sealing draws point =
      .read capacity received eof failed) :
    ∃ index, point = .read index ∧ capacity = READ_BUF_LEN ∧
      received = afterRead sealing draws index ∧ eof = .stopped ∧
      failed = .stopped := by
  cases point with
  | read index =>
      injection awaits with capacityEq receivedEq eofEq failedEq
      exact ⟨index, rfl, capacityEq.symm, receivedEq.symm, eofEq.symm,
        failedEq.symm⟩
  | length index encrypted => cases awaits
  | frame index encrypted => cases awaits
  | stopped => cases awaits

/-- A write is the length or the body of the current frame, and `tail` is what
is still to come of that frame afterwards. -/
theorem sendLoop_writeAll
    {sealing : Sealing}
    {draws : sealing.Draws}
    {point : SendPoint}
    {data : Bytes}
    {next failed : SendPoint}
    (awaits : sendLoop sealing draws point = .writeAll data next failed) :
    failed = .stopped ∧ point ≠ .stopped ∧ next ≠ .stopped ∧
      chunksRead next = chunksRead point ∧
      ∃ tail, (∀ progress, sendPending point progress =
          (data ++ tail).drop progress.length) ∧
        sendPending next [] = tail := by
  cases point with
  | read index => cases awaits
  | length index encrypted =>
      injection awaits with dataEq nextEq failedEq
      subst dataEq nextEq failedEq
      exact ⟨rfl, SendPoint.noConfusion, SendPoint.noConfusion, rfl, encrypted,
        fun _ => rfl, rfl⟩
  | frame index encrypted =>
      injection awaits with dataEq nextEq failedEq
      subst dataEq nextEq failedEq
      refine ⟨rfl, SendPoint.noConfusion, SendPoint.noConfusion, rfl, [],
        fun progress => ?_, rfl⟩
      rw [List.append_nil]
      rfl
  | stopped => cases awaits

/-- Writing part of a byte string moves it off the front of what remains. -/
theorem take_append_drop_of_le
    {data : Bytes}
    {start count : Nat}
    (fits : start + count ≤ data.length)
    (tail : Bytes) :
    (data.drop start).take count ++ (data ++ tail).drop (start + count) =
      (data ++ tail).drop start := by
  have enough : count ≤ (data.drop start).length := by
    rw [List.length_drop]
    omega
  have front : (data.drop start).take count =
      (data.drop start ++ tail).take count :=
    (List.take_append_of_le_length enough).symm
  rw [← List.drop_drop, List.drop_append_of_le_length (by omega), front,
    List.take_append_drop]

/-- A chunk that is read is sealed into a frame that is still to be written. -/
theorem Sent.receive
    {sealing : Sealing}
    (lawful : sealing.cipher.aead.Lawful)
    {draws : sealing.Draws}
    {input : Bytes}
    {lossless : Prop}
    {state : TaskState SendPoint}
    {chunks : List Bytes}
    (sent : Sent sealing draws input lossless state chunks)
    {index count : Nat}
    (point : state.point = .read index)
    (fits : count ≤ READ_BUF_LEN) :
    Sent sealing draws input lossless
      { state.goto (afterRead sealing draws index (state.unread.take count))
          with
        unread := state.unread.drop count }
      (chunks ++ [state.unread.take count]) := by
  have chunkFits : (state.unread.take count).length ≤ READ_BUF_LEN :=
    (List.length_take_le _ _).trans fits
  obtain ⟨encrypted, sealed, _, _⟩ := sealing.sealFrame_spec lawful
    (draws index) (show TargetAddr.IsWire .none from trivial) chunkFits
  have after : afterRead sealing draws index (state.unread.take count) =
      .length index encrypted := by
    rw [afterRead, sealed]
  have indexEq : index = chunks.length := sent.index index (by
    rw [point]
    rfl)
  have exact := sent.exact (.inl (by
    rw [point]
    exact SendPoint.noConfusion))
  rw [point] at exact
  simp only [sendPending, List.append_nil] at exact
  have frames : sentBytes sealing draws 0
        (chunks ++ [state.unread.take count]) =
      state.written ++ frameBytes encrypted := by
    rw [sentBytes_append, ← exact, Nat.zero_add, ← indexEq, sentBytes, sealed]
    exact congrArg _ (List.append_nil _)
  rw [after]
  refine ⟨?_, ?_, ?_, ?_, ?_, ?_, ?_⟩
  · intro chunk member
    rcases List.mem_append.mp member with old | new
    · exact sent.fit chunk old
    · rw [List.mem_singleton.mp new]
      exact chunkFits
  · rw [List.flatten_append, List.flatten_singleton, List.append_assoc,
      List.take_append_drop]
    exact sent.input
  · rw [frames]
    exact List.prefix_append _ _
  · rw [List.dropLast_concat, ← exact]
    exact List.prefix_rfl
  · intro _
    rw [frames]
    rfl
  · intro read isRead
    rw [← Option.some.inj isRead, List.length_append, indexEq]
    rfl
  · intro stopped
    cases stopped

/-- A write moves bytes of the current frame to what is written. -/
theorem Sent.write
    {sealing : Sealing}
    {draws : sealing.Draws}
    {input : Bytes}
    {lossless : Prop}
    {state : TaskState SendPoint}
    {chunks : List Bytes}
    (sent : Sent sealing draws input lossless state chunks)
    {data : Bytes}
    {following failed : SendPoint}
    {count : Nat}
    (awaits : sendLoop sealing draws state.point =
      .writeAll data following failed)
    (fits : state.progress.length + count ≤ data.length) :
    Sent sealing draws input lossless
      { state with
        progress := data.take (state.progress.length + count)
        written := state.written ++
          (data.drop state.progress.length).take count }
      chunks := by
  obtain ⟨-, running, -, -, tail, pending, -⟩ := sendLoop_writeAll awaits
  have length :
      (data.take (state.progress.length + count)).length =
        state.progress.length + count :=
    List.length_take_of_le fits
  have exact := sent.exact (.inl running)
  rw [pending, ← take_append_drop_of_le fits tail, ← List.append_assoc] at exact
  refine ⟨sent.fit, sent.input, ?_, ?_, ?_, sent.index, ?_⟩
  · rw [← exact]
    exact List.prefix_append _ _
  · exact sent.behind.trans (List.prefix_append _ _)
  · intro _
    simp only
    rw [pending, length]
    exact exact
  · intro stopped
    exact absurd stopped running

/-- When a write is complete, what follows of the frame is still to be
written. -/
theorem Sent.wrote
    {sealing : Sealing}
    {draws : sealing.Draws}
    {input : Bytes}
    {lossless : Prop}
    {state : TaskState SendPoint}
    {chunks : List Bytes}
    (sent : Sent sealing draws input lossless state chunks)
    {data : Bytes}
    {following failed : SendPoint}
    (awaits : sendLoop sealing draws state.point =
      .writeAll data following failed)
    (complete : state.progress.length = data.length) :
    Sent sealing draws input lossless (state.goto following) chunks := by
  obtain ⟨-, running, follows, sameIndex, tail, pending, after⟩ :=
    sendLoop_writeAll awaits
  have exact := sent.exact (.inl running)
  rw [pending, complete, List.drop_left] at exact
  refine ⟨sent.fit, sent.input, sent.written, sent.behind, ?_, ?_, ?_⟩
  · intro _
    simp only [TaskState.goto]
    rw [after]
    exact exact
  · intro read isRead
    simp only [TaskState.goto] at isRead
    rw [sameIndex] at isRead
    exact sent.index read isRead
  · intro stopped
    exact absurd stopped follows

/-- One event keeps the relation between the chunks read and the bytes
written, with the chunk that it reads. -/
theorem Sent.of_transition
    {sealing : Sealing}
    (lawful : sealing.cipher.aead.Lawful)
    {draws : sealing.Draws}
    {input : Bytes}
    {lossless : Prop}
    {state next : TaskState SendPoint}
    {event : Event}
    {chunks : List Bytes}
    (sent : Sent sealing draws input lossless state chunks)
    (noFailure : lossless → event ≠ .fail)
    (transition : Transition (sendLoop sealing draws) state event next) :
    Sent sealing draws input lossless next
      (chunks ++ readBy (sendLoop sealing draws) state event) := by
  cases transition with
  | fill awaits positive fits available =>
      exact absurd awaits sendLoop_ne_readExact
  | filled awaits complete => exact absurd awaits sendLoop_ne_readExact
  | fillEof awaits partly drained closed =>
      exact absurd awaits sendLoop_ne_readExact
  | failFill awaits => exact absurd awaits sendLoop_ne_readExact
  | receive awaits positive fits available =>
      simp only [readBy, awaits]
      obtain ⟨index, point, rfl, rfl, -, -⟩ := sendLoop_read awaits
      exact sent.receive lawful point fits
  | write awaits positive fits =>
      simp only [readBy, awaits, List.append_nil]
      exact sent.write awaits fits
  | wrote awaits complete =>
      rw [readBy, List.append_nil]
      exact sent.wrote awaits complete
  | readEof awaits drained closed =>
      rw [readBy, List.append_nil]
      obtain ⟨index, point, -, -, rfl, -⟩ := sendLoop_read awaits
      refine sent.stop fun _ => ⟨?_, ?_, drained⟩
      · rw [point]
        rfl
      · rw [point]
        exact SendPoint.noConfusion
  | failRead awaits =>
      rw [readBy, List.append_nil]
      obtain ⟨index, point, -, -, -, rfl⟩ := sendLoop_read awaits
      exact sent.stop fun noLoss => absurd rfl (noFailure noLoss)
  | failWrite awaits =>
      rw [readBy, List.append_nil]
      obtain ⟨rfl, -⟩ := sendLoop_writeAll awaits
      exact sent.stop fun noLoss => absurd rfl (noFailure noLoss)

/-- Along every run the loop has written a prefix of the frames of what its
reads have returned, and without I/O errors nothing is lost. -/
theorem sent_of_run
    {sealing : Sealing}
    (lawful : sealing.cipher.aead.Lawful)
    {draws : sealing.Draws}
    {input : Bytes}
    {closed : Bool}
    {events : List Event}
    {state : TaskState SendPoint}
    (reached : Run.run (step (sendLoop sealing draws))
      (TaskState.start (.read 0) input closed) events = some state) :
    Sent sealing draws input (Event.fail ∉ events) state
      (reads (sendLoop sealing draws) (TaskState.start (.read 0) input closed)
        events) := by
  refine Run.observed_of_run
    (fun chunks state =>
      Sent sealing draws input (Event.fail ∉ events) state chunks)
    ?_ ?_ reached
  · intro chunks before after event member sent stepped
    refine sent.of_transition lawful ?_ (transition_of_step stepped)
    rintro noFailure rfl
    exact noFailure member
  · refine ⟨?_, rfl, List.nil_prefix, List.nil_prefix, fun _ => rfl, ?_, ?_⟩
    · intro chunk member
      cases member
    · intro read isRead
      exact (Option.some.inj isRead).symm
    · intro stopped
      cases stopped

/-- What the receiver would deliver of the bytes sent so far is a prefix of
the input, and all of it once the loop is settled without I/O errors. -/
theorem deliver_written_of_run
    {sealing : Sealing}
    (lawful : sealing.cipher.aead.Lawful)
    {draws : sealing.Draws}
    {input : Bytes}
    {closed : Bool}
    {events : List Event}
    {state : TaskState SendPoint}
    (reached : Run.run (step (sendLoop sealing draws))
      (TaskState.start (.read 0) input closed) events = some state) :
    deliver sealing.cipher state.written <+: input ∧
      (Event.fail ∉ events → Settled (sendLoop sealing draws) state →
        deliver sealing.cipher state.written = input) := by
  have sent := sent_of_run lawful reached
  have delivered := deliver_sentBytes lawful draws 0 sent.fit []
  rw [List.append_nil, deliver_nil, List.append_nil] at delivered
  constructor
  · have shorter := deliver_prefix sealing.cipher sent.written
    rw [delivered] at shorter
    exact shorter.trans ⟨state.unread, sent.input⟩
  · rintro noFailure ⟨drained, waits⟩
    have nothing : sendPending state.point state.progress = [] := by
      cases point : state.point with
      | read index => rfl
      | length index encrypted =>
          rw [point] at waits
          exact waits.elim
      | frame index encrypted =>
          rw [point] at waits
          exact waits.elim
      | stopped => rfl
    have exact := sent.exact (.inr noFailure)
    have input := sent.input
    rw [nothing, List.append_nil] at exact
    rw [drained, List.append_nil] at input
    rw [exact, delivered, input]

/-! ## Progress -/

/-- Any chunks that fit the buffer can be read and sent one by one. -/
theorem run_send_chunks
    {sealing : Sealing}
    (lawful : sealing.cipher.aead.Lawful)
    (draws : sealing.Draws)
    (index : Nat)
    {chunks : List Bytes}
    (fit : ∀ chunk ∈ chunks, chunk ≠ [] ∧ chunk.length ≤ READ_BUF_LEN)
    (rest : Bytes)
    (closed : Bool)
    (written : Bytes) :
    ∃ events, Event.fail ∉ events ∧ Event.eof ∉ events ∧
      Run.run (step (sendLoop sealing draws))
          ⟨.read index, [], chunks.flatten ++ rest, closed, written⟩ events =
        some ⟨.read (index + chunks.length), [], rest, closed,
          written ++ sentBytes sealing draws index chunks⟩ := by
  induction chunks generalizing index written with
  | nil =>
      exact ⟨[], List.not_mem_nil, List.not_mem_nil, by simp [sentBytes]⟩
  | cons chunk chunks inductionHypothesis =>
      obtain ⟨nonempty, chunkFits⟩ := fit chunk List.mem_cons_self
      obtain ⟨encrypted, sealed, short, opened⟩ := sealing.sealFrame_spec lawful
        (draws index) (show TargetAddr.IsWire .none from trivial) chunkFits
      have after : afterRead sealing draws index chunk =
          .length index encrypted := by
        rw [afterRead, sealed]
      have chunkRead := run_read (sendLoop sealing draws)
        ⟨.read index, [], (chunk :: chunks).flatten ++ rest, closed, written⟩
        chunk (chunks.flatten ++ rest) rfl
        (by rw [List.flatten_cons, List.append_assoc]) nonempty chunkFits
      rw [after] at chunkRead
      have lengthWritten := run_writeAll (sendLoop sealing draws)
        ⟨.length index encrypted, [], chunks.flatten ++ rest, closed, written⟩
        (u16Be (UInt16.ofNat encrypted.length)) rfl rfl (List.cons_ne_nil _ _)
      have frameWritten := run_writeAll (sendLoop sealing draws)
        ⟨.frame index encrypted, [], chunks.flatten ++ rest, closed,
          written ++ u16Be (UInt16.ofNat encrypted.length)⟩
        encrypted rfl rfl (ne_nil_of_openFrame opened)
      obtain ⟨others, clean, goesOn, othersRun⟩ :=
        inductionHypothesis (index + 1)
        (fun other member => fit other (List.mem_cons_of_mem chunk member))
        (written ++ frameBytes encrypted)
      refine ⟨_, ?_, ?_, (Run.run_append_eq_some _ _ _ _ _).mpr ⟨_, chunkRead,
        (Run.run_append_eq_some _ _ _ _ _).mpr ⟨_, lengthWritten,
          (Run.run_append_eq_some _ _ _ _ _).mpr
            ⟨_, frameWritten.trans ?_, othersRun.trans ?_⟩⟩⟩⟩
      · simp [clean]
      · simp [goesOn]
      · rw [List.append_assoc]
        rfl
      · rw [sentBytes, sealed, List.length_cons, List.append_assoc,
          Nat.add_assoc, Nat.add_comm 1 chunks.length]

end Relay
end GhostProtocol
