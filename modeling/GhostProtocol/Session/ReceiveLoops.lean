import GhostProtocol.Foundation.TaskMap
import GhostProtocol.Relay.Frames

/-!
# The two receiving loops

The upload loop of the server and the download loop of the client are two
copies of one loop.  They differ in what they log when they stop.  Both read
sealed frames into a buffer, whose slices panic beyond its end.  Each follows
the receiving loop of the relay, never panics, and writes the payloads of the
longest front of complete frames that open.
-/

namespace GhostProtocol
namespace Relay

open Foundation Foundation.AsyncTask Common Crypto

/-! ## The buffer -/

/-- A buffer for sealed frames. -/
abbrev EncBuf := Block ENC_BUF_LEN

/-- The first bytes of a buffer. -/
structure EncSlice where
  encBuf : EncBuf
  frameLen : Nat
  within : frameLen ≤ ENC_BUF_LEN

/-- Slice the first bytes of a buffer, or panic beyond its end. -/
def sliceTo (encBuf : EncBuf) (frameLen : Nat) : Option EncSlice :=
  if within : frameLen ≤ ENC_BUF_LEN then some { encBuf, frameLen, within }
  else none

/-- The bytes of a slice. -/
def EncSlice.bytes (slice : EncSlice) : Bytes :=
  slice.encBuf.toList.take slice.frameLen

/-- The buffer after a block has been read into a slice of it. -/
def EncSlice.fill (slice : EncSlice) (block : Bytes) : EncBuf :=
  Block.ofBytes ENC_BUF_LEN (block ++ slice.encBuf.toList.drop slice.frameLen)

/-- A slice within the buffer is taken. -/
theorem sliceTo_of_le
    (encBuf : EncBuf)
    {frameLen : Nat}
    (within : frameLen ≤ ENC_BUF_LEN) :
    sliceTo encBuf frameLen = some { encBuf, frameLen, within } :=
  dif_pos within

/-- What was read into a slice is found in it. -/
theorem EncSlice.bytes_fill
    (slice : EncSlice)
    {block : Bytes}
    (full : block.length = slice.frameLen) :
    EncSlice.bytes { slice with encBuf := slice.fill block } = block := by
  have whole : (block ++ slice.encBuf.toList.drop slice.frameLen).length =
      ENC_BUF_LEN := by
    rw [List.length_append, List.length_drop, Block.length_toList, full]
    exact Nat.add_sub_of_le slice.within
  have filled : (slice.fill block).toList =
      block ++ slice.encBuf.toList.drop slice.frameLen := by
    change List.takeD _ _ _ = _
    rw [List.takeD_eq_take 0 (Nat.le_of_eq whole.symm)]
    exact List.take_of_length_le (Nat.le_of_eq whole)
  rw [EncSlice.bytes, filled]
  exact List.take_left' full

/-! ## The loops -/

/-- Where one of the loops is.  A loop that stops may log why, up to the text
of an I/O error. -/
inductive LoopPoint
  | length (encBuf : EncBuf)
  | frame (slice : EncSlice)
  | payload (encBuf : EncBuf) (payload : Bytes)
  | stopped (logged : Option String)
  | panicked

/-- Continue after the length of a frame. -/
def takeLength
    (tooLarge : String)
    (encBuf : EncBuf)
    (lenBuf : Bytes) : LoopPoint :=
  let frameLen := (u16FromBuffer lenBuf).toNat
  if frameLen > encBuf.toList.length then
    .stopped (some (tooLarge ++ toString frameLen))
  else
    match sliceTo encBuf frameLen with
    | none => .panicked
    | some slice => .frame slice

/-- Continue after a sealed frame has been read into a slice. -/
def openSlice
    (decryptError decodeError : String)
    (cipher : GhostCipher)
    (slice : EncSlice)
    (block : Bytes) : LoopPoint :=
  let encBuf := slice.fill block
  match sliceTo encBuf slice.frameLen with
  | none => .panicked
  | some sealed =>
      match cipher.decrypt sealed.bytes with
      | .error error => .stopped (some (decryptError ++ error.message))
      | .ok plaintext =>
          match GhostFrame.decode plaintext with
          | .error .panic => .panicked
          | .error (.error error) =>
              .stopped (some (decodeError ++ error.message))
          | .ok frame =>
              if frame.payload ≠ [] then .payload encBuf frame.payload
              else .length encBuf

end Relay

namespace Server

open Foundation Foundation.AsyncTask Common Crypto Relay

/-- From the client to the target. -/
def uploadLoop (cipherC2s : GhostCipher) : LoopPoint → Await LoopPoint
  | .length encBuf =>
      .readExact 2 (takeLength "Client frame too large: " encBuf)
        (.stopped none) (.stopped (some "Client read length error: "))
  | .frame slice =>
      .readExact slice.frameLen
        (openSlice "Client frame decrypt error: "
          "Client frame decode error: " cipherC2s slice)
        (.stopped (some "Client read frame error: "))
        (.stopped (some "Client read frame error: "))
  | .payload encBuf payload =>
      .writeAll payload (.length encBuf)
        (.stopped (some "Target write error: "))
  | .stopped _ => .finished
  | .panicked => .finished

end Server

namespace Client

open Foundation Foundation.AsyncTask Common Crypto Relay

/-- From the server to the application. -/
def downloadLoop (cipherS2c : GhostCipher) : LoopPoint → Await LoopPoint
  | .length encBuf =>
      .readExact 2 (takeLength "Frame too large: " encBuf)
        (.stopped none) (.stopped (some "Ghost read length error: "))
  | .frame slice =>
      .readExact slice.frameLen
        (openSlice "Decryption error: " "Frame decode error: " cipherS2c slice)
        (.stopped (some "Ghost read frame error: "))
        (.stopped (some "Ghost read frame error: "))
  | .payload encBuf payload =>
      .writeAll payload (.length encBuf)
        (.stopped (some "SOCKS5 write error: "))
  | .stopped _ => .finished
  | .panicked => .finished

end Client

namespace Session

open Foundation Foundation.AsyncTask Common Crypto Relay

/-! ## Both loops follow the receiving loop -/

/-- The point of the receiving loop at which a copy of it is. -/
def receivePoint : LoopPoint → ReceivePoint
  | .length _ => .length
  | .frame slice => .frame slice.frameLen
  | .payload _ payload => .payload payload
  | .stopped _ => .stopped
  | .panicked => .stopped

/-- A copy of the receiving loop, which does not panic. -/
structure Copies
    (cipher : GhostCipher)
    (loop : LoopPoint → Await LoopPoint) : Prop where
  follows : ∀ point, (loop point).Follows receivePoint
    (receiveLoop cipher (receivePoint point))
  goesOn : ∀ point, point ≠ .panicked →
    (loop point).GoesOnTo fun next => next ≠ .panicked

/-- The length of a frame lies within the buffer. -/
theorem takeLength_eq
    (tooLarge : String)
    (encBuf : EncBuf)
    (lenBuf : Bytes) :
    ∃ slice, takeLength tooLarge encBuf lenBuf = .frame slice ∧
      afterLength lenBuf = .frame slice.frameLen := by
  have bound := (u16FromBuffer lenBuf).toNat_lt
  have within : (u16FromBuffer lenBuf).toNat ≤ ENC_BUF_LEN := by
    unfold ENC_BUF_LEN
    omega
  refine ⟨{ encBuf, frameLen := (u16FromBuffer lenBuf).toNat, within }, ?_,
    afterLength_eq lenBuf⟩
  rw [takeLength, if_neg (by rw [Block.length_toList]; exact Nat.not_lt.mpr within),
    sliceTo_of_le encBuf within]

/-- A sealed frame is opened from the buffer it was read into. -/
theorem openSlice_eq
    (decryptError decodeError : String)
    (cipher : GhostCipher)
    (slice : EncSlice)
    {block : Bytes}
    (full : block.length = slice.frameLen) :
    openSlice decryptError decodeError cipher slice block ≠ .panicked ∧
      afterFrame cipher block =
        receivePoint
          (openSlice decryptError decodeError cipher slice block) := by
  rw [openSlice, sliceTo_of_le _ slice.within]
  simp only
  rw [slice.bytes_fill full, afterFrame, openFrame]
  cases cipher.decrypt block with
  | error error => exact ⟨LoopPoint.noConfusion, rfl⟩
  | ok plaintext =>
      simp only
      cases decoded : GhostFrame.decode plaintext with
      | error fault =>
          cases fault with
          | panic => exact absurd decoded (GhostFrame.decode_ne_panic plaintext)
          | error error => exact ⟨LoopPoint.noConfusion, rfl⟩
      | ok frame =>
          simp only
          by_cases empty : frame.payload = []
          · rw [if_neg (not_not_intro empty), if_pos empty]
            exact ⟨LoopPoint.noConfusion, rfl⟩
          · rw [if_pos empty, if_neg empty]
            exact ⟨LoopPoint.noConfusion, rfl⟩

/-- A loop made of the stages is a copy of the receiving loop. -/
theorem copies_of_stages
    {cipher : GhostCipher}
    {loop : LoopPoint → Await LoopPoint}
    {tooLarge decryptError decodeError : String}
    {lengthError frameError writeError : Option String}
    (length : ∀ encBuf, loop (.length encBuf) =
      .readExact 2 (takeLength tooLarge encBuf) (.stopped none)
        (.stopped lengthError))
    (frame : ∀ slice, loop (.frame slice) =
      .readExact slice.frameLen
        (openSlice decryptError decodeError cipher slice)
        (.stopped frameError) (.stopped frameError))
    (payload : ∀ encBuf payload, loop (.payload encBuf payload) =
      .writeAll payload (.length encBuf) (.stopped writeError))
    (stopped : ∀ logged, loop (.stopped logged) = .finished)
    (panicked : loop .panicked = .finished) :
    Copies cipher loop where
  follows point := by
    cases point with
    | length encBuf =>
        rw [length]
        refine .readExact fun lenBuf _ => ?_
        obtain ⟨slice, taken, after⟩ := takeLength_eq tooLarge encBuf lenBuf
        rw [taken]
        exact after
    | frame slice =>
        rw [frame]
        exact .readExact fun block full => (openSlice_eq _ _ cipher slice full).2
    | payload encBuf data =>
        rw [payload]
        exact .writeAll
    | stopped logged =>
        rw [stopped]
        exact .finished
    | panicked =>
        rw [panicked]
        exact .finished
  goesOn point running := by
    cases point with
    | length encBuf =>
        rw [length]
        refine ⟨fun lenBuf _ => ?_, LoopPoint.noConfusion,
          LoopPoint.noConfusion⟩
        obtain ⟨slice, taken, -⟩ := takeLength_eq tooLarge encBuf lenBuf
        rw [taken]
        exact LoopPoint.noConfusion
    | frame slice =>
        rw [frame]
        exact ⟨fun block full => (openSlice_eq _ _ cipher slice full).1,
          LoopPoint.noConfusion, LoopPoint.noConfusion⟩
    | payload encBuf data =>
        rw [payload]
        exact ⟨LoopPoint.noConfusion, LoopPoint.noConfusion⟩
    | stopped logged =>
        rw [stopped]
        trivial
    | panicked => exact absurd rfl running

/-- The upload loop of the server is a copy of the receiving loop. -/
theorem copies_uploadLoop (cipher : GhostCipher) :
    Copies cipher (Server.uploadLoop cipher) :=
  copies_of_stages (fun _ => rfl) (fun _ => rfl) (fun _ _ => rfl)
    (fun _ => rfl) rfl

/-- The download loop of the client is a copy of the receiving loop. -/
theorem copies_downloadLoop (cipher : GhostCipher) :
    Copies cipher (Client.downloadLoop cipher) :=
  copies_of_stages (fun _ => rfl) (fun _ => rfl) (fun _ _ => rfl)
    (fun _ => rfl) rfl

/-! ## The receiving loop comes to rest -/

/-- What is left to the current operation of the receiving loop. -/
def stageRank : ReceivePoint → Bytes → Nat
  | .length, progress => 2 * progress.length + 1
  | .frame _, progress => 2 * progress.length + 4
  | .payload _, _ => 3
  | .stopped, _ => 0

/-- An opened frame leaves its payload or nothing. -/
theorem stageRank_afterFrame
    (cipher : GhostCipher)
    (blob : Bytes) :
    stageRank (afterFrame cipher blob) [] ≤ 3 := by
  rw [afterFrame]
  cases openFrame cipher blob with
  | none => exact Nat.zero_le 3
  | some frame =>
      simp only
      split_ifs
      · exact Nat.le_of_lt (show 1 < 3 by decide)
      · exact Nat.le_refl 3

/-- Something is left until the loop stops. -/
theorem stageRank_pos
    {point : ReceivePoint}
    (running : point ≠ .stopped)
    (progress : Bytes) :
    0 < stageRank point progress := by
  cases point with
  | length => exact Nat.succ_pos _
  | frame frameLen => exact Nat.succ_pos _
  | payload payload => exact Nat.succ_pos _
  | stopped => exact absurd rfl running

/-- What is read counts twice. -/
theorem stageRank_append
    {point : ReceivePoint}
    {total : Nat}
    (reads : point.Reads total)
    (progress bytes : Bytes) :
    stageRank point (progress ++ bytes) =
      stageRank point progress + 2 * bytes.length := by
  cases point with
  | length =>
      rw [stageRank, stageRank, List.length_append]
      omega
  | frame frameLen =>
      rw [stageRank, stageRank, List.length_append]
      omega
  | payload payload => exact reads.elim
  | stopped => exact reads.elim

/-- What is left to the receiving loop. -/
def receiveRank
    (cipher : GhostCipher)
    (state : TaskState ReceivePoint) : Nat :=
  3 * state.unread.length +
    (pendingOutput (receiveLoop cipher) (receiveOutput cipher) state).length +
    stageRank state.point state.progress

/-- Every event of the receiving loop leaves less to it. -/
theorem receiveRank_of_transition
    {cipher : GhostCipher}
    {state next : TaskState ReceivePoint}
    {event : Event}
    (transition : Transition (receiveLoop cipher) state event next) :
    receiveRank cipher next < receiveRank cipher state := by
  have pending := length_pendingOutput_of_transition
    (receiveLoop_predicts cipher) transition
  unfold receiveRank
  generalize (pendingOutput (receiveLoop cipher) (receiveOutput cipher)
    next).length = nextPending at pending ⊢
  generalize (pendingOutput (receiveLoop cipher) (receiveOutput cipher)
    state).length = statePending at pending ⊢
  cases receiveStep_of_transition transition with
  | @filling total count reads positive fits available =>
      have taken : (state.unread.take count).length = count :=
        List.length_take_of_le available
      have grown := stageRank_append reads state.progress
        (state.unread.take count)
      rw [taken] at grown
      simp only at pending ⊢
      rw [grown, List.length_drop]
      omega
  | writing waits positive fits =>
      simp only [List.length_append, List.length_take, List.length_drop]
        at pending ⊢
      rw [waits, stageRank, stageRank]
      omega
  | lengthRead waits complete =>
      simp only [TaskState.goto] at pending ⊢
      rw [waits, stageRank, stageRank, complete]
      simp only [List.length_nil]
      omega
  | frameRead waits =>
      have small := stageRank_afterFrame cipher state.progress
      simp only [TaskState.goto] at pending ⊢
      rw [waits, stageRank]
      omega
  | payloadWritten waits complete =>
      simp only [TaskState.goto] at pending ⊢
      rw [waits, stageRank, stageRank]
      simp only [List.length_nil]
      omega
  | stopping running ended =>
      have active := stageRank_pos running state.progress
      simp only [TaskState.goto] at pending ⊢
      rw [stageRank]
      omega

/-! ## What both loops write -/

/-- A loop that reads `input` and writes `output`, whatever the segmentation
and the order of events: it never panics, has always written a front of the
output, and all of it when it rests without an I/O error, as it can from
anywhere. -/
structure Writes
    (loop : LoopPoint → Await LoopPoint)
    (input output : Bytes) : Prop where
  safe : ∀ closed events state,
    Run.run (step loop)
        (TaskState.start (.length (Block.ofBytes ENC_BUF_LEN [])) input closed)
        events = some state →
      state.point ≠ .panicked
  front : ∀ closed events state,
    Run.run (step loop)
        (TaskState.start (.length (Block.ofBytes ENC_BUF_LEN [])) input closed)
        events = some state →
      state.written <+: output
  whole : ∀ closed events state,
    Run.run (step loop)
        (TaskState.start (.length (Block.ofBytes ENC_BUF_LEN [])) input closed)
        events = some state →
      Event.fail ∉ events → AtRest loop state → state.written = output
  rests : ∀ closed events state,
    Run.run (step loop)
        (TaskState.start (.length (Block.ofBytes ENC_BUF_LEN [])) input closed)
        events = some state →
      ∃ more final, Event.fail ∉ more ∧
        Run.run (step loop) state more = some final ∧ AtRest loop final

/-- The receiving loop never reads a part of what is there. -/
theorem receiveLoop_roomy
    {cipher : GhostCipher}
    {point : ReceivePoint}
    {capacity : Nat}
    {received : Bytes → ReceivePoint}
    {eof failed : ReceivePoint}
    (awaits : receiveLoop cipher point = .read capacity received eof failed) :
    0 < capacity :=
  absurd awaits (receiveLoop_predicts cipher).not_read

/-- A copy of the receiving loop writes what its input delivers. -/
theorem Copies.writes
    {cipher : GhostCipher}
    {loop : LoopPoint → Await LoopPoint}
    (copies : Copies cipher loop)
    (input : Bytes) :
    Writes loop input (deliver cipher input) := by
  have followed : ∀ closed events state,
      Run.run (step loop)
          (TaskState.start (.length (Block.ofBytes ENC_BUF_LEN [])) input closed)
          events = some state →
        Run.run (step (receiveLoop cipher))
          (TaskState.start .length input closed) events =
            some (state.map receivePoint) := by
    intro closed events state reached
    have mapped := run_map copies.follows
      (TaskState.start (.length (Block.ofBytes ENC_BUF_LEN [])) input closed)
      events
    rw [reached] at mapped
    exact mapped
  refine ⟨?_, ?_, ?_, ?_⟩
  · intro closed events state reached
    exact good_of_run copies.goesOn LoopPoint.noConfusion reached
  · intro closed events state reached
    exact (List.prefix_append _ _).trans (written_prefix_of_run
      (receiveLoop_predicts cipher) (followed closed events state reached))
  · intro closed events state reached clean rest
    exact written_of_atRest (receiveLoop_predicts cipher) clean
      (followed closed events state reached)
      ((atRest_map copies.follows state).mpr rest)
  · intro closed events state reached
    have bounded := bounded_of_run receiveLoop_roomy
      (show Bounded (receiveLoop cipher) (TaskState.start .length input closed)
        from Nat.zero_le _) (followed closed events state reached)
    obtain ⟨more, final, clean, ran, rest⟩ := exists_run_atRest
      receiveLoop_roomy receiveRank_of_transition (state.map receivePoint)
      bounded
    rw [run_map copies.follows] at ran
    obtain ⟨last, lastRan, rfl⟩ := Option.map_eq_some_iff.mp ran
    exact ⟨more, last, clean, lastRan,
      (atRest_map copies.follows last).mp rest⟩

/-- Both loops write the payloads of the longest front of complete frames that
open. -/
theorem receiving_loops_write
    (cipher : GhostCipher)
    (input : Bytes) :
    ∃ frames, StandsInFront cipher input frames ∧
      (∀ others, StandsInFront cipher input others → others <+: frames) ∧
      Writes (Server.uploadLoop cipher) input
        (frames.flatMap fun entry => entry.2.payload) ∧
      Writes (Client.downloadLoop cipher) input
        (frames.flatMap fun entry => entry.2.payload) := by
  have delivered := deliver_eq_flatMap cipher input
  refine ⟨frontFrames cipher input, frontFrames_spec cipher input,
    fun others front => front.prefix_frontFrames, ?_, ?_⟩
  · rw [← delivered]
    exact (copies_uploadLoop cipher).writes input
  · rw [← delivered]
    exact (copies_downloadLoop cipher).writes input

end Session
end GhostProtocol
