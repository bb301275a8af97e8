import GhostProtocol.Relay.Frames
import Mathlib.Data.List.Forall2

/-!
# What the lengths of frames show

The length in front of a frame travels in clear.  Each frame of a sending loop
is as long as the bytes of one read and 49 more, up to its padding, so whoever
sees the bytes on the wire sees how much each read has returned, exactly
without padding and up to the configured maximum with it.
-/

namespace GhostProtocol
namespace Relay

open Foundation Foundation.AsyncTask Common Crypto

/-! ## The lengths on the wire -/

/-- The lengths of the complete frames that stand in front of the bytes, which
need not open. -/
def frameLengths : Bytes → List Nat
  | high :: low :: rest =>
      let frameLen := (u16OfBe high low).toNat
      if frameLen ≤ rest.length then
        frameLen :: frameLengths (rest.drop frameLen)
      else []
  | _ => []
  termination_by input => input.length
  decreasing_by
    simp only [List.length_drop, List.length_cons]
    omega

/-- No frame stands in front of fewer than two bytes. -/
theorem frameLengths_of_length_lt_two
    {input : Bytes}
    (short : input.length < 2) :
    frameLengths input = [] := by
  match input, short with
  | [], _ => rw [frameLengths]; simp
  | [byte], _ => rw [frameLengths]; simp

/-- The length of a frame comes before those of the frames behind it. -/
theorem frameLengths_frameBytes
    {blob : Bytes}
    (fits : blob.length < 65536)
    (rest : Bytes) :
    frameLengths (frameBytes blob ++ rest) =
      blob.length :: frameLengths rest := by
  rw [frameBytes, List.append_assoc]
  change frameLengths (_ :: _ :: (blob ++ rest)) = _
  rw [frameLengths, u16OfBe_u16Be]
  have enough : blob.length ≤ (blob ++ rest).length := by
    rw [List.length_append]
    omega
  simp only [toNat_ofNat_length _ fits, if_pos enough, List.drop_left]

/-- More bytes show the same lengths first. -/
theorem frameLengths_mono
    {input longer : Bytes}
    (isPrefix : input <+: longer) :
    frameLengths input <+: frameLengths longer := by
  obtain ⟨more, rfl⟩ := isPrefix
  induction input using frameLengths.induct with
  | case1 high low rest frameLen enough inductionHypothesis =>
      have longEnough : frameLen ≤ (rest ++ more).length := by
        rw [List.length_append]
        omega
      rw [frameLengths, if_pos enough, List.cons_append, List.cons_append,
        frameLengths, if_pos longEnough,
        List.drop_append_of_le_length enough]
      exact (List.prefix_cons_inj _).mpr inductionHypothesis
  | case2 high low rest frameLen short =>
      rw [frameLengths, if_neg short]
      exact List.nil_prefix
  | case3 input notLong =>
      rw [frameLengths_of_length_lt_two (length_lt_two_of_ne_cons notLong)]
      exact List.nil_prefix

/-! ## The lengths of sealed frames -/

/-- Bytes of a sealed frame besides its address, payload and padding: the nonce,
the version, the user id, the two lengths and the tag. -/
def SEALED_OVERHEAD : Nat := NONCE_SIZE + 20 + TAG_SIZE

example : SEALED_OVERHEAD + TargetAddr.encodedLen .none = 49 := by decide

/-- The most bytes of padding that a frame can have. -/
def Sealing.paddingBound (sealing : Sealing) : Nat :=
  if sealing.enablePadding then sealing.maxPaddingLen.toNat else 0

/-- A length that a frame with the given address and payload can have. -/
structure Sealing.Shows
    (sealing : Sealing)
    (target : TargetAddr)
    (shown : Nat)
    (payload : Bytes) : Prop where
  least : SEALED_OVERHEAD + target.encodedLen + payload.length ≤ shown
  most : shown ≤ SEALED_OVERHEAD + target.encodedLen + payload.length +
    sealing.paddingBound

/-- The padding of a frame is bounded. -/
theorem Sealing.length_padding_le
    (sealing : Sealing)
    (draw : Draw sealing.maxPaddingLen.toNat)
    (target : TargetAddr)
    (payload : Bytes) :
    (sealing.frame draw target payload).padding.length ≤
      sealing.paddingBound := by
  unfold Sealing.frame Sealing.paddingBound
  split_ifs
  · exact draw.padding.property.trans (Nat.min_le_left _ _)
  · exact Nat.zero_le _

/-- A sealed frame has a length that its address and payload allow. -/
theorem Sealing.shows_of_sealFrame
    {sealing : Sealing}
    (lawful : sealing.cipher.aead.Lawful)
    {draw : Draw sealing.maxPaddingLen.toNat}
    {target : TargetAddr}
    (wire : target.IsWire)
    {payload encrypted : Bytes}
    (fits : payload.length ≤ READ_BUF_LEN)
    (sealed : sealing.sealFrame draw target payload = .ok encrypted) :
    sealing.Shows target encrypted.length payload := by
  have encoded := GhostFrame.encode_of_isWire
    (sealing.frame_isWire draw wire fits)
  rw [Sealing.sealFrame, encoded] at sealed
  simp only at sealed
  split at sealed
  · cases sealed
  · rename_i blob encrypted
    obtain rfl := Except.ok.inj sealed
    have length := GhostCipher.length_of_encrypt lawful encrypted
    rw [GhostFrame.length_wireBytes, sealing.frame_target,
      sealing.frame_payload] at length
    have bound := sealing.length_padding_le draw target payload
    constructor
    · rw [length]
      unfold SEALED_OVERHEAD
      omega
    · rw [length]
      unfold SEALED_OVERHEAD
      omega

/-- The lengths in the bytes sent for successive chunks are those of the
chunks. -/
theorem forall₂_shows_sentBytes
    {sealing : Sealing}
    (lawful : sealing.cipher.aead.Lawful)
    (draws : sealing.Draws)
    (index : Nat)
    {chunks : List Bytes}
    (fit : ∀ chunk ∈ chunks, chunk.length ≤ READ_BUF_LEN) :
    List.Forall₂ (sealing.Shows .none)
      (frameLengths (sentBytes sealing draws index chunks)) chunks := by
  induction chunks generalizing index with
  | nil =>
      rw [sentBytes,
        frameLengths_of_length_lt_two (show ([] : Bytes).length < 2 by decide)]
      exact .nil
  | cons chunk chunks inductionHypothesis =>
      have chunkFits := fit chunk List.mem_cons_self
      obtain ⟨encrypted, sealed, short, -⟩ := sealing.sealFrame_spec lawful
        (draws index) (show TargetAddr.IsWire .none from trivial) chunkFits
      rw [sentBytes, sealed]
      simp only
      rw [frameLengths_frameBytes short]
      exact .cons (Sealing.shows_of_sealFrame lawful
        (show TargetAddr.IsWire .none from trivial) chunkFits sealed)
        (inductionHypothesis (index + 1) fun other member =>
          fit other (List.mem_cons_of_mem chunk member))

/-- What the wire shows of the reads of a sending loop, given what they have
returned: the lengths on it are those of the successive reads, in their order
and without a gap, where the frame of the last read may still be missing, and
is there when the loop reads again. -/
structure Outlined
    (sealing : Sealing)
    (input : Bytes)
    (state : TaskState SendPoint)
    (chunks shown : List Bytes) : Prop where
  read : chunks.flatten ++ state.unread = input
  last : shown = chunks ∨ shown = chunks.dropLast
  lengths : List.Forall₂ (sealing.Shows .none) (frameLengths state.written)
    shown
  all : ∀ index, state.point = .read index → shown = chunks

/-- A front of a list that reaches to its last entry is all of it or all but
its last entry. -/
theorem take_eq_or_eq_dropLast
    {Entry : Type}
    {entries : List Entry}
    {count : Nat}
    (least : entries.length - 1 ≤ count) :
    entries.take count = entries ∨ entries.take count = entries.dropLast := by
  rcases Nat.lt_or_ge count entries.length with short | long
  · have equal : count = entries.length - 1 := by omega
    rw [equal, ← List.dropLast_eq_take]
    exact .inr rfl
  · exact .inl (List.take_of_length_le long)

/-- The bytes written for some chunks show the lengths of all of them, or of
all but the last. -/
theorem Sent.exists_shown
    {sealing : Sealing}
    (lawful : sealing.cipher.aead.Lawful)
    {draws : sealing.Draws}
    {input : Bytes}
    {lossless : Prop}
    {state : TaskState SendPoint}
    {chunks : List Bytes}
    (sent : Sent sealing draws input lossless state chunks) :
    ∃ shown, (shown = chunks ∨ shown = chunks.dropLast) ∧
      List.Forall₂ (sealing.Shows .none) (frameLengths state.written)
        shown := by
  have whole := forall₂_shows_sentBytes lawful draws 0 sent.fit
  have before := forall₂_shows_sentBytes lawful draws 0
    fun chunk member => sent.fit chunk (List.mem_of_mem_dropLast member)
  have front := frameLengths_mono sent.written
  have taken := List.forall₂_take (frameLengths state.written).length whole
  rw [← List.prefix_iff_eq_take.mp front] at taken
  refine ⟨_, take_eq_or_eq_dropLast ?_, taken⟩
  have least := (frameLengths_mono sent.behind).length_le
  rw [before.length_eq, List.length_dropLast] at least
  exact least

/-- In every run of a sending loop the wire shows its reads. -/
theorem outlined_of_run
    {sealing : Sealing}
    (lawful : sealing.cipher.aead.Lawful)
    {draws : sealing.Draws}
    {input : Bytes}
    {closed : Bool}
    {events : List Event}
    {state : TaskState SendPoint}
    (reached : Run.run (step (sendLoop sealing draws))
      (TaskState.start (.read 0) input closed) events = some state) :
    ∃ shown, Outlined sealing input state
      (reads (sendLoop sealing draws) (TaskState.start (.read 0) input closed)
        events) shown := by
  have sent := sent_of_run lawful reached
  by_cases again : ∃ index, state.point = .read index
  · obtain ⟨index, point⟩ := again
    have lengths := forall₂_shows_sentBytes lawful draws 0 sent.fit
    have exact := sent.exact (.inl (by
      rw [point]
      exact SendPoint.noConfusion))
    rw [point] at exact
    simp only [sendPending, List.append_nil] at exact
    rw [← exact] at lengths
    exact ⟨_, {
      read := sent.input
      last := .inl rfl
      lengths
      all := fun _ _ => rfl }⟩
  · obtain ⟨shown, last, lengths⟩ := sent.exists_shown lawful
    exact ⟨shown, {
      read := sent.input
      last
      lengths
      all := fun index point => absurd ⟨index, point⟩ again }⟩

end Relay
end GhostProtocol
