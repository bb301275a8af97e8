import GhostProtocol.Common.Frame

/-!
# The wire format

Within the limits of the format decoding undoes encoding.  Decoding accepts a
header in its wire form only, but tolerates missing padding and bytes after the
frame, so truncated padding goes unnoticed.  Encoding casts lengths to the
width of their fields, so a frame outside the limits is encoded as something
else unless its domain is too long.
-/

namespace GhostProtocol
namespace Common

open Foundation

namespace GhostFrame

/-! ## Round trips -/

/-- Decoding undoes encoding for every frame within the limits, and an address
is read back from in front of any bytes. -/
theorem wire_roundTrip :
    (∀ frame : GhostFrame, frame.IsWire →
      ∃ bytes, frame.encode = some bytes ∧ decode bytes = .ok frame) ∧
    ∀ target : TargetAddr, target.IsWire → ∀ buf rest,
      ∃ bytes, target.encode buf = (.ok (), buf ++ bytes) ∧
        TargetAddr.decode (bytes ++ rest) = .ok (target, rest) := by
  constructor
  · intro frame wire
    exact ⟨frame.wireBytes, encode_of_isWire wire,
      decode_encode wire (encode_of_isWire wire)⟩
  · intro target wire buf rest
    exact ⟨target.wireBytes, TargetAddr.encode_of_isWire wire buf,
      TargetAddr.decode_wireBytes wire rest⟩

/-- A frame without payload for no address, whose only padding byte is 7. -/
def paddedFrame : GhostFrame where
  version := PROTOCOL_VERSION
  userId := Block.ofBytes USER_ID_LEN []
  target := .none
  payload := []
  padding := [7]

theorem isWire_paddedFrame : paddedFrame.IsWire :=
  ⟨rfl, trivial, Nat.zero_le _, by decide⟩

/-- The padded frame is read back, and a domain between other bytes. -/
theorem wire_roundTrip_padded :
    (∃ bytes, paddedFrame.encode = some bytes ∧
        decode bytes = .ok paddedFrame) ∧
      ∃ bytes, (TargetAddr.domain "a" 80).encode [1] =
          (.ok (), [1] ++ bytes) ∧
        TargetAddr.decode (bytes ++ [2]) = .ok (.domain "a" 80, [2]) :=
  ⟨wire_roundTrip.1 paddedFrame isWire_paddedFrame,
    wire_roundTrip.2 (.domain "a" 80) (by decide) [1] [2]⟩

/-! ## What decoding accepts -/

/-- Padding cut from a tail is not longer than its length byte can say. -/
theorem length_paddingOf_le (paddingLen : UInt8) (tail : Bytes) :
    (paddingOf paddingLen tail).length ≤ MAX_PADDING_LEN := by
  have small := paddingLen.toNat_lt
  unfold paddingOf MAX_PADDING_LEN
  split_ifs with present
  · rw [List.length_take_of_le present]
    omega
  · exact Nat.zero_le _

/-- Whatever is accepted is within the limits of the format. -/
theorem isWire_of_decode
    {buf : Bytes}
    {frame : GhostFrame}
    (decoded : decode buf = .ok frame) :
    frame.IsWire := by
  obtain ⟨wire, paddingLen, tail, -, padding⟩ := decode_eq_ok.mp decoded
  refine ⟨wire.version, wire.target, wire.payload, ?_⟩
  rw [padding]
  exact length_paddingOf_le paddingLen tail

/-- A header in its wire form ends at one place only. -/
theorem headBytes_append_inj
    {first second : GhostFrame}
    (firstWire : first.HeadIsWire)
    (secondWire : second.HeadIsWire)
    {firstLen secondLen : UInt8}
    {firstTail secondTail : Bytes}
    (equal : first.headBytes ++ firstLen :: firstTail =
      second.headBytes ++ secondLen :: secondTail) :
    first.headBytes = second.headBytes := by
  have same := decoder_headBytes firstWire firstLen firstTail
  rw [equal, decoder_headBytes secondWire] at same
  have frames := (Prod.mk.inj (Except.ok.inj same)).1
  obtain ⟨versions, userIds, targets, payloads, -⟩ := GhostFrame.mk.inj frames
  rw [headBytes, headBytes, versions, userIds, targets, payloads]

/-- A frame cut before its padding is rejected. -/
theorem decode_take_of_lt
    {frame : GhostFrame}
    (wire : frame.HeadIsWire)
    (paddingLen : UInt8)
    (tail : Bytes)
    {count : Nat}
    (short : count ≤ frame.headBytes.length) :
    ∃ error, decode ((frame.headBytes ++ paddingLen :: tail).take count) =
      .error (.error error) := by
  cases result : decode
      ((frame.headBytes ++ paddingLen :: tail).take count) with
  | error fault =>
      cases fault with
      | error error => exact ⟨error, rfl⟩
      | panic => exact absurd result (decode_ne_panic _)
  | ok other =>
      obtain ⟨otherWire, otherLen, otherTail, bytes, -⟩ :=
        decode_eq_ok.mp result
      have whole : other.headBytes ++ otherLen :: (otherTail ++
          (frame.headBytes ++ paddingLen :: tail).drop count) =
            frame.headBytes ++ paddingLen :: tail := by
        rw [← List.cons_append, ← List.append_assoc, ← bytes,
          List.take_append_drop]
      have heads := headBytes_append_inj otherWire wire whole
      have lengths := congrArg List.length bytes
      rw [List.length_append, List.length_cons, heads] at lengths
      have upper := List.length_take_le count
        (frame.headBytes ++ paddingLen :: tail)
      omega

/-- A frame cut inside its padding is accepted without padding. -/
theorem decode_take_of_ge
    {frame : GhostFrame}
    (wire : frame.IsWire)
    {count : Nat}
    (inside : count < frame.padding.length) :
    decode (frame.headBytes ++
        UInt8.ofNat frame.padding.length :: frame.padding.take count) =
      .ok { frame with padding := [] } := by
  have paddingLength :
      (UInt8.ofNat frame.padding.length).toNat = frame.padding.length :=
    UInt8.toNat_ofNat_of_lt (Nat.lt_succ_of_le wire.padding)
  refine decode_eq_ok.mpr ⟨⟨wire.version, wire.target, wire.payload⟩,
    UInt8.ofNat frame.padding.length, frame.padding.take count, rfl, ?_⟩
  rw [paddingOf, paddingLength, List.length_take_of_le (Nat.le_of_lt inside),
    if_neg (Nat.not_le.mpr inside)]

/-- What is accepted is the encoding of the frame exactly when as many bytes
follow the padding length as it says. -/
theorem encode_eq_iff_of_decode
    {buf : Bytes}
    {frame : GhostFrame}
    (decoded : decode buf = .ok frame) :
    frame.encode = some buf ↔
      ∃ paddingLen tail, buf = frame.headBytes ++ paddingLen :: tail ∧
        tail.length = paddingLen.toNat := by
  have wire := isWire_of_decode decoded
  rw [encode_of_isWire wire, Option.some.injEq, wireBytes_eq]
  constructor
  · rintro rfl
    exact ⟨_, _, rfl, (UInt8.toNat_ofNat_of_lt
      (Nat.lt_succ_of_le wire.padding)).symm⟩
  · rintro ⟨paddingLen, tail, bytes, complete⟩
    obtain ⟨-, otherLen, otherTail, same, padding⟩ := decode_eq_ok.mp decoded
    rw [bytes] at same
    obtain ⟨rfl, rfl⟩ := List.cons.inj (List.append_cancel_left same)
    obtain ⟨cut, -⟩ := paddingOf_append complete []
    rw [List.append_nil] at cut
    rw [bytes, padding, cut, complete, UInt8.ofNat_toNat]

/-- Decoding accepts exactly a header in its wire form, the padding length and
any tail.  The result is encoded as the same bytes exactly when the tail is as
long as the padding length says; a frame cut before its padding is rejected,
one cut inside its padding loses the padding, and bytes after a frame are
dropped. -/
theorem decode_accepts_wire_format :
    (∀ buf frame, decode buf = .ok frame ↔
      frame.HeadIsWire ∧ ∃ paddingLen tail,
        buf = frame.headBytes ++ paddingLen :: tail ∧
          frame.padding = paddingOf paddingLen tail) ∧
    (∀ buf frame, decode buf = .ok frame →
      (frame.encode = some buf ↔
        ∃ paddingLen tail, buf = frame.headBytes ++ paddingLen :: tail ∧
          tail.length = paddingLen.toNat)) ∧
    ∀ frame : GhostFrame, frame.IsWire → ∀ bytes, frame.encode = some bytes →
      (∀ count, count < bytes.length - frame.padding.length →
        ∃ error, decode (bytes.take count) = .error (.error error)) ∧
      (∀ count, bytes.length - frame.padding.length ≤ count →
        count < bytes.length →
          decode (bytes.take count) = .ok { frame with padding := [] }) ∧
      ∀ extra, decode (bytes ++ extra) = .ok frame := by
  refine ⟨fun buf frame => decode_eq_ok,
    fun buf frame decoded => encode_eq_iff_of_decode decoded, ?_⟩
  intro frame wire bytes encoded
  rw [encode_of_isWire wire] at encoded
  obtain rfl := Option.some.inj encoded
  have length : frame.wireBytes.length =
      frame.headBytes.length + 1 + frame.padding.length := by
    rw [wireBytes_eq, List.length_append, List.length_cons]
    omega
  refine ⟨?_, ?_, ?_⟩
  · intro count short
    rw [wireBytes_eq]
    exact decode_take_of_lt wire.head _ _ (by omega)
  · intro count behindHead short
    have split : count = frame.headBytes.length +
        (count - frame.headBytes.length - 1 + 1) := by omega
    rw [wireBytes_eq, split, List.take_length_add_append, List.take_succ_cons]
    exact decode_take_of_ge wire (by omega)
  · intro extra
    rw [decode, decoder_wireBytes wire]
    rfl

/-- The padded frame followed by one more byte is still accepted. -/
theorem decode_accepts_padded :
    ∀ extra, decode (paddedFrame.wireBytes ++ extra) = .ok paddedFrame :=
  (decode_accepts_wire_format.2.2 paddedFrame isWire_paddedFrame
    paddedFrame.wireBytes (encode_of_isWire isWire_paddedFrame)).2.2

/-- A frame that loses its padding is accepted, but its bytes are no
encoding. -/
theorem decode_of_lost_padding :
    ∃ bytes, paddedFrame.encode = some (bytes ++ [7]) ∧
      decode bytes = .ok { paddedFrame with padding := [] } ∧
      { paddedFrame with padding := [] }.encode ≠ some bytes :=
  ⟨[1] ++ List.replicate 16 0 ++ [0, 0, 0, 1], by decide, by decide, by decide⟩

/-! ## Decoding returns -/

/-- The length of the payload that a buffer announces: the word behind the
version, the user id and the address. -/
def announcedPayloadLen (buf : Bytes) : Option UInt16 :=
  match TargetAddr.decode (buf.drop (1 + USER_ID_LEN)) with
  | .ok (_, high :: low :: _) => some (u16OfBe high low)
  | _ => none

/-- In front of a header in its wire form stands the length of its payload. -/
theorem announcedPayloadLen_headBytes
    {frame : GhostFrame}
    (wire : frame.HeadIsWire)
    (rest : Bytes) :
    announcedPayloadLen (frame.headBytes ++ rest) =
      some (UInt16.ofNat frame.payload.length) := by
  have front : (frame.version :: frame.userId.toList).length =
      1 + USER_ID_LEN := by
    rw [List.length_cons, Block.length_toList]
    rfl
  have bytes : frame.headBytes ++ rest =
      (frame.version :: frame.userId.toList) ++ (frame.target.wireBytes ++
        (u16Be (UInt16.ofNat frame.payload.length) ++
          (frame.payload ++ rest))) := by
    simp only [headBytes, List.cons_append, List.append_assoc]
  rw [announcedPayloadLen, bytes, ← front, List.drop_left,
    TargetAddr.decode_wireBytes wire.target]
  exact congrArg some (u16OfBe_u16Be _)

/-- Whatever the bytes, decoding an address or a frame returns, and the payload
of a frame has the length announced. -/
theorem decoders_return (buf : Bytes) :
    Outcome.Returns (TargetAddr.decode buf) ∧
      Outcome.Returns (decode buf) ∧
      ∀ frame, decode buf = .ok frame →
        ∃ announced, announcedPayloadLen buf = some announced ∧
          frame.payload.length = announced.toNat := by
  refine ⟨Outcome.returns_of_ne_panic
      (TargetAddr.decode_safe buf (Nat.zero_le _)),
    Outcome.returns_of_ne_panic (decode_ne_panic buf), ?_⟩
  intro frame decoded
  obtain ⟨wire, paddingLen, tail, rfl, -⟩ := decode_eq_ok.mp decoded
  exact ⟨_, announcedPayloadLen_headBytes wire _,
    (toNat_ofNat_length _ (Nat.lt_succ_of_le wire.payload)).symm⟩

/-- The padded frame with a payload of two bytes announces them. -/
theorem decoders_return_padded :
    ∃ announced,
      announcedPayloadLen { paddedFrame with payload := [8, 9] }.wireBytes =
        some announced ∧
      ([8, 9] : Bytes).length = announced.toNat := by
  have wire : { paddedFrame with payload := [8, 9] }.IsWire :=
    ⟨rfl, trivial, by decide, by decide⟩
  exact (decoders_return _).2.2 _ (decode_encode wire (encode_of_isWire wire))

/-! ## Frames outside the limits -/

/-- Whether a frame names a domain that is too long for its length byte. -/
def DomainTooLong (frame : GhostFrame) : Prop :=
  ∃ name port, frame.target = .domain name port ∧
    255 < (Text.utf8Bytes name).length

/-- Whether a frame names an empty domain. -/
def DomainEmpty (frame : GhostFrame) : Prop :=
  ∃ name port, frame.target = .domain name port ∧
    (Text.utf8Bytes name).length = 0

/-- Whether a frame is outside the limits of the wire format. -/
def OverLimit (frame : GhostFrame) : Prop :=
  65535 < frame.payload.length ∨ MAX_PADDING_LEN < frame.padding.length ∨
    frame.DomainEmpty ∨ frame.DomainTooLong

/-- What is read back of an encoding is the target, the payload and the padding
of the frame. -/
def ReadsBack (frame : GhostFrame) (bytes : Bytes) : Prop :=
  ∃ other, decode bytes = .ok other ∧ other.target = frame.target ∧
    other.payload = frame.payload ∧ other.padding = frame.padding

/-- Only the length of the domain is checked. -/
theorem encode_eq_none_iff (frame : GhostFrame) :
    frame.encode = none ↔ frame.DomainTooLong := by
  unfold encode DomainTooLong
  cases frame.target with
  | none => simp [TargetAddr.encode]
  | ipV4 address => simp [TargetAddr.encode]
  | ipV6 address => simp [TargetAddr.encode]
  | domain name port =>
      by_cases long : 255 < (Text.utf8Bytes name).length
      · simp [TargetAddr.encode, long]
      · simp [TargetAddr.encode, long]

/-- A frame of the wire format is within its limits. -/
theorem not_overLimit_of_isWire
    {frame : GhostFrame}
    (wire : frame.IsWire) :
    ¬frame.OverLimit := by
  have targetWire := wire.target
  have payloadFits := wire.payload
  have paddingFits := wire.padding
  rintro (long | long | ⟨name, port, named, empty⟩ | ⟨name, port, named, long⟩)
  · omega
  · omega
  · rw [named] at targetWire
    exact Nat.ne_of_gt targetWire.1 empty
  · rw [named] at targetWire
    exact Nat.not_le.mpr long targetWire.2

/-- A frame outside the limits fails to encode exactly when its domain is too
long.  In every other case bytes are emitted that are rejected, or read back
with another target, payload or padding. -/
theorem encode_of_overLimit
    (frame : GhostFrame)
    (outside : frame.OverLimit) :
    (frame.encode = none ↔ frame.DomainTooLong) ∧
      ((∀ bytes, frame.encode = some bytes → frame.ReadsBack bytes) ↔
        frame.DomainTooLong) := by
  refine ⟨encode_eq_none_iff frame, ?_, ?_⟩
  · intro readsBack
    rw [← encode_eq_none_iff]
    cases encoded : frame.encode with
    | none => rfl
    | some bytes =>
        obtain ⟨other, decoded, target, payload, padding⟩ :=
          readsBack bytes encoded
        refine absurd ?_ (not_overLimit_of_isWire (isWire_of_decode decoded))
        unfold OverLimit DomainEmpty DomainTooLong at outside ⊢
        rw [target, payload, padding]
        exact outside
  · intro tooLong bytes encoded
    rw [(encode_eq_none_iff frame).mpr tooLong] at encoded
    cases encoded

/-- An empty domain is encoded, and the bytes are rejected. -/
theorem encode_of_overLimit_empty_domain :
    ({ paddedFrame with target := .domain "" 80 }.encode = none ↔
        { paddedFrame with target := .domain "" 80 }.DomainTooLong) ∧
      ((∀ bytes, { paddedFrame with target := .domain "" 80 }.encode =
          some bytes → { paddedFrame with target := .domain "" 80 }.ReadsBack
            bytes) ↔
        { paddedFrame with target := .domain "" 80 }.DomainTooLong) :=
  encode_of_overLimit { paddedFrame with target := .domain "" 80 }
    (.inr (.inr (.inl ⟨"", 80, rfl, rfl⟩)))

/-- A frame whose payload has the given length, without target or padding. -/
def zeroPayloadFrame (length : Nat) : GhostFrame where
  version := PROTOCOL_VERSION
  userId := Block.ofBytes USER_ID_LEN []
  target := .none
  payload := List.replicate length 0
  padding := []

/-- A payload length that is cast to zero loses the payload. -/
theorem decode_of_wrapped_length
    {length : Nat}
    (wraps : UInt16.ofNat (length + 1) = 0) :
    ∃ bytes, (zeroPayloadFrame (length + 1)).encode = some bytes ∧
      decode bytes = .ok (zeroPayloadFrame 0) := by
  refine ⟨(zeroPayloadFrame 0).headBytes ++
    0 :: (List.replicate length 0 ++ [0]), ?_, ?_⟩
  · simp only [encode, zeroPayloadFrame, TargetAddr.encode, headBytes,
      TargetAddr.wireBytes, List.replicate_succ, List.replicate_zero,
      List.cons_append, List.nil_append, List.append_nil, List.append_assoc,
      List.length_nil]
    rw [List.length_cons, List.length_replicate, wraps]
    rfl
  · exact decode_eq_ok.mpr ⟨⟨rfl, trivial, Nat.zero_le _⟩, 0,
      List.replicate length 0 ++ [0], rfl, rfl⟩

/-- A payload of the largest frame size is encoded with the length zero, and
read back as an empty payload. -/
theorem encode_of_max_frame_size :
    (zeroPayloadFrame MAX_FRAME_SIZE).OverLimit ∧
      ∃ bytes, (zeroPayloadFrame MAX_FRAME_SIZE).encode = some bytes ∧
        decode bytes = .ok (zeroPayloadFrame 0) := by
  constructor
  · left
    rw [zeroPayloadFrame, List.length_replicate]
    decide
  · exact decode_of_wrapped_length (show UInt16.ofNat (65535 + 1) = 0 by decide)

end GhostFrame
end Common
end GhostProtocol
