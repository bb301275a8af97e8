import GhostProtocol.Common.Address

/-!
# Frames

A frame carries a user id, a target address, a payload and padding:
version, id, address, two-byte payload length, payload, one-byte padding
length, padding.  Both lengths are cast to their wire width.  Decoding
tolerates missing padding and bytes after the frame.
-/

namespace GhostProtocol
namespace Common

open Foundation

/-- One frame before encryption. -/
structure GhostFrame where
  version : UInt8
  userId : UserId
  target : TargetAddr
  payload : Bytes
  padding : Bytes
  deriving DecidableEq

/-- Padding bytes drawn for a frame whose padding is bounded by `maxLen`. -/
abbrev PaddingDraw (maxLen : Nat) :=
  { padding : Bytes // padding.length ≤ min maxLen MAX_PADDING_LEN }

namespace GhostFrame

/-- A frame of the current version without padding. -/
def new
    (userId : UserId)
    (target : TargetAddr)
    (payload : Bytes) : GhostFrame :=
  { version := PROTOCOL_VERSION, userId, target, payload, padding := [] }

/-- Replace the padding by the bytes drawn. -/
def withRandomPadding
    (frame : GhostFrame)
    (maxLen : Nat)
    (drawn : PaddingDraw maxLen) : GhostFrame :=
  { frame with padding := drawn.val }

/-- Encode a frame, or panic when the address cannot be encoded. -/
def encode (frame : GhostFrame) : Option Bytes :=
  let buf := [frame.version] ++ frame.userId.toList
  match frame.target.encode buf with
  | (.error _, _) => none
  | (.ok _, buf) =>
      some (buf ++ u16Be (UInt16.ofNat frame.payload.length) ++
        frame.payload ++ [UInt8.ofNat frame.padding.length] ++ frame.padding)

/-- Take a frame from the front of the buffer. -/
def decoder : Decoder ProtocolError GhostFrame := do
  let available ← Decoder.remaining
  if available < 1 then
    Decoder.failWith (.bufferUnderflow 1 0)
  else
    let version ← Decoder.getU8
    if version ≠ PROTOCOL_VERSION then
      Decoder.failWith (.invalidVersion PROTOCOL_VERSION version)
    else
      let available ← Decoder.remaining
      if available < USER_ID_LEN then
        Decoder.failWith (.bufferUnderflow USER_ID_LEN available)
      else
        let userId ← Decoder.copyToBlock USER_ID_LEN
        let target ← TargetAddr.decode
        let available ← Decoder.remaining
        if available < 2 then
          Decoder.failWith (.bufferUnderflow 2 available)
        else
          let payloadLen ← Decoder.getU16
          let available ← Decoder.remaining
          if available < payloadLen.toNat then
            Decoder.failWith (.bufferUnderflow payloadLen.toNat available)
          else
            let payload ← Decoder.copyToBytes payloadLen.toNat
            let available ← Decoder.remaining
            if available < 1 then
              Decoder.failWith (.bufferUnderflow 1 available)
            else
              let paddingLen ← Decoder.getU8
              let available ← Decoder.remaining
              if paddingLen.toNat > 0 ∧ available ≥ paddingLen.toNat then
                let padding ← Decoder.copyToBytes paddingLen.toNat
                return { version, userId, target, payload, padding }
              else
                return { version, userId, target, payload, padding := [] }

/-- Decode a frame, dropping what follows it. -/
def decode (buf : Bytes) : Outcome ProtocolError GhostFrame :=
  (decoder buf).map Prod.fst

/-- The frames that survive a round trip: the version is the current one, the
address is a wire address and both lengths fit their fields. -/
structure IsWire (frame : GhostFrame) : Prop where
  version : frame.version = PROTOCOL_VERSION
  target : frame.target.IsWire
  payload : frame.payload.length ≤ 65535
  padding : frame.padding.length ≤ MAX_PADDING_LEN

/-- The bytes of a frame. -/
def wireBytes (frame : GhostFrame) : Bytes :=
  frame.version :: (frame.userId.toList ++ (frame.target.wireBytes ++
    (u16Be (UInt16.ofNat frame.payload.length) ++ (frame.payload ++
      UInt8.ofNat frame.padding.length :: frame.padding))))

/-- A wire frame is encoded without a panic. -/
theorem encode_of_isWire
    {frame : GhostFrame}
    (wire : frame.IsWire) :
    frame.encode = some frame.wireBytes := by
  simp [encode, TargetAddr.encode_of_isWire wire.target, wireBytes]

/-- Length of an encoded frame. -/
theorem length_wireBytes (frame : GhostFrame) :
    frame.wireBytes.length =
      20 + frame.target.encodedLen + frame.payload.length +
        frame.padding.length := by
  have userIdLength : frame.userId.toList.length = 16 :=
    Block.length_toList frame.userId
  simp only [wireBytes, List.length_cons, List.length_append, userIdLength,
    TargetAddr.length_wireBytes, length_u16Be]
  omega

/-- The bytes of a frame in front of the length of its padding. -/
def headBytes (frame : GhostFrame) : Bytes :=
  frame.version :: (frame.userId.toList ++ (frame.target.wireBytes ++
    (u16Be (UInt16.ofNat frame.payload.length) ++ frame.payload)))

/-- A header in its wire form: the version is the current one, the address is a
wire address and the length of the payload fits its field. -/
structure HeadIsWire (frame : GhostFrame) : Prop where
  version : frame.version = PROTOCOL_VERSION
  target : frame.target.IsWire
  payload : frame.payload.length ≤ 65535

theorem IsWire.head
    {frame : GhostFrame}
    (wire : frame.IsWire) :
    frame.HeadIsWire :=
  ⟨wire.version, wire.target, wire.payload⟩

/-- The padding cut from what follows the padding length: as many bytes as it
says, or none when fewer are there. -/
def paddingOf (paddingLen : UInt8) (tail : Bytes) : Bytes :=
  if paddingLen.toNat ≤ tail.length then tail.take paddingLen.toNat else []

/-- What is left behind the padding. -/
def afterPadding (paddingLen : UInt8) (tail : Bytes) : Bytes :=
  if paddingLen.toNat ≤ tail.length then tail.drop paddingLen.toNat else tail

theorem wireBytes_eq (frame : GhostFrame) :
    frame.wireBytes =
      frame.headBytes ++ UInt8.ofNat frame.padding.length :: frame.padding := by
  simp only [wireBytes, headBytes, List.cons_append, List.append_assoc]

/-- Decoding reads a header back and cuts the padding from what follows it. -/
theorem decoder_headBytes
    {frame : GhostFrame}
    (wire : frame.HeadIsWire)
    (paddingLen : UInt8)
    (tail : Bytes) :
    decoder (frame.headBytes ++ paddingLen :: tail) =
      .ok ({ frame with padding := paddingOf paddingLen tail },
        afterPadding paddingLen tail) := by
  obtain ⟨version, userId, target, payload, padding⟩ := frame
  obtain ⟨rfl, targetWire, payloadFits⟩ := wire
  have payloadLength :
      (UInt16.ofNat payload.length).toNat = payload.length :=
    toNat_ofNat_length _ (Nat.lt_succ_of_le payloadFits)
  have bytes :
      headBytes ⟨PROTOCOL_VERSION, userId, target, payload, padding⟩ ++
          paddingLen :: tail =
        PROTOCOL_VERSION :: (userId.toList ++ (target.wireBytes ++
          (u16Be (UInt16.ofNat payload.length) ++ (payload ++
            paddingLen :: tail)))) := by
    simp only [headBytes, List.cons_append, List.append_assoc]
  have userIdLength : userId.toList.length = 16 := Block.length_toList userId
  rw [decoder, bytes, Decoder.run_require (Nat.le_add_left 1 _),
    Decoder.run_bind_ok (Decoder.run_getU8_cons _ _),
    if_neg (not_not_intro rfl)]
  rw [Decoder.run_require (by
      rw [List.length_append, userIdLength]
      exact Nat.le_add_right _ _),
    Decoder.run_bind_ok (Decoder.run_copyToBlock_append userId _),
    Decoder.run_bind_ok (TargetAddr.decode_wireBytes targetWire _)]
  rw [Decoder.run_require (by
      rw [List.length_append, length_u16Be]
      exact Nat.le_add_right _ _),
    Decoder.run_bind_ok (Decoder.run_getU16_u16Be _ _), payloadLength]
  rw [Decoder.run_require (by
      rw [List.length_append]
      exact Nat.le_add_right _ _),
    Decoder.run_bind_ok (Decoder.run_copyToBytes_append payload _),
    Decoder.run_require (Nat.le_add_left 1 _),
    Decoder.run_bind_ok (Decoder.run_getU8_cons _ _),
    Decoder.run_bind_ok (Decoder.run_remaining _)]
  by_cases present : paddingLen.toNat ≤ tail.length
  · rw [paddingOf, afterPadding, if_pos present, if_pos present]
    by_cases positive : paddingLen.toNat > 0
    · rw [if_pos ⟨positive, present⟩, Decoder.run_bind, Decoder.copyToBytes,
        if_pos present]
      rfl
    · rw [if_neg (fun bounds => positive bounds.1),
        Nat.eq_zero_of_not_pos positive]
      rfl
  · rw [paddingOf, afterPadding, if_neg present, if_neg present,
      if_neg (fun bounds => present bounds.2)]
    rfl

/-- Padding of the length announced is cut completely. -/
theorem paddingOf_append
    {paddingLen : UInt8}
    {padding : Bytes}
    (complete : padding.length = paddingLen.toNat)
    (rest : Bytes) :
    paddingOf paddingLen (padding ++ rest) = padding ∧
      afterPadding paddingLen (padding ++ rest) = rest := by
  have present : paddingLen.toNat ≤ (padding ++ rest).length := by
    rw [List.length_append]
    omega
  rw [paddingOf, afterPadding, if_pos present, if_pos present, ← complete]
  exact ⟨List.take_left, List.drop_left⟩

/-- Decoding reads an encoded wire frame back and leaves what follows it. -/
theorem decoder_wireBytes
    {frame : GhostFrame}
    (wire : frame.IsWire)
    (rest : Bytes) :
    decoder (frame.wireBytes ++ rest) = .ok (frame, rest) := by
  have paddingLength :
      (UInt8.ofNat frame.padding.length).toNat = frame.padding.length :=
    UInt8.toNat_ofNat_of_lt (Nat.lt_succ_of_le wire.padding)
  obtain ⟨cut, left⟩ := paddingOf_append paddingLength.symm rest
  rw [wireBytes_eq, List.append_assoc, List.cons_append,
    decoder_headBytes wire.head, cut, left]

/-- Decoding undoes encoding. -/
theorem decode_encode
    {frame : GhostFrame}
    (wire : frame.IsWire)
    {bytes : Bytes}
    (encoded : frame.encode = some bytes) :
    decode bytes = .ok frame := by
  rw [encode_of_isWire wire] at encoded
  obtain rfl := Option.some.inj encoded
  have decoded := decoder_wireBytes wire []
  rw [List.append_nil] at decoded
  rw [decode, decoded]
  rfl

/-- Decoding accepts a header in its wire form only, cuts the padding from what
follows the padding length and leaves the rest. -/
theorem decoder_eq_ok
    {buffer rest : Bytes}
    {frame : GhostFrame} :
    decoder buffer = .ok (frame, rest) ↔
      frame.HeadIsWire ∧ ∃ paddingLen tail,
        buffer = frame.headBytes ++ paddingLen :: tail ∧
          frame.padding = paddingOf paddingLen tail ∧
          rest = afterPadding paddingLen tail := by
  constructor
  · intro whole
    have decoded := whole
    rw [decoder, Decoder.run_require_eq_ok] at decoded
    obtain ⟨-, decoded⟩ := decoded
    rw [Decoder.run_bind_eq_ok] at decoded
    obtain ⟨version, afterVersion, versioned, decoded⟩ := decoded
    rw [Decoder.getU8_eq_ok] at versioned
    split_ifs at decoded with other
    · cases decoded
    have current : version = PROTOCOL_VERSION := not_not.mp other
    rw [Decoder.run_require_eq_ok] at decoded
    obtain ⟨-, decoded⟩ := decoded
    rw [Decoder.run_bind_eq_ok] at decoded
    obtain ⟨userId, afterId, identified, decoded⟩ := decoded
    rw [Decoder.copyToBlock_eq_ok] at identified
    rw [Decoder.run_bind_eq_ok] at decoded
    obtain ⟨target, afterTarget, addressed, decoded⟩ := decoded
    rw [TargetAddr.decode_eq_ok] at addressed
    obtain ⟨targetWire, addressed⟩ := addressed
    rw [Decoder.run_require_eq_ok] at decoded
    obtain ⟨-, decoded⟩ := decoded
    rw [Decoder.run_bind_eq_ok] at decoded
    obtain ⟨payloadLen, afterLen, measured, decoded⟩ := decoded
    rw [Decoder.getU16_eq_ok] at measured
    rw [Decoder.run_require_eq_ok] at decoded
    obtain ⟨-, decoded⟩ := decoded
    rw [Decoder.run_bind_eq_ok] at decoded
    obtain ⟨payload, afterPayload, loaded, decoded⟩ := decoded
    rw [Decoder.copyToBytes_eq_ok] at loaded
    obtain ⟨payloadLength, loaded⟩ := loaded
    rw [Decoder.run_require_eq_ok] at decoded
    obtain ⟨-, decoded⟩ := decoded
    rw [Decoder.run_bind_eq_ok] at decoded
    obtain ⟨paddingLen, tail, padded, -⟩ := decoded
    rw [Decoder.getU8_eq_ok] at padded
    have payloadFits : payload.length ≤ 65535 := by
      rw [payloadLength]
      exact Nat.le_of_lt_succ payloadLen.toNat_lt
    have wire : HeadIsWire ⟨version, userId, target, payload, []⟩ :=
      ⟨current, targetWire, payloadFits⟩
    have bytes : buffer =
        headBytes ⟨version, userId, target, payload, []⟩ ++
          paddingLen :: tail := by
      rw [versioned, identified, addressed, measured, loaded, padded, headBytes,
        payloadLength, UInt16.ofNat_toNat]
      simp only [List.append_assoc, List.cons_append]
    rw [bytes, decoder_headBytes wire] at whole
    obtain ⟨rfl, rfl⟩ := Prod.mk.inj (Except.ok.inj whole)
    exact ⟨⟨current, targetWire, payloadFits⟩, paddingLen, tail, bytes, rfl,
      rfl⟩
  · rintro ⟨wire, paddingLen, tail, rfl, padding, rfl⟩
    rw [decoder_headBytes wire, ← padding]

/-- What `decode` accepts. -/
theorem decode_eq_ok
    {buf : Bytes}
    {frame : GhostFrame} :
    decode buf = .ok frame ↔
      frame.HeadIsWire ∧ ∃ paddingLen tail,
        buf = frame.headBytes ++ paddingLen :: tail ∧
          frame.padding = paddingOf paddingLen tail := by
  constructor
  · intro decoded
    unfold decode at decoded
    cases result : decoder buf with
    | error fault =>
        rw [result] at decoded
        cases decoded
    | ok pair =>
        rw [result] at decoded
        obtain rfl := Except.ok.inj decoded
        obtain ⟨wire, paddingLen, tail, bytes, padding, -⟩ :=
          decoder_eq_ok.mp result
        exact ⟨wire, paddingLen, tail, bytes, padding⟩
  · rintro ⟨wire, paddingLen, tail, bytes, padding⟩
    have decoded := decoder_eq_ok.mpr
      ⟨wire, paddingLen, tail, bytes, padding, rfl⟩
    rw [decode, decoded]
    rfl

/-- Decoding a frame does not panic. -/
theorem decoder_safe : Decoder.Safe 0 decoder := by
  refine Decoder.safe_require (Decoder.safe_getU8 fun version => ?_)
  split_ifs
  · exact Decoder.safe_failWith _
  refine Decoder.safe_require (Decoder.safe_copyToBlock fun userId =>
    Decoder.safe_bind TargetAddr.decode_safe fun target => ?_)
  refine Decoder.safe_require (Decoder.safe_getU16 fun payloadLen => ?_)
  refine Decoder.safe_require (Decoder.safe_copyToBytes_last fun payload => ?_)
  refine Decoder.safe_require (Decoder.safe_getU8 fun paddingLen => ?_)
  intro buffer _
  rw [Decoder.run_bind_ok (Decoder.run_remaining buffer)]
  split_ifs with present
  · exact Decoder.safe_copyToBytes_last (fun padding => Decoder.safe_pure _)
      buffer present.2
  · exact Decoder.safe_pure _ buffer (Nat.zero_le _)

/-- Decoding returns a frame or an error. -/
theorem decode_ne_panic (buf : Bytes) : decode buf ≠ .error .panic := by
  intro panicked
  unfold decode at panicked
  cases result : decoder buf with
  | error fault =>
      rw [result] at panicked
      obtain rfl := Except.error.inj panicked
      exact decoder_safe buf (Nat.zero_le _) result
  | ok pair =>
      rw [result] at panicked
      cases panicked

/-- Only frames of the current version are accepted. -/
theorem version_of_decode
    {buf : Bytes}
    {frame : GhostFrame}
    (decoded : decode buf = .ok frame) :
    frame.version = PROTOCOL_VERSION :=
  (decode_eq_ok.mp decoded).1.version

end GhostFrame
end Common
end GhostProtocol
