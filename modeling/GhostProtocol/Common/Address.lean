import GhostProtocol.Foundation.Decoder
import GhostProtocol.Foundation.Text

/-!
# Target addresses

The address of a target host, with its encoding inside a frame: one type byte,
the address and a big-endian port.  Encoding writes into a buffer and keeps
what it wrote when it fails; decoding checks the length of the buffer before
every read.
-/

namespace GhostProtocol
namespace Common

open Foundation

/-! ## Protocol constants -/

/-- Version of the protocol. -/
def PROTOCOL_VERSION : UInt8 := 0x01

/-- Bytes of a user id. -/
def USER_ID_LEN : Nat := 16

/-- Largest payload of a frame, as the protocol announces it. -/
def MAX_FRAME_SIZE : Nat := 64 * 1024

/-- Largest padding of a frame. -/
def MAX_PADDING_LEN : Nat := 255

/-- Address type of an IPv4 address. -/
def ADDR_TYPE_IPV4 : UInt8 := 0x01

/-- Address type of a domain name. -/
def ADDR_TYPE_DOMAIN : UInt8 := 0x03

/-- Address type of an IPv6 address. -/
def ADDR_TYPE_IPV6 : UInt8 := 0x04

/-- Address type of a frame that carries no address. -/
def ADDR_TYPE_NONE : UInt8 := 0x00

/-- A user id. -/
abbrev UserId := Block USER_ID_LEN

/-- Errors of the frame and address codecs. -/
inductive ProtocolError
  | invalidVersion (expected got : UInt8)
  | invalidAddrType (addrType : UInt8)
  | bufferUnderflow (need available : Nat)
  | invalidDomainLength (length : Nat)
  deriving DecidableEq, Repr

/-- The text of an error. -/
def ProtocolError.message : ProtocolError → String
  | .invalidVersion expected got =>
      "invalid protocol version: expected " ++ toString expected.toNat ++
        ", got " ++ toString got.toNat
  | .invalidAddrType addrType =>
      "invalid address type: 0x" ++ String.ofList (Text.hexByte addrType)
  | .bufferUnderflow need available =>
      "buffer underflow: need " ++ toString need ++ " bytes, have " ++
        toString available
  | .invalidDomainLength length =>
      "invalid domain length: " ++ toString length

/-! ## Socket addresses -/

/-- An IPv4 address with a port. -/
structure SocketAddrV4 where
  ip : Block 4
  port : UInt16
  deriving DecidableEq

/-- An IPv6 address with a port, a flow label and a scope. -/
structure SocketAddrV6 where
  ip : Block 16
  port : UInt16
  flowinfo : UInt32
  scopeId : UInt32
  deriving DecidableEq

/-- The address of one end of a TCP connection. -/
inductive SocketAddr
  | v4 (address : SocketAddrV4)
  | v6 (address : SocketAddrV6)
  deriving DecidableEq

/-- The address of a target host. -/
inductive TargetAddr
  | none
  | ipV4 (address : SocketAddrV4)
  | ipV6 (address : SocketAddrV6)
  | domain (name : String) (port : UInt16)
  deriving DecidableEq

namespace TargetAddr

/-- Append the encoding to the buffer.  An overlong domain is noticed only
after its type byte has been written. -/
def encode
    (target : TargetAddr)
    (buf : Bytes) : Except ProtocolError Unit × Bytes :=
  match target with
  | .none => (.ok (), buf ++ [ADDR_TYPE_NONE])
  | .ipV4 address =>
      (.ok (), buf ++ [ADDR_TYPE_IPV4] ++ address.ip.toList ++
        u16Be address.port)
  | .ipV6 address =>
      (.ok (), buf ++ [ADDR_TYPE_IPV6] ++ address.ip.toList ++
        u16Be address.port)
  | .domain name port =>
      let buf := buf ++ [ADDR_TYPE_DOMAIN]
      let domainBytes := Text.utf8Bytes name
      if domainBytes.length > 255 then
        (.error (.invalidDomainLength domainBytes.length), buf)
      else
        (.ok (), buf ++ [UInt8.ofNat domainBytes.length] ++ domainBytes ++
          u16Be port)

/-- Take an address from the front of the buffer. -/
def decode : Decoder ProtocolError TargetAddr := do
  let available ← Decoder.remaining
  if available < 1 then
    Decoder.failWith (.bufferUnderflow 1 0)
  else
    let addrType ← Decoder.getU8
    if addrType = ADDR_TYPE_NONE then
      return .none
    else if addrType = ADDR_TYPE_IPV4 then
      let available ← Decoder.remaining
      if available < 4 + 2 then
        Decoder.failWith (.bufferUnderflow 6 available)
      else
        let octets ← Decoder.copyToBlock 4
        let port ← Decoder.getU16
        return .ipV4 { ip := octets, port }
    else if addrType = ADDR_TYPE_IPV6 then
      let available ← Decoder.remaining
      if available < 16 + 2 then
        Decoder.failWith (.bufferUnderflow 18 available)
      else
        let octets ← Decoder.copyToBlock 16
        let port ← Decoder.getU16
        return .ipV6 { ip := octets, port, flowinfo := 0, scopeId := 0 }
    else if addrType = ADDR_TYPE_DOMAIN then
      let available ← Decoder.remaining
      if available < 1 then
        Decoder.failWith (.bufferUnderflow 1 0)
      else
        let length ← Decoder.getU8
        let domainLen := length.toNat
        if domainLen = 0 then
          Decoder.failWith (.invalidDomainLength 0)
        else
          let available ← Decoder.remaining
          if available < domainLen + 2 then
            Decoder.failWith (.bufferUnderflow (domainLen + 2) available)
          else
            let domainBytes ← Decoder.copyToBytes domainLen
            match Text.fromUtf8 domainBytes with
            | Option.none =>
                Decoder.failWith (.invalidDomainLength domainLen)
            | some name =>
                let port ← Decoder.getU16
                return .domain name port
    else
      Decoder.failWith (.invalidAddrType addrType)

/-- Announced length of the encoding. -/
def encodedLen : TargetAddr → Nat
  | .none => 1
  | .ipV4 _ => 1 + 4 + 2
  | .ipV6 _ => 1 + 16 + 2
  | .domain name _ => 1 + 1 + (Text.utf8Bytes name).length + 2

/-- The addresses that survive a round trip: an IPv6 address has neither flow
label nor scope, and a domain has between one and 255 bytes. -/
def IsWire : TargetAddr → Prop
  | .none => True
  | .ipV4 _ => True
  | .ipV6 address => address.flowinfo = 0 ∧ address.scopeId = 0
  | .domain name _ =>
      0 < (Text.utf8Bytes name).length ∧ (Text.utf8Bytes name).length ≤ 255

instance (target : TargetAddr) : Decidable target.IsWire := by
  cases target <;> unfold IsWire <;> infer_instance

/-- The bytes encoding appends for a wire address. -/
def wireBytes : TargetAddr → Bytes
  | .none => [ADDR_TYPE_NONE]
  | .ipV4 address =>
      [ADDR_TYPE_IPV4] ++ (address.ip.toList ++ u16Be address.port)
  | .ipV6 address =>
      [ADDR_TYPE_IPV6] ++ (address.ip.toList ++ u16Be address.port)
  | .domain name port =>
      [ADDR_TYPE_DOMAIN, UInt8.ofNat (Text.utf8Bytes name).length] ++
        (Text.utf8Bytes name ++ u16Be port)

/-- The addresses whose length fits its field: only a domain can be too long. -/
def LengthFits : TargetAddr → Prop
  | .domain name _ => (Text.utf8Bytes name).length ≤ 255
  | _ => True

theorem IsWire.lengthFits
    {target : TargetAddr}
    (wire : target.IsWire) :
    target.LengthFits := by
  cases target with
  | domain name port => exact wire.2
  | _ => trivial

/-- Encoding an address whose length fits succeeds and appends exactly its
bytes. -/
theorem encode_of_lengthFits
    {target : TargetAddr}
    (fits : target.LengthFits)
    (buf : Bytes) :
    target.encode buf = (.ok (), buf ++ target.wireBytes) := by
  cases target with
  | none => rfl
  | ipV4 address => simp [encode, wireBytes]
  | ipV6 address => simp [encode, wireBytes]
  | domain name port =>
      have short : ¬(Text.utf8Bytes name).length > 255 := Nat.not_lt.mpr fits
      simp [encode, wireBytes, short]

/-- Encoding a wire address succeeds and appends exactly its bytes. -/
theorem encode_of_isWire
    {target : TargetAddr}
    (wire : target.IsWire)
    (buf : Bytes) :
    target.encode buf = (.ok (), buf ++ target.wireBytes) :=
  encode_of_lengthFits wire.lengthFits buf

/-- Encoding an overlong domain fails behind its type byte. -/
theorem encode_of_overlong
    {name : String}
    (overlong : 255 < (Text.utf8Bytes name).length)
    (port : UInt16)
    (buf : Bytes) :
    (domain name port).encode buf =
      (.error (.invalidDomainLength (Text.utf8Bytes name).length),
        buf ++ [ADDR_TYPE_DOMAIN]) :=
  if_pos overlong

/-- The announced length is the encoded length. -/
theorem length_wireBytes (target : TargetAddr) :
    target.wireBytes.length = target.encodedLen := by
  cases target with
  | none => rfl
  | ipV4 address => simp [wireBytes, encodedLen]
  | ipV6 address => simp [wireBytes, encodedLen]
  | domain name port =>
      simp [wireBytes, encodedLen]
      omega

/-- Encoding succeeds and appends as many bytes as announced, or it fails and
leaves the buffer as it was. -/
structure EncodesAtomically (target : TargetAddr) (buf : Bytes) : Prop where
  appends : (target.encode buf).1 = .ok () →
    ∃ bytes, (target.encode buf).2 = buf ++ bytes ∧
      bytes.length = target.encodedLen
  restores : ∀ error, (target.encode buf).1 = .error error →
    (target.encode buf).2 = buf

/-- Encoding is atomic exactly for the addresses that it does not refuse: it
refuses a domain only after the type byte has been written. -/
theorem encodesAtomically_iff (target : TargetAddr) (buf : Bytes) :
    target.EncodesAtomically buf ↔ target.LengthFits := by
  constructor
  · intro atomic
    cases target with
    | domain name port =>
        rw [LengthFits, ← Nat.not_lt]
        intro overlong
        have encoded := encode_of_overlong overlong port buf
        have restored := atomic.restores _ (congrArg Prod.fst encoded)
        rw [encoded] at restored
        exact List.cons_ne_nil _ _ (List.append_right_eq_self.mp restored)
    | _ => trivial
  · intro fits
    have encoded := encode_of_lengthFits fits buf
    constructor
    · intro _
      rw [encoded]
      exact ⟨target.wireBytes, rfl, target.length_wireBytes⟩
    · intro error failed
      rw [encoded] at failed
      cases failed

/-- A domain of 256 characters leaves its type byte in the buffer. -/
theorem not_encodesAtomically_of_overlong :
    ¬(domain (String.ofList (List.replicate 256 'a')) 443).EncodesAtomically
      [] := by
  intro atomic
  have overlong :
      255 < (Text.utf8Bytes (String.ofList (List.replicate 256 'a'))).length := by
    have ascii : ∀ char ∈ List.replicate 256 'a', Text.IsAscii char := by
      intro char member
      rw [List.eq_of_mem_replicate member]
      decide
    rw [Text.utf8Bytes, String.toList_ofList, Text.charBytes_of_ascii ascii,
      List.length_map, List.length_replicate]
    decide
  have encoded := encode_of_overlong overlong 443 []
  have restored := atomic.restores _ (congrArg Prod.fst encoded)
  rw [encoded] at restored
  cases restored

/-- Decoding reads a wire address back and leaves what follows it. -/
theorem decode_wireBytes
    {target : TargetAddr}
    (wire : target.IsWire)
    (rest : Bytes) :
    decode (target.wireBytes ++ rest) = .ok (target, rest) := by
  cases target with
  | none => rfl
  | ipV4 address =>
      have enough : ¬4 + (2 + rest.length) < 6 := by omega
      simp [decode, wireBytes, Decoder.run_bind, Decoder.run_map,
        ADDR_TYPE_IPV4, ADDR_TYPE_NONE, enough]
  | ipV6 address =>
      obtain ⟨ip, port, flowinfo, scopeId⟩ := address
      obtain ⟨rfl, rfl⟩ : flowinfo = 0 ∧ scopeId = 0 := wire
      have enough : ¬16 + (2 + rest.length) < 18 := by omega
      simp [decode, wireBytes, Decoder.run_bind, Decoder.run_map,
        ADDR_TYPE_IPV4, ADDR_TYPE_NONE, ADDR_TYPE_IPV6, enough]
  | domain name port =>
      have lengthByte :
          (UInt8.ofNat (Text.utf8Bytes name).length).toNat =
            (Text.utf8Bytes name).length := by
        rw [UInt8.toNat_ofNat']
        exact Nat.mod_eq_of_lt (Nat.lt_succ_of_le wire.2)
      have nonempty : (Text.utf8Bytes name).length ≠ 0 :=
        Nat.ne_of_gt wire.1
      have enough : ¬2 + rest.length < 2 := by omega
      simp [decode, wireBytes, Decoder.run_bind, Decoder.run_map,
        ADDR_TYPE_IPV4, ADDR_TYPE_NONE, ADDR_TYPE_IPV6, ADDR_TYPE_DOMAIN,
        lengthByte, nonempty, enough]

/-- The address octets and the port taken were in front. -/
theorem run_octets_port_eq_ok
    {size : Nat}
    {build : Block size → UInt16 → TargetAddr}
    {buffer rest : Bytes}
    {target : TargetAddr}
    (decoded :
      (Decoder.copyToBlock size >>= fun octets =>
        Decoder.getU16 >>= fun port =>
          (pure (build octets port) : Decoder ProtocolError TargetAddr))
        buffer = .ok (target, rest)) :
    ∃ octets port, target = build octets port ∧
      buffer = octets.toList ++ (u16Be port ++ rest) := by
  rw [Decoder.run_bind_eq_ok] at decoded
  obtain ⟨octets, afterOctets, taken, decoded⟩ := decoded
  rw [Decoder.copyToBlock_eq_ok] at taken
  rw [Decoder.run_bind_eq_ok] at decoded
  obtain ⟨port, afterPort, ported, decoded⟩ := decoded
  rw [Decoder.getU16_eq_ok] at ported
  obtain ⟨rfl, rfl⟩ := Prod.mk.inj (Except.ok.inj decoded)
  exact ⟨octets, port, rfl, by rw [taken, ported]⟩

/-- Decoding accepts an address in its wire form only, and leaves what follows
it. -/
theorem decode_eq_ok
    {buffer rest : Bytes}
    {target : TargetAddr} :
    decode buffer = .ok (target, rest) ↔
      target.IsWire ∧ buffer = target.wireBytes ++ rest := by
  constructor
  · intro decoded
    rw [decode, Decoder.run_require_eq_ok] at decoded
    obtain ⟨-, decoded⟩ := decoded
    rw [Decoder.run_bind_eq_ok] at decoded
    obtain ⟨addrType, afterType, typed, decoded⟩ := decoded
    rw [Decoder.getU8_eq_ok] at typed
    subst typed
    split_ifs at decoded with isNone isIpV4 isIpV6 isDomain
    · subst isNone
      obtain ⟨rfl, rfl⟩ := Prod.mk.inj (Except.ok.inj decoded)
      exact ⟨trivial, rfl⟩
    · subst isIpV4
      rw [Decoder.run_require_eq_ok] at decoded
      obtain ⟨-, decoded⟩ := decoded
      obtain ⟨octets, port, rfl, rfl⟩ := run_octets_port_eq_ok decoded
      refine ⟨trivial, ?_⟩
      rw [wireBytes]
      simp only [List.append_assoc, List.cons_append, List.nil_append]
    · subst isIpV6
      rw [Decoder.run_require_eq_ok] at decoded
      obtain ⟨-, decoded⟩ := decoded
      obtain ⟨octets, port, rfl, rfl⟩ := run_octets_port_eq_ok decoded
      refine ⟨⟨rfl, rfl⟩, ?_⟩
      rw [wireBytes]
      simp only [List.append_assoc, List.cons_append, List.nil_append]
    · subst isDomain
      rw [Decoder.run_require_eq_ok] at decoded
      obtain ⟨-, decoded⟩ := decoded
      rw [Decoder.run_bind_eq_ok] at decoded
      obtain ⟨length, afterLength, measured, decoded⟩ := decoded
      rw [Decoder.getU8_eq_ok] at measured
      split_ifs at decoded with empty
      · cases decoded
      rw [Decoder.run_require_eq_ok] at decoded
      obtain ⟨-, decoded⟩ := decoded
      rw [Decoder.run_bind_eq_ok] at decoded
      obtain ⟨domainBytes, afterDomain, taken, decoded⟩ := decoded
      rw [Decoder.copyToBytes_eq_ok] at taken
      obtain ⟨domainLen, taken⟩ := taken
      cases text : Text.fromUtf8 domainBytes with
      | none =>
          rw [text] at decoded
          cases decoded
      | some name =>
          rw [text] at decoded
          simp only at decoded
          rw [Decoder.run_bind_eq_ok] at decoded
          obtain ⟨port, afterPort, ported, decoded⟩ := decoded
          rw [Decoder.getU16_eq_ok] at ported
          obtain ⟨rfl, rfl⟩ := Prod.mk.inj (Except.ok.inj decoded)
          have nameBytes := Text.utf8Bytes_of_fromUtf8 text
          have small := length.toNat_lt
          constructor
          · rw [IsWire, nameBytes]
            omega
          · rw [measured, taken, ported, wireBytes, nameBytes, domainLen,
              UInt8.ofNat_toNat]
            simp only [List.append_assoc, List.cons_append, List.nil_append]
    · cases decoded
  · rintro ⟨wire, rfl⟩
    exact decode_wireBytes wire rest

/-- Decoding an address does not panic. -/
theorem decode_safe : Decoder.Safe 0 decode := by
  refine Decoder.safe_require (Decoder.safe_getU8 fun addrType => ?_)
  split_ifs
  · exact Decoder.safe_pure _
  · exact Decoder.safe_require (Decoder.safe_copyToBlock fun octets =>
      Decoder.safe_getU16 fun port => Decoder.safe_pure _)
  · exact Decoder.safe_require (Decoder.safe_copyToBlock fun octets =>
      Decoder.safe_getU16 fun port => Decoder.safe_pure _)
  · refine Decoder.safe_require (Decoder.safe_getU8 fun length => ?_)
    simp only
    split_ifs
    · exact Decoder.safe_failWith _
    · refine Decoder.safe_require
        (Decoder.safe_copyToBytes fun domainBytes => ?_)
      cases Text.fromUtf8 domainBytes with
      | none => exact (Decoder.safe_failWith _).mono (Nat.zero_le _)
      | some name => exact Decoder.safe_getU16 fun port => Decoder.safe_pure _
  · exact Decoder.safe_failWith _

end TargetAddr
end Common
end GhostProtocol
