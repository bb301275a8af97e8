import GhostProtocol.Common.Error

/-!
# The SOCKS5 client of the packet relay

The relay of a network interface reaches its targets through the local SOCKS5
proxy: it offers the method without authentication, sends one request, and
reads the reply.  A connection keeps the stream for the data that follows; an
association returns the address in the reply.
-/

namespace GhostProtocol
namespace Tun

open Foundation Common

/-- A byte as a hexadecimal literal without leading zeros. -/
def hexLiteral (byte : UInt8) : String :=
  "0x" ++ String.ofList (Nat.toDigits 16 byte.toNat)

/-- Append an address to a request. -/
def encodeAddr (addr : SocketAddr) (buf : Bytes) : Bytes :=
  match addr with
  | .v4 address => buf ++ [0x01] ++ address.ip.toList ++ u16Be address.port
  | .v6 address => buf ++ [0x04] ++ address.ip.toList ++ u16Be address.port

/-- Read an address and ignore it. -/
def skipSocks5Addr : Handler Stream Unit := do
  let buf ← onSocket (Stream.readExact 1)
  let atyp := buf.getD 0 0
  if atyp = 0x01 then do
    let _ ← onSocket (Stream.readExact 6)
    return ()
  else if atyp = 0x03 then do
    let len ← onSocket (Stream.readExact 1)
    let _ ← onSocket (Stream.readExact ((len.getD 0 0).toNat + 2))
    return ()
  else if atyp = 0x04 then do
    let _ ← onSocket (Stream.readExact 18)
    return ()
  else bail ("Unknown SOCKS5 ATYP: " ++ toString atyp.toNat)

/-- Read an IP address with its port. -/
def readSocks5Addr : Handler Stream SocketAddr := do
  let buf ← onSocket (Stream.readExact 1)
  let atyp := buf.getD 0 0
  if atyp = 0x01 then do
    let buf ← onSocket (Stream.readExact 6)
    return .v4 { ip := Block.ofBytes 4 buf, port := u16FromBuffer (buf.drop 4) }
  else if atyp = 0x04 then do
    let buf ← onSocket (Stream.readExact 18)
    return .v6 {
      ip := Block.ofBytes 16 buf
      port := u16FromBuffer (buf.drop 16)
      flowinfo := 0
      scopeId := 0 }
  else bail ("Unsupported SOCKS5 ATYP for UDP: " ++ toString atyp.toNat)

/-- Connect to a target through the proxy.  The stream is the connection to
the proxy, if it is `connected`, and is left with the data of the target. -/
def socks5Connect
    (connected : Except IoError Unit)
    (proxyAddr target : SocketAddr) : Handler Stream Unit := do
  liftOutcome (match connected with
    | .error error => .error (.error (.proxyContext proxyAddr (.io error)))
    | .ok result => .ok result)
  onSocket (Stream.writeAll [0x05, 0x01, 0x00])
  let buf ← onSocket (Stream.readExact 2)
  if buf.getD 0 0 ≠ 0x05 then
    bail ("SOCKS5 version mismatch: " ++ hexLiteral (buf.getD 0 0))
  else if buf.getD 1 0 ≠ 0x00 then
    bail ("SOCKS5 auth method not accepted: " ++ hexLiteral (buf.getD 1 0))
  else
    onSocket (Stream.writeAll (encodeAddr target [0x05, 0x01, 0x00]))
    let resp ← onSocket (Stream.readExact 4)
    if resp.getD 0 0 ≠ 0x05 then
      bail ("SOCKS5 reply version mismatch: " ++ hexLiteral (resp.getD 0 0))
    else if resp.getD 1 0 ≠ 0x00 then
      bail ("SOCKS5 CONNECT failed with code: " ++ hexLiteral (resp.getD 1 0))
    else skipSocks5Addr

/-- Ask the proxy for a UDP association, whose address is returned. -/
def socks5UdpAssociate
    (connected : Except IoError Unit) : Handler Stream SocketAddr := do
  liftIo connected
  onSocket (Stream.writeAll [0x05, 0x01, 0x00])
  let buf ← onSocket (Stream.readExact 2)
  if buf.getD 1 0 ≠ 0x00 then bail "SOCKS5 auth rejected"
  else
    onSocket (Stream.writeAll
      [0x05, 0x03, 0x00, 0x01, 0x00, 0x00, 0x00, 0x00, 0x00, 0x00])
    let resp ← onSocket (Stream.readExact 4)
    if resp.getD 1 0 ≠ 0x00 then
      bail ("SOCKS5 UDP ASSOCIATE failed: " ++ hexLiteral (resp.getD 1 0))
    else readSocks5Addr

/-! ## What a successful client has read -/

/-- A field that has been read stood in front of what is left. -/
theorem unread_of_exec_field
    {α : Type}
    {count : Nat}
    {value : Bytes → α}
    {stream next : Stream}
    {result : α}
    (ran : Program.exec (do
      let buf ← onSocket (Stream.readExact count)
      return value buf) stream = (.ok result, next)) :
    ∃ field, stream.unread = field ++ next.unread ∧ field.length = count := by
  obtain ⟨field, final, readField, done⟩ := Program.exec_bind_eq_ok.mp ran
  obtain ⟨-, rfl⟩ := Prod.mk.inj done
  exact ⟨field, unread_of_exec_readExact readField⟩

/-- A skipped address is one more type byte, and as many bytes as that type
says. -/
theorem skipSocks5Addr_eq_ok
    {stream next : Stream}
    (ran : skipSocks5Addr.exec stream = (.ok (), next)) :
    ∃ atyp address, stream.unread = atyp :: (address ++ next.unread) ∧
      ((atyp = 0x01 ∧ address.length = 6) ∨
        (atyp = 0x03 ∧ ∃ len name, address = len :: name ∧
          name.length = len.toNat + 2) ∨
        (atyp = 0x04 ∧ address.length = 18)) := by
  obtain ⟨buf, afterType, readType, ran⟩ := Program.exec_bind_eq_ok.mp ran
  obtain ⟨unread, one⟩ := unread_of_exec_readExact readType
  obtain ⟨atyp, rfl⟩ := List.length_eq_one_iff.mp one
  simp only [List.getD_cons_zero] at ran
  split_ifs at ran with ipv4 domain ipv6
  · obtain ⟨address, rest, length⟩ := unread_of_exec_field ran
    rw [rest] at unread
    exact ⟨atyp, address, unread, .inl ⟨ipv4, length⟩⟩
  · obtain ⟨lenBuf, afterLen, readLen, ran⟩ := Program.exec_bind_eq_ok.mp ran
    obtain ⟨afterType, one⟩ := unread_of_exec_readExact readLen
    obtain ⟨len, rfl⟩ := List.length_eq_one_iff.mp one
    obtain ⟨name, rest, length⟩ := unread_of_exec_field ran
    rw [afterType, rest] at unread
    exact ⟨atyp, len :: name, unread,
      .inr (.inl ⟨domain, len, name, rfl, length⟩)⟩
  · obtain ⟨address, rest, length⟩ := unread_of_exec_field ran
    rw [rest] at unread
    exact ⟨atyp, address, unread, .inr (.inr ⟨ipv6, length⟩)⟩
  · obtain ⟨failed, -⟩ := Prod.mk.inj ran
    cases failed

/-- An address that is read is one more type byte, and as many bytes as that
type says. -/
theorem readSocks5Addr_eq_ok
    {stream next : Stream}
    {result : SocketAddr}
    (ran : readSocks5Addr.exec stream = (.ok result, next)) :
    ∃ atyp address, stream.unread = atyp :: (address ++ next.unread) ∧
      ((atyp = 0x01 ∧ address.length = 6) ∨
        (atyp = 0x04 ∧ address.length = 18)) := by
  obtain ⟨buf, afterType, readType, ran⟩ := Program.exec_bind_eq_ok.mp ran
  obtain ⟨unread, one⟩ := unread_of_exec_readExact readType
  obtain ⟨atyp, rfl⟩ := List.length_eq_one_iff.mp one
  simp only [List.getD_cons_zero] at ran
  split_ifs at ran with ipv4 ipv6
  · obtain ⟨address, rest, length⟩ := unread_of_exec_field ran
    rw [rest] at unread
    exact ⟨atyp, address, unread, .inl ⟨ipv4, length⟩⟩
  · obtain ⟨address, rest, length⟩ := unread_of_exec_field ran
    rw [rest] at unread
    exact ⟨atyp, address, unread, .inr ⟨ipv6, length⟩⟩
  · obtain ⟨failed, -⟩ := Prod.mk.inj ran
    cases failed

end Tun
end GhostProtocol
