import GhostProtocol.Common.Error

/-!
# The local SOCKS5 proxy

An application greets the proxy, which accepts the method without
authentication, and then asks for one connection.  The proxy answers success
at once and hands the requested address to the tunnel.
-/

namespace GhostProtocol
namespace Client

open Foundation Common

/-- Bytes of the buffer of the handshake. -/
def HANDSHAKE_BUF_LEN : Nat := 256

/-- Fill the first `count` bytes of the handshake buffer.  A slice beyond the
buffer panics. -/
def readInto (count : Nat) : Handler Stream Bytes :=
  if count > HANDSHAKE_BUF_LEN then Program.failWith .panic
  else onSocket (Stream.readExact count)

/-- Two hexadecimal digits with their base in front. -/
def hexLiteral (byte : UInt8) : String :=
  "0x" ++ String.ofList (Text.hexByte byte)

/-- A SOCKS5 reply with a bound address. -/
def socks5Reply (rep : UInt8) (bindAddr : TargetAddr) : Bytes :=
  let reply := [0x05, rep, 0x00]
  match bindAddr with
  | .none => reply ++ [0x01] ++ [0, 0, 0, 0] ++ u16Be 0
  | .ipV4 address =>
      reply ++ [0x01] ++ address.ip.toList ++ u16Be address.port
  | .ipV6 address =>
      reply ++ [0x04] ++ address.ip.toList ++ u16Be address.port
  | .domain name port =>
      reply ++ [0x03] ++ [UInt8.ofNat (Text.utf8Bytes name).length] ++
        Text.utf8Bytes name ++ u16Be port

/-- Read the requested address of the given type. -/
def readTarget (atyp : UInt8) : Handler Stream TargetAddr :=
  if atyp = 0x01 then do
    let buf ← readInto 6
    return .ipV4 { ip := Block.ofBytes 4 buf, port := u16FromBuffer (buf.drop 4) }
  else if atyp = 0x03 then do
    let buf ← readInto 1
    let domainLen := (buf.getD 0 0).toNat
    if domainLen = 0 ∨ domainLen > 255 then
      bail ("Invalid domain length: " ++ toString domainLen)
    else
      let buf ← readInto (domainLen + 2)
      match Text.fromUtf8 (buf.take domainLen) with
      | none =>
          Program.failWith (.error (.utf8 (buf.take domainLen)))
      | some domain =>
          return .domain domain (u16FromBuffer (buf.drop domainLen))
  else if atyp = 0x04 then do
    let buf ← readInto 18
    return .ipV6 {
      ip := Block.ofBytes 16 buf
      port := u16FromBuffer (buf.drop 16)
      flowinfo := 0
      scopeId := 0 }
  else
    bail ("Unsupported SOCKS5 address type: " ++ hexLiteral atyp)

/-- Serve one application up to the start of its tunnel, whose target is
returned. -/
def handleSocks5Client : Handler Stream TargetAddr := do
  let buf ← readInto 2
  let version := buf.getD 0 0
  let nmethods := (buf.getD 1 0).toNat
  if version ≠ 0x05 then
    bail ("Not a SOCKS5 connection (version=" ++ hexLiteral version ++ ")")
  else
    let methods ← (if nmethods > 0 then readInto nmethods else pure [])
    if ¬methods.any (· == 0x00) then do
      onSocket (Stream.writeAll [0x05, 0xFF])
      bail "Client doesn't support NO AUTH method"
    else
      onSocket (Stream.writeAll [0x05, 0x00])
      let buf ← readInto 4
      let version := buf.getD 0 0
      let cmd := buf.getD 1 0
      let atyp := buf.getD 3 0
      if version ≠ 0x05 then
        bail ("Invalid SOCKS5 version in request: " ++ hexLiteral version)
      else if cmd ≠ 0x01 then do
        onSocket (Stream.writeAll
          (socks5Reply 0x07 (.domain "0.0.0.0" 0)))
        bail ("Unsupported SOCKS5 command: " ++ hexLiteral cmd ++
          " (only CONNECT supported)")
      else
        let target ← readTarget atyp
        onSocket (Stream.writeAll
          (socks5Reply 0x00 (.ipV4 { ip := ⟨[0, 0, 0, 0], rfl⟩, port := 0 })))
        return target

end Client
end GhostProtocol
