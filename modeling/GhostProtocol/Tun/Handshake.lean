import GhostProtocol.Client.Handshake
import GhostProtocol.Relay.Send
import GhostProtocol.Tun.Socks5

/-!
# The packet relay and the local proxy

The packet relay asks the local proxy for a connection.  What it sends is in
the grammar of the proxy, which therefore reaches its tunnel with the address
that was asked for and leaves what follows to the tunnel.  The address also
survives the frame in which the tunnel passes it on.
-/

namespace GhostProtocol
namespace Tun

open Foundation Common Relay

/-! ## What the packet relay sends -/

/-- The greeting of the packet relay. -/
def connectGreeting : Bytes :=
  [0x05, 0x01, 0x00]

/-- The request of the packet relay. -/
def connectRequest (target : SocketAddr) : Bytes :=
  encodeAddr target [0x05, 0x01, 0x00]

/-- Connecting after the method has been selected. -/
def requestTarget (target : SocketAddr) : Handler Stream Unit := do
  onSocket (Stream.writeAll (connectRequest target))
  let resp ← onSocket (Stream.readExact 4)
  if resp.getD 0 0 ≠ 0x05 then
    bail ("SOCKS5 reply version mismatch: " ++ hexLiteral (resp.getD 0 0))
  else if resp.getD 1 0 ≠ 0x00 then
    bail ("SOCKS5 CONNECT failed with code: " ++ hexLiteral (resp.getD 1 0))
  else skipSocks5Addr

/-- Connecting after the greeting. -/
def awaitMethod (target : SocketAddr) : Handler Stream Unit := do
  let buf ← onSocket (Stream.readExact 2)
  if buf.getD 0 0 ≠ 0x05 then
    bail ("SOCKS5 version mismatch: " ++ hexLiteral (buf.getD 0 0))
  else if buf.getD 1 0 ≠ 0x00 then
    bail ("SOCKS5 auth method not accepted: " ++ hexLiteral (buf.getD 1 0))
  else requestTarget target

/-- On an open connection to the proxy, the relay greets first. -/
theorem exec_socks5Connect_greeting
    (proxyAddr target : SocketAddr)
    {stream : Stream}
    (accepts : stream.Accepts connectGreeting.length) :
    (socks5Connect (.ok ()) proxyAddr target).exec stream =
      (awaitMethod target).exec { stream with
        outgoing := stream.outgoing ++ connectGreeting } := by
  rcases exec_writeAll_cases connectGreeting stream with
    ⟨-, written⟩ | ⟨refused, -⟩
  · exact Program.exec_bind_of_ok written
  · exact absurd accepts refused

/-- Skipping an address leaves the written bytes alone. -/
theorem outgoing_skipSocks5Addr (stream : Stream) :
    (skipSocks5Addr.exec stream).2.outgoing = stream.outgoing := by
  rw [skipSocks5Addr,
    Program.observe_exec_bind Stream.outgoing fun buf stream => ?_]
  · exact outgoing_exec_readExact 1 stream
  simp only
  split_ifs
  · rw [Program.observe_exec_bind Stream.outgoing fun _ _ => rfl]
    exact outgoing_exec_readExact 6 stream
  · rw [Program.observe_exec_bind Stream.outgoing fun len stream => ?_]
    · exact outgoing_exec_readExact 1 stream
    · rw [Program.observe_exec_bind Stream.outgoing fun _ _ => rfl]
      exact outgoing_exec_readExact _ stream
  · rw [Program.observe_exec_bind Stream.outgoing fun _ _ => rfl]
    exact outgoing_exec_readExact 18 stream
  · rfl

/-- Before any answer, the relay has sent its greeting. -/
theorem outgoing_socks5Connect_greeting
    (proxyAddr target : SocketAddr)
    {stream : Stream}
    (accepts : stream.Accepts connectGreeting.length)
    (unanswered : stream.unread = []) :
    ((socks5Connect (.ok ()) proxyAddr target).exec stream).2.outgoing =
      stream.outgoing ++ connectGreeting := by
  rw [exec_socks5Connect_greeting proxyAddr target accepts, awaitMethod]
  rcases exec_readExact_cases 2 { stream with
      outgoing := stream.outgoing ++ connectGreeting } with
    ⟨enough, -⟩ | ⟨-, fails⟩
  · rw [show Stream.unread { stream with
      outgoing := stream.outgoing ++ connectGreeting } = [] from unanswered]
      at enough
    exact absurd enough (by decide)
  · exact fails.observe_bind Stream.outgoing (outgoing_exec_readExact 2 _)

/-- Once its method is selected, the relay also sends its request, whatever the
answer to that is. -/
theorem outgoing_socks5Connect_request
    (proxyAddr target : SocketAddr)
    {stream : Stream}
    (accepts : stream.Accepts
      (connectGreeting.length + (connectRequest target).length))
    {answer : Bytes}
    (selected : stream.unread = [0x05, 0x00] ++ answer) :
    ((socks5Connect (.ok ()) proxyAddr target).exec stream).2.outgoing =
      stream.outgoing ++ (connectGreeting ++ connectRequest target) := by
  rw [exec_socks5Connect_greeting proxyAddr target
    (accepts.mono (Nat.le_add_right _ _)), awaitMethod]
  obtain ⟨incoming, read, -⟩ := exec_readExact_append
    (show ([0x05, 0x00] : Bytes).length = 2 from rfl)
    (show Stream.unread { stream with
      outgoing := stream.outgoing ++ connectGreeting } = _ from selected)
  rw [Program.exec_bind_of_ok read, if_neg (by simp), if_neg (by simp),
    requestTarget]
  rcases exec_writeAll_cases (connectRequest target) { stream with
      incoming
      outgoing := stream.outgoing ++ connectGreeting } with
    ⟨-, requested⟩ | ⟨refused, -⟩
  swap
  · exact absurd (accepts.write incoming) refused
  rw [Program.exec_bind_of_ok requested,
    Program.observe_exec_bind Stream.outgoing fun resp stream => ?_]
  · rw [outgoing_exec_readExact]
    exact List.append_assoc _ _ _
  · split_ifs
    · rfl
    · rfl
    · exact outgoing_skipSocks5Addr stream

/-! ## What the proxy makes of it -/

/-- The target address with the IP address and the port of a socket address. -/
def targetOf : SocketAddr → TargetAddr
  | .v4 address => .ipV4 address
  | .v6 address => .ipV6 { address with flowinfo := 0, scopeId := 0 }

/-- A target address with the IP address and the port of a socket address. -/
def SameEndpoint : SocketAddr → TargetAddr → Prop
  | .v4 address, .ipV4 target =>
      target.ip = address.ip ∧ target.port = address.port
  | .v6 address, .ipV6 target =>
      target.ip = address.ip ∧ target.port = address.port
  | _, _ => False

theorem sameEndpoint_targetOf (target : SocketAddr) :
    SameEndpoint target (targetOf target) := by
  cases target with
  | v4 address => exact ⟨rfl, rfl⟩
  | v6 address => exact ⟨rfl, rfl⟩

theorem isWire_targetOf (target : SocketAddr) :
    (targetOf target).IsWire := by
  cases target with
  | v4 address => trivial
  | v6 address => exact ⟨rfl, rfl⟩

theorem targetOf_ne_none (target : SocketAddr) :
    targetOf target ≠ .none := by
  cases target with
  | v4 address => exact TargetAddr.noConfusion
  | v6 address => exact TargetAddr.noConfusion

/-- The request is a header and the encoding of the target. -/
theorem connectRequest_eq (target : SocketAddr) :
    connectRequest target =
      Client.connectHeader 0x00 ++ (targetOf target).wireBytes := by
  cases target with
  | v4 address => rfl
  | v6 address => rfl

/-- What the relay sends is in the grammar of the proxy. -/
theorem requests_connect
    (target : SocketAddr)
    (tail : Bytes) :
    Client.Requests (connectGreeting ++ connectRequest target ++ tail)
      (targetOf target) tail := by
  refine ⟨0x00, (targetOf target).wireBytes ++ tail,
    ⟨[0x00], by decide, by decide, ?_⟩, isWire_targetOf target,
    targetOf_ne_none target, rfl⟩
  rw [connectRequest_eq, List.append_assoc, List.append_assoc]
  rfl

/-- What the relay sends is not a request for a domain. -/
theorem not_requestsLongDomain_connect
    (target : SocketAddr)
    (tail : Bytes) :
    ¬Client.RequestsLongDomain
      (connectGreeting ++ connectRequest target ++ tail) := by
  rintro ⟨rsv, behind, greeted, rest, rfl⟩
  obtain ⟨otherRsv, other, otherGreeted, -, -, rfl⟩ :=
    requests_connect target tail
  obtain ⟨-, equal⟩ := List.append_inj (greeted.unique otherGreeted) rfl
  cases target with
  | v4 address => exact absurd (List.cons.inj equal).1 (by decide)
  | v6 address => exact absurd (List.cons.inj equal).1 (by decide)

/-- The proxy selects the method as soon as it has the greeting. -/
theorem outgoing_handleSocks5Client_greeting
    {stream : Stream}
    (accepts : stream.Accepts 2)
    (unread : stream.unread = connectGreeting) :
    (Client.handleSocks5Client.exec stream).2.outgoing =
      stream.outgoing ++ [0x05, 0x00] := by
  have greeted : Client.GreetedBy stream.unread [] :=
    ⟨[0x00], by decide, by decide, unread⟩
  rcases Client.exec_handleSocks5Client_cases stream with
    ⟨incoming, otherGreeted, -, greet⟩ | ⟨refused, -⟩
  swap
  · exact absurd accepts (refused _ greeted)
  rw [greet, Client.serveRequest]
  rcases Client.exec_readInto_cases
    (show 4 ≤ Client.HANDSHAKE_BUF_LEN by decide)
    { stream with incoming, outgoing := stream.outgoing ++ [0x05, 0x00] } with
    ⟨enough, -⟩ | ⟨-, fails⟩
  · rw [show Stream.unread { stream with
        incoming
        outgoing := stream.outgoing ++ [0x05, 0x00] } = [] from
      otherGreeted.unique greeted] at enough
    exact absurd enough (by decide)
  · exact fails.observe_bind Stream.outgoing (outgoing_exec_readExact 4 _)

/-- The proxy reaches its tunnel with the target of the relay and leaves what
follows the request. -/
theorem exec_handleSocks5Client_connect
    (target : SocketAddr)
    {tail : Bytes}
    {stream : Stream}
    (accepts : stream.Accepts 12)
    (unread : stream.unread =
      connectGreeting ++ connectRequest target ++ tail) :
    ∃ next, Client.handleSocks5Client.exec stream =
        (.ok (targetOf target), next) ∧
      next.unread = tail ∧
      next.outgoing =
        stream.outgoing ++ ([0x05, 0x00] ++ Client.successReply) := by
  have requests := requests_connect target tail
  rw [← unread] at requests
  cases Client.handshake_outcome stream with
  | tunnel other next otherRequests _ _ outgoing executed =>
      obtain ⟨rfl, rest⟩ := otherRequests.unique requests
      exact ⟨next, executed, rest, outgoing⟩
  | panicked next long _ executed =>
      rw [unread] at long
      exact absurd long (not_requestsLongDomain_connect target tail)
  | failed refused _ _ =>
      exact absurd accepts (refused _ _ requests)

/-! ## The turns of both parties -/

/-- The frame that opens a tunnel carries its target to the server. -/
def CarriesTarget (target : SocketAddr) (requested : TargetAddr) : Prop :=
  ∀ (sealing : Sealing) (draw : Draw sealing.maxPaddingLen.toNat),
    ∃ bytes decoded,
      (sealing.frame draw requested []).encode = some bytes ∧
        GhostFrame.decode bytes = .ok decoded ∧
        SameEndpoint target decoded.target

/-- The turns in which the relay and the proxy set up a connection.  Each is
what one of them does with what the other has sent so far. -/
structure SetsUp (proxyAddr target : SocketAddr) : Prop where
  greets : ∀ relay : Stream, relay.Accepts connectGreeting.length →
    relay.unread = [] →
    ((socks5Connect (.ok ()) proxyAddr target).exec relay).2.outgoing =
      relay.outgoing ++ connectGreeting
  selects : ∀ inbound : Stream, inbound.Accepts 2 →
    inbound.unread = connectGreeting →
    (Client.handleSocks5Client.exec inbound).2.outgoing =
      inbound.outgoing ++ [0x05, 0x00]
  requests : ∀ (relay : Stream) (answer : Bytes),
    relay.Accepts (connectGreeting.length + (connectRequest target).length) →
    relay.unread = [0x05, 0x00] ++ answer →
    ((socks5Connect (.ok ()) proxyAddr target).exec relay).2.outgoing =
      relay.outgoing ++ (connectGreeting ++ connectRequest target)
  reaches : ∀ (inbound : Stream) (tail : Bytes), inbound.Accepts 12 →
    inbound.unread = connectGreeting ++ connectRequest target ++ tail →
    ∃ requested next,
      Client.handleSocks5Client.exec inbound = (.ok requested, next) ∧
        SameEndpoint target requested ∧
        next.unread = tail ∧
        next.outgoing =
          inbound.outgoing ++ ([0x05, 0x00] ++ Client.successReply) ∧
        CarriesTarget target requested

theorem carriesTarget_targetOf (target : SocketAddr) :
    CarriesTarget target (targetOf target) := by
  intro sealing draw
  have wire := sealing.frame_isWire draw (isWire_targetOf target)
    (show ([] : Bytes).length ≤ READ_BUF_LEN from Nat.zero_le _)
  have encoded := GhostFrame.encode_of_isWire wire
  refine ⟨_, _, encoded, GhostFrame.decode_encode wire encoded, ?_⟩
  rw [sealing.frame_target draw]
  exact sameEndpoint_targetOf target

/-- The relay and the proxy set up a connection to the target of the relay. -/
theorem setsUp (proxyAddr target : SocketAddr) : SetsUp proxyAddr target where
  greets _ accepts unanswered :=
    outgoing_socks5Connect_greeting proxyAddr target accepts unanswered
  selects _ accepts unread :=
    outgoing_handleSocks5Client_greeting accepts unread
  requests _ _ accepts selected :=
    outgoing_socks5Connect_request proxyAddr target accepts selected
  reaches _ tail accepts unread := by
    obtain ⟨next, executed, rest, outgoing⟩ :=
      exec_handleSocks5Client_connect target accepts unread
    exact ⟨targetOf target, next, executed, sameEndpoint_targetOf target, rest,
      outgoing, carriesTarget_targetOf target⟩

end Tun
end GhostProtocol
