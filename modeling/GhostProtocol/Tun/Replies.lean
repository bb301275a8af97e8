import GhostProtocol.Client.Socks5
import GhostProtocol.Tun.Socks5

/-!
# Replies of the local proxy

The proxy writes the type of an address into the last byte of the reply header,
which the client of the packet relay reads with that header.  The client then
reads the type once more, and finds the first byte of the address in its
place.  A reply is read back exactly only when it reports a failure, or when
that byte and the next happen to describe what follows.
-/

namespace GhostProtocol
namespace Tun

open Foundation Common

/-- A request is written and the answer in front of what is unread is read. -/
theorem exec_request
    (bytes : Bytes)
    {stream : Stream}
    (unlimited : stream.limit = none)
    {answer rest : Bytes}
    {count : Nat}
    (length : answer.length = count)
    (unread : stream.unread = answer ++ rest) :
    ∃ middle : Stream, middle.unread = rest ∧ middle.limit = none ∧
      ∀ {α : Type} (next : Bytes → Handler Stream α),
        Program.exec (do
          onSocket (Stream.writeAll bytes)
          let buf ← onSocket (Stream.readExact count)
          next buf) stream = (next answer).exec middle := by
  have written := exec_writeAll unlimited bytes
  obtain ⟨incoming, read, leftover⟩ := exec_readExact_append length
    (show Stream.unread { stream with outgoing := stream.outgoing ++ bytes } =
      answer ++ rest from unread)
  refine ⟨_, ?_, ?_, fun next => (Program.exec_bind_of_ok written).trans
    (Program.exec_bind_of_ok read)⟩
  · exact leftover
  · exact unlimited

/-- A request to connect sends its greeting and reads the header of the
reply. -/
theorem exec_socks5Connect
    (proxyAddr target : SocketAddr)
    {stream : Stream}
    (unlimited : stream.limit = none)
    {rep rsv atyp : UInt8}
    {address : Bytes}
    (unread : stream.unread =
      [0x05, 0x00] ++ ([0x05, rep, rsv, atyp] ++ address)) :
    ∃ middle : Stream, middle.unread = address ∧ middle.limit = none ∧
      (socks5Connect (.ok ()) proxyAddr target).exec stream =
        if rep = 0x00 then skipSocks5Addr.exec middle
        else (.error (.error (.message
          ("SOCKS5 CONNECT failed with code: " ++ hexLiteral rep))), middle) := by
  obtain ⟨greeted, header, stillUnlimited, greet⟩ :=
    exec_request [0x05, 0x01, 0x00] unlimited
      (show ([0x05, 0x00] : Bytes).length = 2 from rfl) unread
  obtain ⟨middle, rest, unlimitedMiddle, request⟩ :=
    exec_request (encodeAddr target [0x05, 0x01, 0x00]) stillUnlimited
      (show [0x05, rep, rsv, atyp].length = 4 from rfl) header
  refine ⟨middle, rest, unlimitedMiddle, ?_⟩
  rw [socks5Connect, Program.exec_bind, exec_liftOutcome]
  simp only
  rw [greet, if_neg (by simp), if_neg (by simp), request, if_neg (by simp)]
  by_cases success : rep = 0x00
  · rw [if_neg (by simpa using success), if_pos success]
  · rw [if_pos (by simpa using success), if_neg success]
    rfl

/-- A request for an association sends its greeting and reads the header of
the reply. -/
theorem exec_socks5UdpAssociate
    {stream : Stream}
    (unlimited : stream.limit = none)
    {rsv atyp : UInt8}
    {address : Bytes}
    (unread : stream.unread =
      [0x05, 0x00] ++ ([0x05, 0x00, rsv, atyp] ++ address)) :
    ∃ middle : Stream, middle.unread = address ∧
      (socks5UdpAssociate (.ok ())).exec stream = readSocks5Addr.exec middle := by
  obtain ⟨greeted, header, stillUnlimited, greet⟩ :=
    exec_request [0x05, 0x01, 0x00] unlimited
      (show ([0x05, 0x00] : Bytes).length = 2 from rfl) unread
  obtain ⟨middle, rest, _, request⟩ :=
    exec_request [0x05, 0x03, 0x00, 0x01, 0x00, 0x00, 0x00, 0x00, 0x00, 0x00]
      stillUnlimited (show [0x05, 0x00, rsv, atyp].length = 4 from rfl) header
  refine ⟨middle, rest, ?_⟩
  rw [socks5UdpAssociate, Program.exec_bind]
  change Program.exec (do
    onSocket (Stream.writeAll [0x05, 0x01, 0x00])
    _) stream = _
  rw [greet, if_neg (by simp), request, if_neg (by simp)]

/-- An address of the domain type is skipped. -/
theorem exec_skipSocks5Addr_domain
    {stream : Stream}
    {len : UInt8}
    {name rest : Bytes}
    (length : name.length = len.toNat + 2)
    (unread : stream.unread = [0x03] ++ ([len] ++ (name ++ rest))) :
    ∃ next : Stream, skipSocks5Addr.exec stream = (.ok (), next) ∧
      next.unread = rest := by
  obtain ⟨afterType, readType, lenAndName⟩ := exec_readExact_append
    (show ([0x03] : Bytes).length = 1 from rfl) unread
  obtain ⟨afterLen, readLen, nameAndRest⟩ := exec_readExact_append
    (show [len].length = 1 from rfl)
    (show Stream.unread { stream with incoming := afterType } = _
      from lenAndName)
  obtain ⟨afterName, readName, onlyRest⟩ := exec_readExact_append length
    (show Stream.unread { stream with incoming := afterLen } = _
      from nameAndRest)
  refine ⟨{ stream with incoming := afterName }, ?_, onlyRest⟩
  rw [skipSocks5Addr, Program.exec_bind_of_ok readType, if_neg (by decide),
    if_pos (by decide), Program.exec_bind_of_ok readLen]
  simp only [List.getD_cons_zero]
  rw [Program.exec_bind_of_ok readName]
  rfl

/-- The address type in the header of a reply. -/
def bindType : TargetAddr → UInt8
  | .none => 0x01
  | .ipV4 _ => 0x01
  | .ipV6 _ => 0x04
  | .domain _ _ => 0x03

/-- What follows the header of a reply. -/
def bindBytes : TargetAddr → Bytes
  | .none => [0, 0, 0, 0] ++ u16Be 0
  | .ipV4 address => address.ip.toList ++ u16Be address.port
  | .ipV6 address => address.ip.toList ++ u16Be address.port
  | .domain name port =>
      UInt8.ofNat (Text.utf8Bytes name).length ::
        (Text.utf8Bytes name ++ u16Be port)

/-- A reply is a header of four bytes and an address. -/
theorem socks5Reply_eq (rep : UInt8) (bindAddr : TargetAddr) :
    Client.socks5Reply rep bindAddr =
      [0x05, rep, 0x00, bindType bindAddr] ++ bindBytes bindAddr := by
  cases bindAddr with
  | none => rfl
  | ipV4 address => rfl
  | ipV6 address => rfl
  | domain name port => rfl

/-- The IP address and the port of a bound address, if it is one. -/
def bindIp : TargetAddr → Option (Bytes × UInt16)
  | .ipV4 address => some (address.ip.toList, address.port)
  | .ipV6 address => some (address.ip.toList, address.port)
  | _ => none

/-- The IP address and the port of a socket address. -/
def socketIp : SocketAddr → Bytes × UInt16
  | .v4 address => (address.ip.toList, address.port)
  | .v6 address => (address.ip.toList, address.port)

/-- A reply in front of `rest` is read back exactly: a connection succeeds
when the reply does and leaves `rest`, and an association also returns the
address of the reply if that is an IP address. -/
structure ReadsBack
    (proxyAddr target : SocketAddr)
    (rep : UInt8)
    (bindAddr : TargetAddr)
    (rest : Bytes)
    (stream : Stream) : Prop where
  connects :
    (∃ next, (socks5Connect (.ok ()) proxyAddr target).exec stream =
      (.ok (), next)) ↔ rep = 0x00
  leaves : ∀ next, (socks5Connect (.ok ()) proxyAddr target).exec stream =
    (.ok (), next) → next.unread = rest
  associates : rep = 0x00 → ∀ ip port, bindIp bindAddr = some (ip, port) →
    ∃ address next, (socks5UdpAssociate (.ok ())).exec stream =
        (.ok address, next) ∧
      socketIp address = (ip, port) ∧ next.unread = rest

/-- Nothing that an association reads as an address has the length of an
address. -/
theorem not_associates
    {ip : Bytes}
    (length : ip.length = 4 ∨ ip.length = 16)
    {port : UInt16}
    {rest : Bytes}
    {middle next : Stream}
    {result : SocketAddr}
    (unread : middle.unread = ip ++ u16Be port ++ rest)
    (ran : readSocks5Addr.exec middle = (.ok result, next)) :
    next.unread ≠ rest := by
  rintro rfl
  obtain ⟨atyp, address, read, alternatives⟩ := readSocks5Addr_eq_ok ran
  rw [unread] at read
  have lengths := congrArg List.length read
  simp only [List.length_append, List.length_cons, length_u16Be] at lengths
  rcases alternatives with ⟨_, six⟩ | ⟨_, eighteen⟩
  · omega
  · omega

/-- A domain whose reply is skipped exactly has three bytes, the first of which
is 2. -/
theorem domain_of_skipped
    {name : String}
    (fits : (Text.utf8Bytes name).length ≤ 255)
    {port : UInt16}
    {rest : Bytes}
    {middle next : Stream}
    (unread : middle.unread = bindBytes (.domain name port) ++ rest)
    (ran : skipSocks5Addr.exec middle = (.ok (), next))
    (leaves : next.unread = rest) :
    ∃ second third, Text.utf8Bytes name = [0x02, second, third] := by
  subst leaves
  obtain ⟨atyp, address, read, alternatives⟩ := skipSocks5Addr_eq_ok ran
  rw [unread, bindBytes, List.cons_append] at read
  obtain ⟨isType, tail⟩ := List.cons.inj read
  have isAddress : Text.utf8Bytes name ++ u16Be port = address :=
    List.append_cancel_right tail
  have lengths := congrArg List.length isAddress
  rw [List.length_append, length_u16Be] at lengths
  have typeValue : atyp.toNat = (Text.utf8Bytes name).length := by
    rw [← isType, UInt8.toNat_ofNat']
    omega
  rcases alternatives with ⟨rfl, six⟩ | ⟨rfl, len, rest, rfl, nameLength⟩ |
    ⟨rfl, eighteen⟩
  · have one : (1 : UInt8).toNat = 1 := rfl
    omega
  · have three : (3 : UInt8).toNat = 3 := rfl
    rw [List.length_cons] at lengths
    have two : len.toNat = 2 := by omega
    have isTwo : len = 0x02 := UInt8.toNat.inj two
    have exactlyThree : (Text.utf8Bytes name).length = 3 := by omega
    obtain ⟨first, second, third, bytes⟩ := List.length_eq_three.mp exactlyThree
    rw [bytes] at isAddress
    obtain ⟨isFirst, -⟩ := List.cons.inj isAddress
    exact ⟨second, third, by rw [bytes, isFirst, isTwo]⟩
  · have four : (4 : UInt8).toNat = 4 := rfl
    omega

/-- A failure is read back. -/
theorem readsBack_of_failure
    (proxyAddr target : SocketAddr)
    {rep : UInt8}
    {bindAddr : TargetAddr}
    {rest : Bytes}
    {stream : Stream}
    (unlimited : stream.limit = none)
    (answered : stream.unread =
      [0x05, 0x00] ++ (Client.socks5Reply rep bindAddr ++ rest))
    (failure : rep ≠ 0x00) :
    ReadsBack proxyAddr target rep bindAddr rest stream := by
  rw [socks5Reply_eq, List.append_assoc] at answered
  obtain ⟨middle, -, -, connect⟩ :=
    exec_socks5Connect proxyAddr target unlimited answered
  rw [if_neg failure] at connect
  refine ⟨⟨?_, fun isZero => absurd isZero failure⟩, ?_,
    fun isZero => absurd isZero failure⟩
  · rintro ⟨next, connected⟩
    rw [connect] at connected
    cases (Prod.mk.inj connected).1
  · intro next connected
    rw [connect] at connected
    cases (Prod.mk.inj connected).1

/-- A success with a domain of three bytes, the first of which is 2, is read
back. -/
theorem readsBack_of_domain
    (proxyAddr target : SocketAddr)
    {name : String}
    {port : UInt16}
    {second third : UInt8}
    (bytes : Text.utf8Bytes name = [0x02, second, third])
    {rest : Bytes}
    {stream : Stream}
    (unlimited : stream.limit = none)
    (answered : stream.unread =
      [0x05, 0x00] ++ (Client.socks5Reply 0x00 (.domain name port) ++ rest)) :
    ReadsBack proxyAddr target 0x00 (.domain name port) rest stream := by
  rw [socks5Reply_eq, List.append_assoc] at answered
  obtain ⟨middle, address, -, connect⟩ :=
    exec_socks5Connect proxyAddr target unlimited answered
  rw [if_pos rfl] at connect
  have shifted : middle.unread =
      [0x03] ++ ([0x02] ++ (([second, third] ++ u16Be port) ++ rest)) := by
    rw [address, bindBytes, bytes]
    rfl
  obtain ⟨next, skipped, left⟩ := exec_skipSocks5Addr_domain
    (show ([second, third] ++ u16Be port).length =
      (0x02 : UInt8).toNat + 2 from rfl) shifted
  refine ⟨⟨fun _ => rfl, fun _ => ⟨next, connect.trans skipped⟩⟩, ?_, ?_⟩
  · intro other connected
    rw [connect, skipped] at connected
    rw [← (Prod.mk.inj connected).2]
    exact left
  · intro _ ip port isIp
    cases isIp

/-- A success that is read back has such a domain. -/
theorem domain_of_readsBack
    {proxyAddr target : SocketAddr}
    {bindAddr : TargetAddr}
    (fits : ∀ name port, bindAddr = .domain name port →
      1 ≤ (Text.utf8Bytes name).length ∧ (Text.utf8Bytes name).length ≤ 255)
    {rest : Bytes}
    {stream : Stream}
    (unlimited : stream.limit = none)
    (answered : stream.unread =
      [0x05, 0x00] ++ (Client.socks5Reply 0x00 bindAddr ++ rest))
    (readsBack : ReadsBack proxyAddr target 0x00 bindAddr rest stream) :
    ∃ name port second third, bindAddr = .domain name port ∧
      Text.utf8Bytes name = [0x02, second, third] := by
  rw [socks5Reply_eq, List.append_assoc] at answered
  obtain ⟨middle, address, -, connect⟩ :=
    exec_socks5Connect proxyAddr target unlimited answered
  rw [if_pos rfl] at connect
  obtain ⟨next, connected⟩ := readsBack.connects.mpr rfl
  have leaves := readsBack.leaves next connected
  rw [connect] at connected
  obtain ⟨associated, ipBytes, associate⟩ :=
    exec_socks5UdpAssociate unlimited answered
  cases bindAddr with
  | none =>
      obtain ⟨atyp, skipped, read, alternatives⟩ :=
        skipSocks5Addr_eq_ok connected
      rw [address] at read
      obtain ⟨rfl, -⟩ := List.cons.inj read
      rcases alternatives with ⟨isType, _⟩ | ⟨isType, _⟩ | ⟨isType, _⟩
      · cases isType
      · cases isType
      · cases isType
  | ipV4 ip =>
      obtain ⟨result, final, ran, -, left⟩ := readsBack.associates rfl _ _ rfl
      rw [associate] at ran
      exact absurd left (not_associates (.inl (Block.length_toList _))
        ipBytes ran)
  | ipV6 ip =>
      obtain ⟨result, final, ran, -, left⟩ := readsBack.associates rfl _ _ rfl
      rw [associate] at ran
      exact absurd left (not_associates (.inr (Block.length_toList _))
        ipBytes ran)
  | domain name port =>
      obtain ⟨second, third, bytes⟩ := domain_of_skipped
        (fits name port rfl).2 address connected leaves
      exact ⟨name, port, second, third, rfl, bytes⟩

/-- A reply is read back exactly when it reports a failure, or when its address
is a domain of three bytes the first of which is 2. -/
theorem readsBack_iff
    (proxyAddr target : SocketAddr)
    {rep : UInt8}
    {bindAddr : TargetAddr}
    (fits : ∀ name port, bindAddr = .domain name port →
      1 ≤ (Text.utf8Bytes name).length ∧ (Text.utf8Bytes name).length ≤ 255)
    {rest : Bytes}
    {stream : Stream}
    (unlimited : stream.limit = none)
    (answered : stream.unread =
      [0x05, 0x00] ++ (Client.socks5Reply rep bindAddr ++ rest)) :
    ReadsBack proxyAddr target rep bindAddr rest stream ↔
      rep ≠ 0x00 ∨ ∃ name port second third,
        bindAddr = .domain name port ∧
          Text.utf8Bytes name = [0x02, second, third] := by
  by_cases success : rep = 0x00
  · subst success
    constructor
    · exact fun readsBack =>
        .inr (domain_of_readsBack fits unlimited answered readsBack)
    · intro condition
      obtain ⟨name, port, second, third, rfl, bytes⟩ :=
        condition.resolve_left fun failure => failure rfl
      exact readsBack_of_domain proxyAddr target bytes unlimited answered
  · exact ⟨fun _ => .inl success, fun _ =>
      readsBack_of_failure proxyAddr target unlimited answered success⟩

/-- A refusal is read back. -/
theorem readsBack_iff_refused :
    ReadsBack (.v4 { ip := ⟨[127, 0, 0, 1], rfl⟩, port := 10808 })
        (.v4 { ip := ⟨[1, 1, 1, 1], rfl⟩, port := 443 }) 0x07
        (.domain "0.0.0.0" 0) []
        (Stream.ofSegments
          [[0x05, 0x00], Client.socks5Reply 0x07 (.domain "0.0.0.0" 0)]) ↔
      (0x07 : UInt8) ≠ 0x00 ∨ ∃ name port second third,
        TargetAddr.domain "0.0.0.0" 0 = .domain name port ∧
          Text.utf8Bytes name = [0x02, second, third] := by
  refine readsBack_iff _ _ ?_ rfl rfl
  rintro name port isDomain
  obtain ⟨rfl, -⟩ := TargetAddr.domain.inj isDomain
  decide

/-- The success that the proxy reports for every connection is not read
back. -/
theorem not_readsBack_success :
    ¬ ∀ (proxyAddr target : SocketAddr) (rep : UInt8) (bindAddr : TargetAddr)
      (rest : Bytes) (segments : List Bytes),
      (∀ name port, bindAddr = .domain name port →
        1 ≤ (Text.utf8Bytes name).length ∧
          (Text.utf8Bytes name).length ≤ 255) →
      segments.flatten =
        [0x05, 0x00] ++ (Client.socks5Reply rep bindAddr ++ rest) →
      ReadsBack proxyAddr target rep bindAddr rest
        (Stream.ofSegments segments) := by
  intro complete
  have readsBack := complete
    (.v4 { ip := ⟨[127, 0, 0, 1], rfl⟩, port := 10808 })
    (.v4 { ip := ⟨[1, 1, 1, 1], rfl⟩, port := 443 }) 0x00
    (.ipV4 { ip := ⟨[0, 0, 0, 0], rfl⟩, port := 0 }) []
    [[0x05, 0x00], [0x05, 0x00, 0x00, 0x01, 0, 0, 0, 0, 0, 0]]
    (fun name port isDomain => by cases isDomain) rfl
  obtain ⟨next, connected⟩ := readsBack.connects.mpr rfl
  cases connected

end Tun
end GhostProtocol
