import GhostProtocol.Tun.Handshake
import GhostProtocol.Tun.Replies

/-!
# What the SOCKS5 client accepts

The client of the packet relay accepts a reply that shows the type of its
address twice: once in the header, where it is ignored, and once in front of
the address, where it gives the length of what is skipped.  Its request for an
association accepts the same replies for the two kinds of IP addresses, and
does not look at the versions.
-/

namespace GhostProtocol
namespace Tun

open Foundation Common

/-- The bytes start with an address of a known type, which is skipped. -/
inductive Skips : Bytes → Bytes → Prop
  | ipV4 {address rest : Bytes} (length : address.length = 6) :
      Skips (0x01 :: (address ++ rest)) rest
  | domain {len : UInt8} {name rest : Bytes}
      (length : name.length = len.toNat + 2) :
      Skips (0x03 :: len :: (name ++ rest)) rest
  | ipV6 {address rest : Bytes} (length : address.length = 18) :
      Skips (0x04 :: (address ++ rest)) rest

/-- The bytes start with an IP address and its port. -/
inductive ReadsAddress : Bytes → SocketAddr → Bytes → Prop
  | ipV4 (ip : Block 4) (port : UInt16) {rest : Bytes} :
      ReadsAddress (0x01 :: (ip.toList ++ u16Be port ++ rest))
        (.v4 { ip, port }) rest
  | ipV6 (ip : Block 16) (port : UInt16) {rest : Bytes} :
      ReadsAddress (0x04 :: (ip.toList ++ u16Be port ++ rest))
        (.v6 { ip, port, flowinfo := 0, scopeId := 0 }) rest

/-- The bytes are the answers to a greeting and to a request, in front of
`behind`. -/
def Answered (version method replyVersion rep : UInt8) (bytes behind : Bytes) :
    Prop :=
  ∃ rsv atyp,
    bytes = [version, method] ++ ([replyVersion, rep, rsv, atyp] ++ behind)

/-! ## Addresses -/

/-- One byte is read off what is unread. -/
theorem exec_readByte
    {stream : Stream}
    {byte : UInt8}
    {rest : Bytes}
    (unread : stream.unread = byte :: rest) :
    ∃ incoming, (onSocket (Stream.readExact 1)).exec stream =
        (.ok [byte], { stream with incoming }) ∧
      incoming.flatten = rest :=
  exec_readExact_append (show [byte].length = 1 from rfl) unread

/-- An address is skipped exactly if the bytes start with one. -/
theorem skips_iff (stream : Stream) (rest : Bytes) :
    (∃ next, skipSocks5Addr.exec stream = (.ok (), next) ∧
      next.unread = rest) ↔ Skips stream.unread rest := by
  constructor
  · rintro ⟨next, ran, rfl⟩
    obtain ⟨atyp, address, unread, alternatives⟩ := skipSocks5Addr_eq_ok ran
    rw [unread]
    rcases alternatives with ⟨rfl, length⟩ | ⟨rfl, len, name, rfl, length⟩ |
      ⟨rfl, length⟩
    · exact .ipV4 length
    · exact .domain length
    · exact .ipV6 length
  · intro skips
    generalize unread : stream.unread = bytes at skips
    cases skips with
    | ipV4 length =>
        obtain ⟨incoming, read, left⟩ := exec_readByte unread
        obtain ⟨after, readAddress, behind⟩ := exec_readExact_append length
          (show Stream.unread { stream with incoming } = _ from left)
        refine ⟨{ stream with incoming := after }, ?_, behind⟩
        rw [skipSocks5Addr, Program.exec_bind_of_ok read, if_pos (by decide),
          Program.exec_bind_of_ok readAddress]
        rfl
    | domain length =>
        exact exec_skipSocks5Addr_domain length unread
    | ipV6 length =>
        obtain ⟨incoming, read, left⟩ := exec_readByte unread
        obtain ⟨after, readAddress, behind⟩ := exec_readExact_append length
          (show Stream.unread { stream with incoming } = _ from left)
        refine ⟨{ stream with incoming := after }, ?_, behind⟩
        rw [skipSocks5Addr, Program.exec_bind_of_ok read, if_neg (by decide),
          if_neg (by decide), if_pos (by decide),
          Program.exec_bind_of_ok readAddress]
        rfl

/-- Octets and a port are read back from their buffer. -/
theorem ofBytes_octets
    {size : Nat}
    (ip : Block size)
    (port : UInt16) :
    Block.ofBytes size (ip.toList ++ u16Be port) = ip ∧
      u16FromBuffer ((ip.toList ++ u16Be port).drop size) = port := by
  have length : (ip.toList ++ u16Be port).length = size + 2 := by
    rw [List.length_append, Block.length_toList, length_u16Be]
  obtain ⟨octets, ports⟩ := List.append_inj (Client.octets_append_port length)
    (by rw [Block.length_toList, Block.length_toList])
  refine ⟨Subtype.ext octets, ?_⟩
  have readBack := congrArg u16FromBuffer ports
  rw [u16FromBuffer_u16Be, u16FromBuffer_u16Be] at readBack
  exact readBack

/-- An address is read exactly if the bytes start with one. -/
theorem readsAddress_iff
    (stream : Stream)
    (address : SocketAddr)
    (rest : Bytes) :
    (∃ next, readSocks5Addr.exec stream = (.ok address, next) ∧
      next.unread = rest) ↔ ReadsAddress stream.unread address rest := by
  constructor
  · rintro ⟨next, ran, rfl⟩
    obtain ⟨buf, afterType, readType, ran⟩ := Program.exec_bind_eq_ok.mp ran
    obtain ⟨unread, one⟩ := unread_of_exec_readExact readType
    obtain ⟨atyp, rfl⟩ := List.length_eq_one_iff.mp one
    simp only [List.getD_cons_zero] at ran
    split_ifs at ran with ipv4 ipv6
    · obtain ⟨octets, final, readOctets, done⟩ :=
        Program.exec_bind_eq_ok.mp ran
      obtain ⟨rest, length⟩ := unread_of_exec_readExact readOctets
      obtain ⟨result, rfl⟩ := Prod.mk.inj done
      rw [unread, rest, ipv4, ← Except.ok.inj result]
      have whole := Client.octets_append_port
        (show octets.length = 4 + 2 from length)
      generalize Block.ofBytes 4 octets = ip at whole ⊢
      generalize u16FromBuffer (octets.drop 4) = port at whole ⊢
      rw [← whole]
      exact .ipV4 ip port
    · obtain ⟨octets, final, readOctets, done⟩ :=
        Program.exec_bind_eq_ok.mp ran
      obtain ⟨rest, length⟩ := unread_of_exec_readExact readOctets
      obtain ⟨result, rfl⟩ := Prod.mk.inj done
      rw [unread, rest, ipv6, ← Except.ok.inj result]
      have whole := Client.octets_append_port
        (show octets.length = 16 + 2 from length)
      generalize Block.ofBytes 16 octets = ip at whole ⊢
      generalize u16FromBuffer (octets.drop 16) = port at whole ⊢
      rw [← whole]
      exact .ipV6 ip port
    · obtain ⟨failed, -⟩ := Prod.mk.inj ran
      cases failed
  · intro reads
    generalize unread : stream.unread = bytes at reads
    cases reads with
    | ipV4 ip port =>
        obtain ⟨incoming, read, left⟩ := exec_readByte unread
        obtain ⟨after, readOctets, behind⟩ := exec_readExact_append
          (show (ip.toList ++ u16Be port).length = 6 by
            rw [List.length_append, Block.length_toList, length_u16Be])
          (show Stream.unread { stream with incoming } = _ from left)
        obtain ⟨sameIp, samePort⟩ := ofBytes_octets ip port
        refine ⟨{ stream with incoming := after }, ?_, behind⟩
        rw [readSocks5Addr, Program.exec_bind_of_ok read, if_pos (by decide),
          Program.exec_bind_of_ok readOctets, sameIp, samePort]
        rfl
    | ipV6 ip port =>
        obtain ⟨incoming, read, left⟩ := exec_readByte unread
        obtain ⟨after, readOctets, behind⟩ := exec_readExact_append
          (show (ip.toList ++ u16Be port).length = 18 by
            rw [List.length_append, Block.length_toList, length_u16Be])
          (show Stream.unread { stream with incoming } = _ from left)
        obtain ⟨sameIp, samePort⟩ := ofBytes_octets ip port
        refine ⟨{ stream with incoming := after }, ?_, behind⟩
        rw [readSocks5Addr, Program.exec_bind_of_ok read, if_neg (by decide),
          if_pos (by decide), Program.exec_bind_of_ok readOctets, sameIp,
          samePort]
        rfl

/-! ## Replies -/

/-- The answers to a greeting and to a request are four and two bytes. -/
theorem answered_of_reads
    {stream afterMethod afterReply : Stream}
    {buf resp : Bytes}
    (readMethod : (onSocket (Stream.readExact 2)).exec stream =
      (.ok buf, afterMethod))
    {requested : Stream}
    (kept : requested.unread = afterMethod.unread)
    (readReply : (onSocket (Stream.readExact 4)).exec requested =
      (.ok resp, afterReply)) :
    Answered (buf.getD 0 0) (buf.getD 1 0) (resp.getD 0 0) (resp.getD 1 0)
      stream.unread afterReply.unread := by
  obtain ⟨unread, two⟩ := unread_of_exec_readExact readMethod
  obtain ⟨behind, four⟩ := unread_of_exec_readExact readReply
  obtain ⟨version, method, rfl⟩ := List.length_eq_two.mp two
  obtain ⟨replyVersion, rep, others, rfl⟩ :=
    exists_cons_cons (show 2 ≤ resp.length by omega)
  obtain ⟨rsv, atyp, rfl⟩ := List.length_eq_two.mp
    (Nat.succ.inj (Nat.succ.inj four))
  exact ⟨rsv, atyp, by rw [unread, ← kept, behind]; rfl⟩

/-- A client that is connected has read two answers and skipped an address. -/
theorem skips_of_connects
    {proxyAddr target : SocketAddr}
    {stream next : Stream}
    (ran : (socks5Connect (.ok ()) proxyAddr target).exec stream =
      (.ok (), next)) :
    ∃ behind, Answered 0x05 0x00 0x05 0x00 stream.unread behind ∧
      Skips behind next.unread := by
  obtain ⟨_, start, lifted, ran⟩ := Program.exec_bind_eq_ok.mp ran
  obtain ⟨-, rfl⟩ := Prod.mk.inj lifted
  obtain ⟨_, greeted, greets, ran⟩ := Program.exec_bind_eq_ok.mp ran
  obtain ⟨buf, selected, readMethod, ran⟩ := Program.exec_bind_eq_ok.mp ran
  split_ifs at ran with version method
  · cases ran
  · cases ran
  obtain ⟨_, requested, requests, ran⟩ := Program.exec_bind_eq_ok.mp ran
  obtain ⟨resp, replied, readReply, ran⟩ := Program.exec_bind_eq_ok.mp ran
  split_ifs at ran with replyVersion rep
  · cases ran
  · cases ran
  have answered := answered_of_reads readMethod
    (unread_of_exec_writeAll requests) readReply
  rw [not_not.mp version, not_not.mp method, not_not.mp replyVersion,
    not_not.mp rep, unread_of_exec_writeAll greets] at answered
  exact ⟨replied.unread, answered,
    (skips_iff replied next.unread).mp ⟨next, ran, rfl⟩⟩

/-- A connection succeeds exactly on two answers and an address whose type is
shown a second time, and leaves what follows them. -/
theorem connects_iff
    (proxyAddr target : SocketAddr)
    {stream : Stream}
    (unlimited : stream.limit = none)
    (rest : Bytes) :
    (∃ next, (socks5Connect (.ok ()) proxyAddr target).exec stream =
        (.ok (), next) ∧ next.unread = rest) ↔
      ∃ behind, Answered 0x05 0x00 0x05 0x00 stream.unread behind ∧
        Skips behind rest := by
  constructor
  · rintro ⟨next, ran, rfl⟩
    exact skips_of_connects ran
  · rintro ⟨behind, ⟨rsv, atyp, unread⟩, skips⟩
    obtain ⟨middle, address, -, connect⟩ :=
      exec_socks5Connect proxyAddr target unlimited unread
    rw [if_pos rfl] at connect
    rw [← address] at skips
    obtain ⟨next, skipped, left⟩ := (skips_iff middle rest).mpr skips
    exact ⟨next, connect.trans skipped, left⟩

/-- An association succeeds exactly on two answers of any version and an IP
address whose type is shown a second time, which it returns. -/
theorem associates_iff
    {stream : Stream}
    (unlimited : stream.limit = none)
    (address : SocketAddr)
    (rest : Bytes) :
    (∃ next, (socks5UdpAssociate (.ok ())).exec stream =
        (.ok address, next) ∧ next.unread = rest) ↔
      ∃ version replyVersion behind,
        Answered version 0x00 replyVersion 0x00 stream.unread behind ∧
          ReadsAddress behind address rest := by
  constructor
  · rintro ⟨next, ran, rfl⟩
    obtain ⟨_, start, lifted, ran⟩ := Program.exec_bind_eq_ok.mp ran
    obtain ⟨-, rfl⟩ := Prod.mk.inj lifted
    obtain ⟨_, greeted, greets, ran⟩ := Program.exec_bind_eq_ok.mp ran
    obtain ⟨buf, selected, readMethod, ran⟩ := Program.exec_bind_eq_ok.mp ran
    split_ifs at ran with method
    · cases ran
    obtain ⟨_, requested, requests, ran⟩ := Program.exec_bind_eq_ok.mp ran
    obtain ⟨resp, replied, readReply, ran⟩ := Program.exec_bind_eq_ok.mp ran
    split_ifs at ran with rep
    · cases ran
    have answered := answered_of_reads readMethod
      (unread_of_exec_writeAll requests) readReply
    rw [not_not.mp method, not_not.mp rep, unread_of_exec_writeAll greets]
      at answered
    exact ⟨_, _, replied.unread, answered,
      (readsAddress_iff replied address next.unread).mp ⟨next, ran, rfl⟩⟩
  · rintro ⟨version, replyVersion, behind, ⟨rsv, atyp, unread⟩, reads⟩
    obtain ⟨greeted, header, stillUnlimited, greet⟩ :=
      exec_request [0x05, 0x01, 0x00] unlimited
        (show ([version, 0x00] : Bytes).length = 2 from rfl) unread
    obtain ⟨middle, left, -, request⟩ := exec_request
      [0x05, 0x03, 0x00, 0x01, 0x00, 0x00, 0x00, 0x00, 0x00, 0x00]
      stillUnlimited
      (show [replyVersion, 0x00, rsv, atyp].length = 4 from rfl) header
    rw [← left] at reads
    obtain ⟨next, found, behind⟩ :=
      (readsAddress_iff middle address rest).mpr reads
    refine ⟨next, ?_, behind⟩
    rw [socks5UdpAssociate, Program.exec_bind]
    change Program.exec (do
      onSocket (Stream.writeAll [0x05, 0x01, 0x00])
      _) stream = _
    rw [greet, if_neg (by simp), request, if_neg (by simp)]
    exact found

/-- The client of the packet relay gets a connection, and an association,
exactly on the replies of its grammar, and leaves what follows them. -/
theorem accepts_replies
    (proxyAddr target : SocketAddr)
    {stream : Stream}
    (unlimited : stream.limit = none)
    (rest : Bytes) :
    ((∃ next, (socks5Connect (.ok ()) proxyAddr target).exec stream =
          (.ok (), next) ∧ next.unread = rest) ↔
        ∃ behind, Answered 0x05 0x00 0x05 0x00 stream.unread behind ∧
          Skips behind rest) ∧
      ∀ address,
        (∃ next, (socks5UdpAssociate (.ok ())).exec stream =
            (.ok address, next) ∧ next.unread = rest) ↔
          ∃ version replyVersion behind,
            Answered version 0x00 replyVersion 0x00 stream.unread behind ∧
              ReadsAddress behind address rest :=
  ⟨connects_iff proxyAddr target unlimited rest,
    fun address => associates_iff unlimited address rest⟩

/-- A reply with a name is no answer to the request for an association. -/
theorem accepts_replies_named :
    ¬∃ next, (socks5UdpAssociate (.ok ())).exec
        (Stream.ofSegments [[5, 0, 5, 0, 0, 3], [3, 1, 97, 0, 80]]) =
      (.ok (.v4 { ip := ⟨[1, 1, 1, 1], rfl⟩, port := 80 }), next) ∧
        next.unread = [] := by
  intro associates
  obtain ⟨version, replyVersion, behind, ⟨rsv, atyp, unread⟩, reads⟩ :=
    ((accepts_replies (.v4 { ip := ⟨[1, 1, 1, 1], rfl⟩, port := 80 })
      (.v4 { ip := ⟨[1, 1, 1, 1], rfl⟩, port := 80 })
      (show (Stream.ofSegments
        [[5, 0, 5, 0, 0, 3], [3, 1, 97, 0, 80]]).limit = none from rfl)
      []).2 _).mp associates
  have behindEq : behind = [3, 1, 97, 0, 80] := by
    change [5, 0, 5, 0, 0, 3, 3, 1, 97, 0, 80] = _ at unread
    simp only [List.cons_append, List.nil_append, List.cons.injEq] at unread
    exact unread.2.2.2.2.2.2.symm
  rw [behindEq] at reads
  cases reads

end Tun
end GhostProtocol
