import GhostProtocol.Client.Socks5

/-!
# What the local SOCKS5 proxy accepts

The handshake is read in three stages: a greeting, the header of a request and
the requested address.  Each stage either goes on with what is in front of the
unread bytes, or ends with an error.  The buffer of the handshake is one byte
too short for a domain of 255 bytes, the only input on which it panics.
-/

namespace GhostProtocol
namespace Client

open Foundation Common

/-! ## The grammar -/

/-- A greeting that offers the methods. -/
def greeting (methods : Bytes) : Bytes :=
  0x05 :: UInt8.ofNat methods.length :: methods

/-- The header of a request to connect. -/
def connectHeader (rsv : UInt8) : Bytes :=
  [0x05, 0x01, rsv]

/-- The bytes start with a greeting that offers the method without
authentication. -/
def GreetedBy (bytes rest : Bytes) : Prop :=
  ∃ methods : Bytes, methods.length ≤ 255 ∧ 0x00 ∈ methods ∧
    bytes = greeting methods ++ rest

/-- The bytes start with a target, which is an address or a domain of one to
255 bytes of UTF-8, type byte first. -/
def ReadsTarget (bytes : Bytes) (target : TargetAddr) (rest : Bytes) : Prop :=
  target.IsWire ∧ target ≠ .none ∧ bytes = target.wireBytes ++ rest

/-- The bytes start with the type and the length of a domain of 255 bytes. -/
def LongDomain (bytes : Bytes) : Prop :=
  ∃ rest, bytes = 0x03 :: 0xFF :: rest

/-- The bytes start with a greeting and a request to connect to the target. -/
def Requests (bytes : Bytes) (target : TargetAddr) (rest : Bytes) : Prop :=
  ∃ rsv behind, GreetedBy bytes (connectHeader rsv ++ behind) ∧
    ReadsTarget behind target rest

/-- The bytes start with a greeting and a request to connect to a domain of 255
bytes. -/
def RequestsLongDomain (bytes : Bytes) : Prop :=
  ∃ rsv behind, GreetedBy bytes (connectHeader rsv ++ behind) ∧
    LongDomain behind

/-- A greeting is read off the bytes: the version, the number of methods and
the methods. -/
theorem greetedBy_cons_iff
    {version nmethods : UInt8}
    {behind rest : Bytes} :
    GreetedBy (version :: nmethods :: behind) rest ↔
      version = 0x05 ∧ nmethods.toNat ≤ behind.length ∧
        0x00 ∈ behind.take nmethods.toNat ∧
        rest = behind.drop nmethods.toNat := by
  constructor
  · rintro ⟨methods, short, offered, equal⟩
    obtain ⟨versions, others⟩ := List.cons.inj equal
    obtain ⟨counts, behinds⟩ := List.cons.inj others
    subst versions counts behinds
    rw [toNat_ofNat_length_u8 short]
    change (0x05 : UInt8) = 0x05 ∧ methods.length ≤ (methods ++ rest).length ∧
      0x00 ∈ (methods ++ rest).take methods.length ∧
      rest = (methods ++ rest).drop methods.length
    rw [List.take_left, List.drop_left, List.length_append]
    exact ⟨rfl, Nat.le_add_right _ _, offered, rfl⟩
  · rintro ⟨rfl, enough, offered, rfl⟩
    have length := List.length_take_of_le enough
    have small := nmethods.toNat_lt
    refine ⟨behind.take nmethods.toNat, by omega, offered, ?_⟩
    rw [greeting, length, UInt8.ofNat_toNat, List.cons_append, List.cons_append,
      List.take_append_drop]

/-- A greeting takes at least two bytes. -/
theorem GreetedBy.two_le_length
    {bytes rest : Bytes}
    (greeted : GreetedBy bytes rest) :
    2 ≤ bytes.length := by
  obtain ⟨methods, -, -, rfl⟩ := greeted
  simp only [greeting, List.cons_append, List.length_cons]
  omega

/-- What follows a greeting is determined by the bytes. -/
theorem GreetedBy.unique
    {bytes first second : Bytes}
    (firstGreeted : GreetedBy bytes first)
    (secondGreeted : GreetedBy bytes second) :
    first = second := by
  obtain ⟨version, nmethods, behind, rfl⟩ :=
    exists_cons_cons firstGreeted.two_le_length
  rw [(greetedBy_cons_iff.mp firstGreeted).2.2.2,
    (greetedBy_cons_iff.mp secondGreeted).2.2.2]

/-! ## Reading into the buffer -/

/-- A slice within the buffer takes the front of what is unread. -/
theorem exec_readInto_cases
    {count : Nat}
    (fits : count ≤ HANDSHAKE_BUF_LEN)
    (stream : Stream) :
    (count ≤ stream.unread.length ∧
        ∃ incoming, (readInto count).exec stream =
            (.ok (stream.unread.take count), { stream with incoming }) ∧
          incoming.flatten = stream.unread.drop count) ∨
      (stream.unread.length < count ∧ Fails (readInto count) stream) := by
  rw [readInto, if_neg (Nat.not_lt.mpr fits)]
  exact exec_readExact_cases count stream

/-- No method is read of an empty list. -/
theorem exec_readMethods_cases
    (nmethods : UInt8)
    (stream : Stream) :
    (nmethods.toNat ≤ stream.unread.length ∧
        ∃ incoming,
          (if nmethods.toNat > 0 then readInto nmethods.toNat
            else pure []).exec stream =
            (.ok (stream.unread.take nmethods.toNat),
              { stream with incoming }) ∧
          incoming.flatten = stream.unread.drop nmethods.toNat) ∨
      (stream.unread.length < nmethods.toNat ∧
        Fails (if nmethods.toNat > 0 then readInto nmethods.toNat
          else pure []) stream) := by
  have small := nmethods.toNat_lt
  by_cases some : nmethods.toNat > 0
  · rw [if_pos some]
    refine exec_readInto_cases ?_ stream
    unfold HANDSHAKE_BUF_LEN
    omega
  · have zero := Nat.eq_zero_of_not_pos some
    rw [if_neg some, zero]
    exact .inl ⟨Nat.zero_le _, stream.incoming, rfl, rfl⟩

/-! ## The greeting -/

/-- The reply to a request that is granted. -/
def successReply : Bytes :=
  socks5Reply 0x00 (.ipV4 { ip := Block.ofBytes 4 [], port := 0 })

/-- The handshake after the header of the request. -/
def grantTarget (atyp : UInt8) : Handler Stream TargetAddr := do
  let target ← readTarget atyp
  onSocket (Stream.writeAll successReply)
  return target

/-- The handshake after the method has been selected. -/
def serveRequest : Handler Stream TargetAddr := do
  let buf ← readInto 4
  let version := buf.getD 0 0
  let cmd := buf.getD 1 0
  let atyp := buf.getD 3 0
  if version ≠ 0x05 then
    bail ("Invalid SOCKS5 version in request: " ++ hexLiteral version)
  else if cmd ≠ 0x01 then do
    onSocket (Stream.writeAll
      (socks5Reply 0x07 (.domain "0.0.0.0" 0)))
    bail ("Unsupported SOCKS5 command: " ++ hexLiteral cmd ++
      " (only CONNECT supported)")
  else grantTarget atyp

/-- An acceptable greeting is answered and the request is served; any other one
is an error. -/
theorem exec_handleSocks5Client_cases (stream : Stream) :
    (∃ incoming, GreetedBy stream.unread incoming.flatten ∧
        stream.Accepts 2 ∧
        handleSocks5Client.exec stream =
          serveRequest.exec { stream with
            incoming
            outgoing := stream.outgoing ++ [0x05, 0x00] }) ∨
      ((∀ rest, GreetedBy stream.unread rest → ¬stream.Accepts 2) ∧
        Fails handleSocks5Client stream) := by
  rw [handleSocks5Client]
  unfold Fails
  rcases exec_readInto_cases (show 2 ≤ HANDSHAKE_BUF_LEN by decide) stream with
    ⟨enough, afterHead, read, leftover⟩ | ⟨short, fails⟩
  swap
  · refine .inr ⟨fun rest greeted => ?_, fails.bind⟩
    exact absurd greeted.two_le_length (Nat.not_le.mpr short)
  obtain ⟨version, nmethods, behind, unread⟩ := exists_cons_cons enough
  rw [Program.exec_bind_of_ok read]
  rw [unread] at leftover ⊢
  simp only [List.take_succ_cons, List.take_zero, List.getD_cons_zero,
    List.getD_cons_succ]
  by_cases current : version = 0x05
  swap
  · rw [if_pos current]
    refine .inr ⟨fun rest greeted => ?_, fails_bail _ _⟩
    exact absurd (greetedBy_cons_iff.mp greeted).1 current
  rw [if_neg (not_not_intro current)]
  have middle : Stream.unread { stream with incoming := afterHead } = behind :=
    leftover
  rcases exec_readMethods_cases nmethods { stream with incoming := afterHead }
    with ⟨all, incoming, methods, rest⟩ | ⟨short, fails⟩
  swap
  · refine .inr ⟨fun rest greeted => ?_, fails.bind⟩
    rw [middle] at short
    exact absurd (greetedBy_cons_iff.mp greeted).2.1 (Nat.not_le.mpr short)
  rw [Program.exec_bind_of_ok methods]
  rw [middle] at all rest ⊢
  by_cases offered : 0x00 ∈ behind.take nmethods.toNat
  · have some : (behind.take nmethods.toNat).any (· == 0x00) = true :=
      List.any_eq_true.mpr ⟨0x00, offered, rfl⟩
    rw [if_neg (not_not_intro some)]
    have greeted : GreetedBy (version :: nmethods :: behind)
        incoming.flatten :=
      greetedBy_cons_iff.mpr ⟨current, all, offered, rest⟩
    rcases exec_writeAll_cases [0x05, 0x00] { stream with incoming } with
      ⟨accepts, written⟩ | ⟨refused, fails⟩
    · exact .inl ⟨incoming, greeted, accepts, Program.exec_bind_of_ok written⟩
    · exact .inr ⟨fun _ _ => refused, fails.bind⟩
  · have none : ¬(behind.take nmethods.toNat).any (· == 0x00) = true := by
      intro some
      obtain ⟨method, member, zero⟩ := List.any_eq_true.mp some
      rw [beq_iff_eq.mp zero] at member
      exact offered member
    rw [if_pos none]
    refine .inr ⟨fun rest greeted => ?_, fails_writeAll_bail _ _ _⟩
    exact absurd (greetedBy_cons_iff.mp greeted).2.2.1 offered

/-! ## The request -/

/-- A request to connect is granted; any other one is an error. -/
theorem exec_serveRequest_cases (stream : Stream) :
    (∃ rsv atyp incoming,
        stream.unread = connectHeader rsv ++ (atyp :: incoming.flatten) ∧
        serveRequest.exec stream =
          (grantTarget atyp).exec { stream with incoming }) ∨
      ((∀ rsv atyp rest,
          stream.unread ≠ connectHeader rsv ++ (atyp :: rest)) ∧
        Fails serveRequest stream) := by
  rw [serveRequest]
  unfold Fails
  rcases exec_readInto_cases (show 4 ≤ HANDSHAKE_BUF_LEN by decide) stream with
    ⟨enough, incoming, read, leftover⟩ | ⟨short, fails⟩
  swap
  · refine .inr ⟨fun rsv atyp rest equal => ?_, fails.bind⟩
    rw [equal] at short
    simp only [connectHeader, List.length_append, List.length_cons] at short
    omega
  obtain ⟨version, cmd, others, unread⟩ :=
    exists_cons_cons (Nat.le_trans (by decide) enough)
  rw [unread] at enough
  obtain ⟨rsv, atyp, behind, rfl⟩ := exists_cons_cons
    (Nat.le_of_succ_le_succ (Nat.le_of_succ_le_succ enough))
  rw [Program.exec_bind_of_ok read]
  rw [unread] at leftover ⊢
  simp only [List.take_succ_cons, List.take_zero, List.getD_cons_zero,
    List.getD_cons_succ]
  by_cases current : version = 0x05
  swap
  · rw [if_pos current]
    refine .inr ⟨fun rsv atyp rest equal => ?_, fails_bail _ _⟩
    exact current (List.cons.inj equal).1
  rw [if_neg (not_not_intro current)]
  by_cases connects : cmd = 0x01
  swap
  · rw [if_pos connects]
    refine .inr ⟨fun rsv atyp rest equal => ?_, fails_writeAll_bail _ _ _⟩
    exact connects (List.cons.inj (List.cons.inj equal).2).1
  rw [if_neg (not_not_intro connects)]
  refine .inl ⟨rsv, atyp, incoming, ?_, rfl⟩
  rw [current, connects, leftover]
  rfl

/-! ## The requested address -/

/-- A front and a port are the buffer they were read from. -/
theorem take_append_port
    {size : Nat}
    {buf : Bytes}
    (length : buf.length = size + 2) :
    buf.take size ++ u16Be (u16FromBuffer (buf.drop size)) = buf := by
  have two : (buf.drop size).length = 2 := by
    rw [List.length_drop]
    omega
  rw [u16Be_u16FromBuffer _ two, List.take_append_drop]

/-- Octets and a port are the buffer they were read from. -/
theorem octets_append_port
    {size : Nat}
    {buf : Bytes}
    (length : buf.length = size + 2) :
    (Block.ofBytes size buf).toList ++ u16Be (u16FromBuffer (buf.drop size)) =
      buf := by
  have front : (Block.ofBytes size buf).toList = buf.take size :=
    List.takeD_eq_take 0 (by omega)
  rw [front, take_append_port length]

/-- What a wire address says about the bytes it is in front of. -/
theorem cons_eq_wireBytes_append
    {target : TargetAddr}
    (wire : target.IsWire)
    (someTarget : target ≠ .none)
    {atyp : UInt8}
    {unread rest : Bytes}
    (equal : atyp :: unread = target.wireBytes ++ rest) :
    (atyp = 0x01 ∧ 6 ≤ unread.length) ∨ (atyp = 0x04 ∧ 18 ≤ unread.length) ∨
      (atyp = 0x03 ∧ ∃ len name, unread = len :: name ∧ len ≠ 0 ∧
        len.toNat + 2 ≤ name.length ∧
        (Text.fromUtf8 (name.take len.toNat)).isSome = true) := by
  cases target with
  | none => exact absurd rfl someTarget
  | ipV4 address =>
      obtain ⟨rfl, rfl⟩ := List.cons.inj equal
      refine .inl ⟨rfl, ?_⟩
      change 6 ≤ (address.ip.toList ++ u16Be address.port ++ rest).length
      simp only [List.length_append, Block.length_toList, length_u16Be]
      omega
  | ipV6 address =>
      obtain ⟨rfl, rfl⟩ := List.cons.inj equal
      refine .inr (.inl ⟨rfl, ?_⟩)
      change 18 ≤ (address.ip.toList ++ u16Be address.port ++ rest).length
      simp only [List.length_append, Block.length_toList, length_u16Be]
      omega
  | domain name port =>
      obtain ⟨positive, short⟩ := wire
      have length := toNat_ofNat_length_u8 short
      obtain ⟨rfl, rfl⟩ := List.cons.inj equal
      refine .inr (.inr ⟨rfl, UInt8.ofNat (Text.utf8Bytes name).length,
        Text.utf8Bytes name ++ u16Be port ++ rest, rfl, ?_, ?_, ?_⟩)
      · intro zero
        rw [zero] at length
        change 0 = (Text.utf8Bytes name).length at length
        omega
      · rw [length]
        simp only [List.length_append, length_u16Be]
        omega
      · rw [length, List.append_assoc, List.take_left, Text.fromUtf8_utf8Bytes]
        rfl

/-- How reading an address ends. -/
inductive TargetOutcome (atyp : UInt8) (stream : Stream) : Prop
  | read (target : TargetAddr) (incoming : List Bytes)
      (reads : ReadsTarget (atyp :: stream.unread) target incoming.flatten)
      (notLong : ¬LongDomain (atyp :: stream.unread))
      (executed : (readTarget atyp).exec stream =
        (.ok target, { stream with incoming }))
  | panicked (next : Stream)
      (long : LongDomain (atyp :: stream.unread))
      (executed : (readTarget atyp).exec stream = (.error .panic, next))
  | failed
      (reads : ∀ target rest,
        ¬ReadsTarget (atyp :: stream.unread) target rest)
      (notLong : ¬LongDomain (atyp :: stream.unread))
      (fails : Fails (readTarget atyp) stream)

/-- A fixed-size address is read when enough bytes are there. -/
theorem targetOutcome_of_octets
    {atyp : UInt8}
    {size : Nat}
    {build : Bytes → TargetAddr}
    {stream : Stream}
    (program : readTarget atyp = do
      let buf ← readInto (size + 2)
      return build buf)
    (fits : size + 2 ≤ HANDSHAKE_BUF_LEN)
    (notDomain : atyp ≠ 0x03)
    (built : ∀ buf : Bytes, buf.length = size + 2 →
      (build buf).IsWire ∧ build buf ≠ .none ∧
        (build buf).wireBytes = atyp :: buf)
    (needed : ∀ target rest, ReadsTarget (atyp :: stream.unread) target rest →
      size + 2 ≤ stream.unread.length) :
    TargetOutcome atyp stream := by
  have notLong : ¬LongDomain (atyp :: stream.unread) := by
    rintro ⟨rest, equal⟩
    exact notDomain (List.cons.inj equal).1
  rcases exec_readInto_cases fits stream with
    ⟨enough, incoming, read, leftover⟩ | ⟨short, fails⟩
  · obtain ⟨wire, someTarget, bytes⟩ :=
      built (stream.unread.take (size + 2)) (List.length_take_of_le enough)
    refine .read _ incoming ⟨wire, someTarget, ?_⟩ notLong ?_
    · rw [bytes, leftover, List.cons_append, List.take_append_drop]
    · rw [program, Program.exec_bind_of_ok read]
      rfl
  · refine .failed (fun target rest reads => ?_) notLong ?_
    · exact absurd (needed target rest reads) (Nat.not_le.mpr short)
    · rw [program]
      exact fails.bind

/-- A domain that is requested has its length in front and is UTF-8. -/
theorem ReadsTarget.domain
    {bytes rest : Bytes}
    {target : TargetAddr}
    (reads : ReadsTarget (0x03 :: bytes) target rest) :
    ∃ len name, bytes = len :: name ∧ len ≠ 0 ∧ len.toNat + 2 ≤ name.length ∧
      (Text.fromUtf8 (name.take len.toNat)).isSome = true := by
  obtain ⟨wire, someTarget, equal⟩ := reads
  rcases cons_eq_wireBytes_append wire someTarget equal with
    ⟨other, -⟩ | ⟨other, -⟩ | ⟨-, domain⟩
  · exact absurd other (by decide)
  · exact absurd other (by decide)
  · exact domain

/-- Read the bytes of a domain and its port. -/
def readName (domainLen : Nat) : Handler Stream TargetAddr := do
  let buf ← readInto (domainLen + 2)
  match Text.fromUtf8 (buf.take domainLen) with
  | none => Program.failWith (.error (.utf8 (buf.take domainLen)))
  | some domain => return .domain domain (u16FromBuffer (buf.drop domainLen))

/-- Read a domain, length first. -/
def readDomain : Handler Stream TargetAddr := do
  let buf ← readInto 1
  let domainLen := (buf.getD 0 0).toNat
  if domainLen = 0 ∨ domainLen > 255 then
    bail ("Invalid domain length: " ++ toString domainLen)
  else readName domainLen

/-- A target of the domain type is a domain. -/
theorem exec_readTarget_domain (stream : Stream) :
    (readTarget 0x03).exec stream = readDomain.exec stream := rfl

/-- A name shorter than 255 bytes is read when it is there with its port and is
UTF-8. -/
theorem exec_readName_cases
    {domainLen : Nat}
    (short : domainLen < 255)
    (stream : Stream) :
    (∃ domain incoming, domainLen + 2 ≤ stream.unread.length ∧
        Text.utf8Bytes domain = stream.unread.take domainLen ∧
        incoming.flatten = stream.unread.drop (domainLen + 2) ∧
        (readName domainLen).exec stream =
          (.ok (.domain domain (u16FromBuffer
            ((stream.unread.take (domainLen + 2)).drop domainLen))),
            { stream with incoming })) ∨
      ((domainLen + 2 ≤ stream.unread.length →
          Text.fromUtf8 (stream.unread.take domainLen) = none) ∧
        Fails (readName domainLen) stream) := by
  have fits : domainLen + 2 ≤ HANDSHAKE_BUF_LEN := by
    unfold HANDSHAKE_BUF_LEN
    omega
  unfold Fails readName
  rcases exec_readInto_cases fits stream with
    ⟨enough, incoming, read, leftover⟩ | ⟨tooShort, fails⟩
  swap
  · exact .inr ⟨fun enough => absurd enough (Nat.not_le.mpr tooShort),
      fails.bind⟩
  rw [Program.exec_bind_of_ok read, List.take_take,
    Nat.min_eq_left (Nat.le_add_right _ 2)]
  cases decoded : Text.fromUtf8 (stream.unread.take domainLen) with
  | none => exact .inr ⟨fun _ => rfl, _, _, rfl⟩
  | some domain =>
      exact .inl ⟨domain, incoming, enough,
        Text.utf8Bytes_of_fromUtf8 decoded, leftover, rfl⟩

/-- A domain whose length and bytes are in front is the wire address in front of
what follows. -/
theorem readsTarget_of_name
    {len : UInt8}
    (positive : len.toNat ≠ 0)
    {name : Bytes}
    (all : len.toNat + 2 ≤ name.length)
    {domain : String}
    (text : Text.utf8Bytes domain = name.take len.toNat) :
    ReadsTarget (0x03 :: len :: name)
      (.domain domain (u16FromBuffer
        ((name.take (len.toNat + 2)).drop len.toNat)))
      (name.drop (len.toNat + 2)) := by
  have small := len.toNat_lt
  have length : (Text.utf8Bytes domain).length = len.toNat := by
    rw [text]
    exact List.length_take_of_le (by omega)
  have buffer := take_append_port (List.length_take_of_le all)
  rw [List.take_take, Nat.min_eq_left (Nat.le_add_right _ 2)] at buffer
  refine ⟨?_, TargetAddr.noConfusion, ?_⟩
  · change 0 < (Text.utf8Bytes domain).length ∧
      (Text.utf8Bytes domain).length ≤ 255
    omega
  · rw [TargetAddr.wireBytes, length, UInt8.ofNat_toNat, text, buffer,
      List.append_assoc, List.take_append_drop]
    rfl

/-- A domain is read when enough bytes of UTF-8 are there; one of 255 bytes does
not fit the buffer. -/
theorem targetOutcome_of_domain (stream : Stream) :
    TargetOutcome 0x03 stream := by
  have same := exec_readTarget_domain stream
  rcases exec_readInto_cases (show 1 ≤ HANDSHAKE_BUF_LEN by decide) stream with
    ⟨enough, afterLen, read, leftover⟩ | ⟨short, fails⟩
  swap
  · have empty : stream.unread = [] := List.length_eq_zero_iff.mp (by omega)
    obtain ⟨error, next, failed⟩ := fails.bind
    refine .failed ?_ ?_ ⟨error, next, same.trans failed⟩
    · intro target rest reads
      obtain ⟨len, name, unread, -⟩ := reads.domain
      rw [empty] at unread
      cases unread
    · rintro ⟨rest, equal⟩
      rw [empty] at equal
      cases equal
  obtain ⟨len, name, unread⟩ := List.length_pos_iff_exists_cons.mp enough
  rw [unread] at leftover read
  have continues := same.trans (Program.exec_bind_of_ok read)
  simp only [List.take_succ_cons, List.take_zero, List.getD_cons_zero]
    at continues
  have small := len.toNat_lt
  by_cases zero : len = 0
  · subst zero
    refine .failed ?_ ?_ ⟨_, _, continues.trans rfl⟩
    · intro target rest reads
      rw [unread] at reads
      obtain ⟨other, _, same, nonzero, -⟩ := reads.domain
      exact nonzero (List.cons.inj same).1.symm
    · rintro ⟨rest, equal⟩
      rw [unread] at equal
      exact absurd (List.cons.inj (List.cons.inj equal).2).1 (by decide)
  have positive : len.toNat ≠ 0 := fun none => zero (UInt8.toNat_inj.mp none)
  rw [if_neg (by omega)] at continues
  by_cases long : len = 0xFF
  · subst long
    exact .panicked _ ⟨name, by rw [unread]⟩ (continues.trans rfl)
  have notMax : len.toNat ≠ 255 := fun max => long (UInt8.toNat_inj.mp max)
  have notLong : ¬LongDomain (0x03 :: stream.unread) := by
    rintro ⟨rest, equal⟩
    rw [unread] at equal
    exact long (List.cons.inj (List.cons.inj equal).2).1
  have middle : Stream.unread { stream with incoming := afterLen } = name :=
    leftover
  rcases exec_readName_cases (show len.toNat < 255 by omega)
    { stream with incoming := afterLen } with
    ⟨domain, incoming, all, text, behind, named⟩ | ⟨invalid, fails⟩
  · rw [middle] at all text behind named
    refine .read _ incoming ?_ notLong (continues.trans named)
    rw [unread, behind]
    exact readsTarget_of_name positive all text
  · rw [middle] at invalid
    obtain ⟨error, next, failed⟩ := fails
    refine .failed ?_ notLong ⟨error, next, continues.trans failed⟩
    intro target rest reads
    rw [unread] at reads
    obtain ⟨other, others, same, -, all, valid⟩ := reads.domain
    obtain ⟨rfl, rfl⟩ := List.cons.inj same
    rw [invalid all] at valid
    cases valid

/-- Every way reading an address can end. -/
theorem readTarget_outcome
    (atyp : UInt8)
    (stream : Stream) :
    TargetOutcome atyp stream := by
  by_cases isIpV4 : atyp = 0x01
  · subst isIpV4
    refine targetOutcome_of_octets rfl (by decide) (by decide) ?_ ?_
    · intro buf length
      refine ⟨trivial, TargetAddr.noConfusion, ?_⟩
      exact congrArg (0x01 :: ·) (octets_append_port length)
    · rintro target rest ⟨wire, someTarget, equal⟩
      rcases cons_eq_wireBytes_append wire someTarget equal with
        ⟨-, enough⟩ | ⟨other, -⟩ | ⟨other, -⟩
      · exact enough
      · exact absurd other (by decide)
      · exact absurd other (by decide)
  by_cases isIpV6 : atyp = 0x04
  · subst isIpV6
    refine targetOutcome_of_octets rfl (by decide) (by decide) ?_ ?_
    · intro buf length
      refine ⟨⟨rfl, rfl⟩, TargetAddr.noConfusion, ?_⟩
      exact congrArg (0x04 :: ·) (octets_append_port length)
    · rintro target rest ⟨wire, someTarget, equal⟩
      rcases cons_eq_wireBytes_append wire someTarget equal with
        ⟨other, -⟩ | ⟨-, enough⟩ | ⟨other, -⟩
      · exact absurd other (by decide)
      · exact enough
      · exact absurd other (by decide)
  by_cases isDomain : atyp = 0x03
  swap
  · have failed : readTarget atyp =
        bail ("Unsupported SOCKS5 address type: " ++ hexLiteral atyp) := by
      rw [readTarget, if_neg isIpV4, if_neg isDomain, if_neg isIpV6]
    refine .failed ?_ ?_ ?_
    · rintro target rest ⟨wire, someTarget, equal⟩
      rcases cons_eq_wireBytes_append wire someTarget equal with
        ⟨other, -⟩ | ⟨other, -⟩ | ⟨other, -⟩
      · exact isIpV4 other
      · exact isIpV6 other
      · exact isDomain other
    · rintro ⟨rest, equal⟩
      exact isDomain (List.cons.inj equal).1
    · rw [failed]
      exact fails_bail _ _
  subst isDomain
  exact targetOutcome_of_domain stream

/-! ## The whole handshake -/

/-- How the handshake ends: with a tunnel to the requested target on the rest of
the bytes, with a panic on a domain of 255 bytes, or with an error. -/
inductive HandshakeOutcome (stream : Stream) : Prop
  | tunnel (target : TargetAddr) (next : Stream)
      (requests : Requests stream.unread target next.unread)
      (accepts : stream.Accepts 12)
      (notLong : ¬RequestsLongDomain stream.unread)
      (outgoing : next.outgoing =
        stream.outgoing ++ ([0x05, 0x00] ++ successReply))
      (executed : handleSocks5Client.exec stream = (.ok target, next))
  | panicked (next : Stream)
      (long : RequestsLongDomain stream.unread)
      (accepts : stream.Accepts 2)
      (executed : handleSocks5Client.exec stream = (.error .panic, next))
  | failed
      (refused : ∀ target rest, Requests stream.unread target rest →
        ¬stream.Accepts 12)
      (notLong : RequestsLongDomain stream.unread → ¬stream.Accepts 2)
      (fails : Fails handleSocks5Client stream)

/-- After the first reply, the second one takes ten bytes more. -/
theorem accepts_successReply_iff
    (stream : Stream)
    (incoming : List Bytes) :
    Stream.Accepts { stream with
        incoming
        outgoing := stream.outgoing ++ [0x05, 0x00] } successReply.length ↔
      stream.Accepts 12 := by
  have ten : successReply.length = 10 := by decide
  rw [ten]
  unfold Stream.Accepts
  simp only [List.length_append, List.length_cons, List.length_nil]

/-- What is read as a target starts with its type byte. -/
theorem ReadsTarget.exists_cons
    {bytes rest : Bytes}
    {target : TargetAddr}
    (reads : ReadsTarget bytes target rest) :
    ∃ atyp others, bytes = atyp :: others := by
  obtain ⟨-, -, rfl⟩ := reads
  cases target with
  | none => exact ⟨_, _, rfl⟩
  | ipV4 address => exact ⟨_, _, rfl⟩
  | ipV6 address => exact ⟨_, _, rfl⟩
  | domain name port => exact ⟨_, _, rfl⟩

/-- Every way the handshake can end. -/
theorem handshake_outcome (stream : Stream) : HandshakeOutcome stream := by
  rcases exec_handleSocks5Client_cases stream with
    ⟨afterGreeting, greeted, acceptsMethod, greet⟩ | ⟨refused, fails⟩
  swap
  · refine .failed ?_ ?_ fails
    · rintro target rest ⟨rsv, behind, greeted, -⟩ accepts
      exact refused _ greeted (accepts.mono (by decide))
    · rintro ⟨rsv, behind, greeted, -⟩
      exact refused _ greeted
  rcases exec_serveRequest_cases { stream with
      incoming := afterGreeting
      outgoing := stream.outgoing ++ [0x05, 0x00] } with
    ⟨rsv, atyp, afterHeader, header, serve⟩ | ⟨noHeader, fails⟩
  swap
  · obtain ⟨error, next, failed⟩ := fails
    refine .failed ?_ ?_ ⟨error, next, greet.trans failed⟩
    · rintro target rest ⟨rsv, behind, otherGreeted, reads⟩
      obtain ⟨atyp, others, rfl⟩ := reads.exists_cons
      exact absurd (greeted.unique otherGreeted) (noHeader rsv atyp others)
    · rintro ⟨rsv, behind, otherGreeted, ⟨others, rfl⟩⟩
      exact absurd (greeted.unique otherGreeted) (noHeader rsv 0x03 _)
  have header : afterGreeting.flatten =
      connectHeader rsv ++ (atyp :: afterHeader.flatten) := header
  rw [header] at greeted
  have same : ∀ otherRsv behind,
      GreetedBy stream.unread (connectHeader otherRsv ++ behind) →
        behind = atyp :: afterHeader.flatten := by
    intro otherRsv behind otherGreeted
    exact (List.append_inj (otherGreeted.unique greeted) rfl).2
  cases readTarget_outcome atyp { stream with
      incoming := afterHeader
      outgoing := stream.outgoing ++ [0x05, 0x00] } with
  | read target incoming reads notLong executed =>
      have requests : Requests stream.unread target incoming.flatten :=
        ⟨rsv, _, greeted, reads⟩
      have noLong : ¬RequestsLongDomain stream.unread := by
        rintro ⟨otherRsv, behind, otherGreeted, long⟩
        rw [same otherRsv behind otherGreeted] at long
        exact notLong long
      have read := (greet.trans serve).trans
        (Program.exec_bind_of_ok executed)
      rcases exec_writeAll_cases successReply { stream with
          incoming
          outgoing := stream.outgoing ++ [0x05, 0x00] } with
        ⟨accepts, written⟩ | ⟨refused, fails⟩
      · rw [accepts_successReply_iff] at accepts
        refine .tunnel target { stream with
            incoming
            outgoing := stream.outgoing ++ [0x05, 0x00] ++ successReply }
          requests accepts noLong (List.append_assoc _ _ _)
          (read.trans (Program.exec_bind_of_ok written))
      · rw [accepts_successReply_iff] at refused
        obtain ⟨error, next, failed⟩ := fails.bind
        exact .failed (fun _ _ _ => refused) (fun long => absurd long noLong)
          ⟨error, next, read.trans failed⟩
  | panicked next long executed =>
      exact .panicked next ⟨rsv, _, greeted, long⟩ acceptsMethod
        ((greet.trans serve).trans (Program.exec_bind_of_error executed))
  | failed reads notLong fails =>
      obtain ⟨error, next, failed⟩ := fails.bind
      refine .failed ?_ ?_ ⟨error, next, (greet.trans serve).trans failed⟩
      · rintro target rest ⟨otherRsv, behind, otherGreeted, others⟩
        rw [same otherRsv behind otherGreeted] at others
        exact absurd others (reads target rest)
      · rintro ⟨otherRsv, behind, otherGreeted, long⟩
        rw [same otherRsv behind otherGreeted] at long
        exact absurd long notLong

/-- The property of a handshake: it does not panic, and it reaches the tunnel
exactly with the targets the application requests, once both replies are
accepted. -/
def ServesRequests (stream : Stream) : Prop :=
  (∀ next, handleSocks5Client.exec stream ≠ (.error .panic, next)) ∧
    ∀ target, (∃ next, handleSocks5Client.exec stream = (.ok target, next)) ↔
      (∃ rest, Requests stream.unread target rest) ∧ stream.Accepts 12

/-- The requested target and what follows the request are determined by the
bytes. -/
theorem Requests.unique
    {bytes firstRest secondRest : Bytes}
    {first second : TargetAddr}
    (firstRequests : Requests bytes first firstRest)
    (secondRequests : Requests bytes second secondRest) :
    first = second ∧ firstRest = secondRest := by
  obtain ⟨rsv, behind, greeted, wire, -, rfl⟩ := firstRequests
  obtain ⟨otherRsv, otherBehind, otherGreeted, otherWire, -, rfl⟩ :=
    secondRequests
  obtain ⟨-, equal⟩ := List.append_inj (greeted.unique otherGreeted) rfl
  have decoded := TargetAddr.decode_wireBytes wire firstRest
  rw [equal, TargetAddr.decode_wireBytes otherWire] at decoded
  obtain ⟨targets, rests⟩ := Prod.mk.inj (Except.ok.inj decoded)
  exact ⟨targets.symm, rests.symm⟩

/-- The handshake serves exactly its grammar unless a domain of 255 bytes is
requested and the reply to the greeting is accepted. -/
theorem servesRequests_iff (stream : Stream) :
    ServesRequests stream ↔
      ¬(RequestsLongDomain stream.unread ∧ stream.Accepts 2) := by
  cases handshake_outcome stream with
  | tunnel target next requests accepts notLong outgoing executed =>
      refine iff_of_true ⟨fun other panicked => ?_, fun other => ?_⟩
        fun long => notLong long.1
      · rw [executed] at panicked
        cases panicked
      · constructor
        · rintro ⟨final, reached⟩
          rw [executed] at reached
          obtain ⟨sameTarget, -⟩ := Prod.mk.inj reached
          obtain rfl := Except.ok.inj sameTarget
          exact ⟨⟨next.unread, requests⟩, accepts⟩
        · rintro ⟨⟨rest, otherRequests⟩, -⟩
          rw [(otherRequests.unique requests).1]
          exact ⟨next, executed⟩
  | panicked next long accepts executed =>
      exact iff_of_false (fun serves => serves.1 next executed)
        (not_not_intro ⟨long, accepts⟩)
  | failed refused notLong fails =>
      obtain ⟨error, next, failed⟩ := fails
      refine iff_of_true ⟨fun other panicked => ?_, fun target => ?_⟩
        fun long => notLong long.1 long.2
      · rw [failed] at panicked
        cases panicked
      · constructor
        · rintro ⟨final, reached⟩
          rw [failed] at reached
          cases reached
        · rintro ⟨⟨rest, requests⟩, accepts⟩
          exact absurd accepts (refused target rest requests)

/-- A domain of 255 bytes. -/
def longDomainTarget : TargetAddr :=
  .domain (String.ofList (List.replicate 255 'a')) 443

/-- An application that requests a domain of 255 bytes. -/
def longDomainStream : Stream :=
  .ofSegments [greeting [0x00] ++
    (connectHeader 0x00 ++ longDomainTarget.wireBytes)]

/-- The domain has 255 bytes. -/
theorem length_longDomain :
    (Text.utf8Bytes (String.ofList (List.replicate 255 'a'))).length = 255 := by
  have ascii : ∀ char ∈ List.replicate 255 'a', Text.IsAscii char := by
    intro char member
    rw [List.eq_of_mem_replicate member]
    decide
  rw [Text.utf8Bytes, String.toList_ofList, Text.charBytes_of_ascii ascii,
    List.length_map, List.length_replicate]

/-- A domain of 255 bytes has that length in front. -/
theorem longDomain_wireBytes
    {name : String}
    {port : UInt16}
    (length : (Text.utf8Bytes name).length = 255) :
    LongDomain (TargetAddr.domain name port).wireBytes := by
  refine ⟨Text.utf8Bytes name ++ u16Be port, ?_⟩
  rw [TargetAddr.wireBytes, length]
  rfl

/-- A request for a domain of 255 bytes is in the grammar, and a panic. -/
theorem panic_of_longDomainStream :
    Requests longDomainStream.unread longDomainTarget [] ∧
      (handleSocks5Client.exec longDomainStream).1 = .error .panic := by
  have length := length_longDomain
  have greeted : GreetedBy longDomainStream.unread
      (connectHeader 0x00 ++ longDomainTarget.wireBytes) :=
    ⟨[0x00], by decide, by decide, List.append_nil _⟩
  have wire : longDomainTarget.IsWire := by
    change 0 < (Text.utf8Bytes _).length ∧ (Text.utf8Bytes _).length ≤ 255
    rw [length]
    decide
  have requests : Requests longDomainStream.unread longDomainTarget [] :=
    ⟨0x00, longDomainTarget.wireBytes, greeted, wire, TargetAddr.noConfusion,
      (List.append_nil _).symm⟩
  have requestsLong : RequestsLongDomain longDomainStream.unread :=
    ⟨0x00, longDomainTarget.wireBytes, greeted, longDomain_wireBytes length⟩
  refine ⟨requests, ?_⟩
  cases handshake_outcome longDomainStream with
  | tunnel target next _ _ notLong _ _ => exact absurd requestsLong notLong
  | panicked next _ _ executed => rw [executed]
  | failed _ notLong _ =>
      refine absurd ?_ (notLong requestsLong)
      intro limit error limited
      cases limited

end Client
end GhostProtocol
