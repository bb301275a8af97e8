import GhostProtocol.Common.Config
import GhostProtocol.Common.Error
import GhostProtocol.Foundation.Select
import GhostProtocol.Relay.Send
import Mathlib.Data.Finset.Basic

/-!
# The server side of a tunnel

A connection starts with a user id, which must be allowed, and one sealed
frame, which must open under the key of that user and name a target.  The
server connects to the target and forwards the payload of that frame.  From
then on a receiving loop uploads what the client sends and a sending loop
downloads what the target writes, until the first of the two ends.
-/

namespace GhostProtocol
namespace Server

open Foundation Foundation.AsyncTask Common Crypto Relay

/-- Lower-case hexadecimal text. -/
def hexEncode (data : Bytes) : String :=
  Text.hexEncode data

/-- The secret from which the keys of all users are derived. -/
def secret : Bytes :=
  Text.utf8Bytes "ghost_default_key!"

/-- What all connections share. -/
structure ServerState where
  allowedUsers : Finset String
  config : ServerConfig

/-- The shared state of a server with the given settings. -/
def ServerState.ofConfig (config : ServerConfig) : ServerState where
  allowedUsers := config.allowedUsers.toFinset
  config

/-- The other end of an outbound connection: the segments it sends, how they
end, and how many bytes it accepts if not all. -/
structure Remote where
  incoming : List Bytes
  ending : Option IoError
  limit : Option (Nat × IoError)

/-- A connection on which nothing has been written. -/
def Remote.stream (remote : Remote) : Stream :=
  { remote with outgoing := [] }

/-- The outside of the server: name resolution and outbound connections. -/
structure Network where
  lookupHost : String → Except IoError (List SocketAddr)
  connect : SocketAddr → Except IoError Remote

/-- Everything a connection handler touches: the connections to the client and
to the target, the names looked up and the addresses connected to. -/
structure World where
  client : Stream
  target : Stream
  lookups : List String
  dialed : List SocketAddr

/-- The world of a new client connection. -/
def World.start (client : Stream) : World where
  client
  target := Stream.ofSegments []
  lookups := []
  dialed := []

/-- An operation on the connection to the client. -/
def onClient
    (operation : Stream → Except IoError α × Stream) : Handler World α :=
  Program.onStream World.client (fun world client => { world with client })
    operation fun error => .error (.io error)

/-- An operation on the connection to the target. -/
def onTarget
    (operation : Stream → Except IoError α × Stream) : Handler World α :=
  Program.onStream World.target (fun world target => { world with target })
    operation fun error => .error (.io error)

/-- The name and port of a domain as one text. -/
def hostPort (domain : String) (port : UInt16) : String :=
  domain ++ ":" ++ toString port.toNat

/-- Resolve the target of a frame to a socket address. -/
def resolveTarget
    (network : Network) : TargetAddr → Handler World SocketAddr
  | .none => bail "No target address in init frame"
  | .ipV4 address => return .v4 address
  | .ipV6 address => return .v6 address
  | .domain domain port => do
      let addr := hostPort domain port
      Program.update fun world =>
        { world with lookups := world.lookups ++ [addr] }
      match network.lookupHost addr with
      | .error error =>
          Program.failWith (.error (.context
            ("DNS resolution failed for " ++ addr) (.io error)))
      | .ok addrs =>
          match addrs with
          | [] => bail ("No addresses found for " ++ addr)
          | first :: _ => return first

/-- Connect to an address on behalf of a target. -/
def connectTarget
    (network : Network)
    (target : TargetAddr)
    (address : SocketAddr) : Handler World Unit := do
  Program.update fun world =>
    { world with dialed := world.dialed ++ [address] }
  match network.connect address with
  | .error error =>
      Program.failWith (.error (.targetContext target (.io error)))
  | .ok remote =>
      Program.update fun world => { world with target := remote.stream }

/-- What is known of a client once its tunnel is open. -/
structure Session where
  userId : UserId
  cipher : GhostCipher
  frame : GhostFrame
  address : SocketAddr

/-- Read the user id of a client and check that it is allowed. -/
def authorizeUser (state : ServerState) : Handler World UserId := do
  let idBytes ← onClient (Stream.readExact USER_ID_LEN)
  let userId := Block.ofBytes USER_ID_LEN idBytes
  let userIdHex := hexEncode userId.toList
  if userIdHex ∉ state.allowedUsers then
    bail ("Unauthorized user: " ++ userIdHex)
  else return userId

/-- Read the first frame of a client. -/
def readInitFrame (cipher : GhostCipher) : Handler World GhostFrame := do
  let lenBuf ← onClient (Stream.readExact 2)
  let frameLen := (u16FromBuffer lenBuf).toNat
  if frameLen > ENC_BUF_LEN then
    bail ("Init frame too large: " ++ toString frameLen)
  else
    let encryptedData ← onClient (Stream.readExact frameLen)
    let plaintext ← liftCrypto (cipher.decrypt encryptedData)
    liftProtocol (GhostFrame.decode plaintext)

/-- Forward the payload of the first frame, if it has one. -/
def forwardPayload (frame : GhostFrame) : Handler World Unit :=
  if frame.payload ≠ [] then onTarget (Stream.writeAll frame.payload)
  else pure ()

/-- Handle a client connection up to the start of its relay. -/
def handleConnection
    (provider : Provider)
    (network : Network)
    (state : ServerState) : Handler World Session := do
  let userId ← authorizeUser state
  let key := deriveKey provider userId secret
  let cipher ← liftCrypto (GhostCipher.new provider.aead key.toList)
  let frame ← readInitFrame cipher
  let address ← resolveTarget network frame.target
  connectTarget network frame.target address
  forwardPayload frame
  return { userId, cipher, frame, address }

/-! ## What each phase does -/

/-- Reading a block in front of what the client sends. -/
theorem exec_readExact_append
    (world : World)
    {block rest : Bytes}
    (unread : world.client.unread = block ++ rest) :
    ∃ client, (onClient (Stream.readExact block.length)).exec world =
        (.ok block, { world with client }) ∧
      client.unread = rest := by
  obtain ⟨incoming, success, leftover⟩ := Stream.readExact_append unread
  refine ⟨{ world.client with incoming }, ?_, leftover⟩
  rw [onClient, Program.exec_onStream, success]
  rfl

/-- A read from the client fails, or takes the block in front of what the
client sends. -/
theorem exec_readExact_cases (count : Nat) (world : World) :
    (∃ fault client, (onClient (Stream.readExact count)).exec world =
        (.error fault, { world with client })) ∨
      (∃ block client, (onClient (Stream.readExact count)).exec world =
          (.ok block, { world with client }) ∧
        block.length = count ∧
        world.client.unread = block ++ client.unread) := by
  by_cases enough : count ≤ world.client.unread.length
  · right
    obtain ⟨incoming, success, leftover⟩ := Stream.readExact_of_le enough
    refine ⟨_, { world.client with incoming }, ?_,
      List.length_take_of_le enough, ?_⟩
    · rw [onClient, Program.exec_onStream, success]
      rfl
    · rw [show Stream.unread { world.client with incoming } =
        incoming.flatten from rfl, leftover, List.take_append_drop]
  · left
    refine ⟨.error (.io (world.client.ending.getD .unexpectedEof)),
      { world.client with incoming := [] }, ?_⟩
    rw [onClient, Program.exec_onStream,
      Stream.readExact_of_lt (Nat.not_le.mp enough)]
    rfl

/-- A client is turned away, or the id it sent first is allowed. -/
theorem authorizeUser_cases (state : ServerState) (world : World) :
    (∃ fault client, (authorizeUser state).exec world =
        (.error fault, { world with client })) ∨
      (∃ userId client, (authorizeUser state).exec world =
          (.ok userId, { world with client }) ∧
        hexEncode userId.toList ∈ state.allowedUsers ∧
        world.client.unread = userId.toList ++ client.unread) := by
  rw [authorizeUser, Program.exec_bind]
  rcases exec_readExact_cases USER_ID_LEN world with
    ⟨fault, client, failed⟩ | ⟨block, client, read, length, unread⟩
  · left
    exact ⟨fault, client, by rw [failed]⟩
  · obtain ⟨userId, rfl⟩ : ∃ userId : UserId, userId.toList = block :=
      ⟨⟨block, length⟩, rfl⟩
    rw [read]
    simp only [Block.ofBytes_toList]
    by_cases allowed : hexEncode userId.toList ∈ state.allowedUsers
    · right
      exact ⟨userId, client, by simp [allowed], allowed, unread⟩
    · left
      exact ⟨_, client, by simp [allowed]; rfl⟩

/-- An allowed id in front of what the client sends is accepted. -/
theorem authorizeUser_of_append
    {state : ServerState}
    {world : World}
    {userId : UserId}
    {rest : Bytes}
    (allowed : hexEncode userId.toList ∈ state.allowedUsers)
    (bytes : world.client.unread = userId.toList ++ rest) :
    ∃ client, (authorizeUser state).exec world =
        (.ok userId, { world with client }) ∧
      client.unread = rest := by
  obtain ⟨client, read, unread⟩ := exec_readExact_append world bytes
  rw [Block.length_toList] at read
  refine ⟨client, ?_, unread⟩
  rw [authorizeUser, Program.exec_bind_of_ok read, Block.ofBytes_toList]
  simp [allowed]

/-- The first frame is refused, or it is the frame sealed in the blob that the
client sent next. -/
theorem readInitFrame_cases (cipher : GhostCipher) (world : World) :
    (∃ fault client, (readInitFrame cipher).exec world =
        (.error fault, { world with client })) ∨
      (∃ frame blob client, (readInitFrame cipher).exec world =
          (.ok frame, { world with client }) ∧
        openFrame cipher blob = some frame ∧ blob.length < 65536 ∧
        world.client.unread = frameBytes blob ++ client.unread) := by
  rw [readInitFrame, Program.exec_bind]
  rcases exec_readExact_cases 2 world with
    ⟨fault, client, failed⟩ | ⟨lenBuf, client, read, two, unread⟩
  · left
    exact ⟨fault, client, by rw [failed]⟩
  · rw [read]
    have bound := (u16FromBuffer lenBuf).toNat_lt
    have fits : ¬(u16FromBuffer lenBuf).toNat > ENC_BUF_LEN := by
      unfold ENC_BUF_LEN
      omega
    simp only [if_neg fits]
    rw [Program.exec_bind]
    rcases exec_readExact_cases (u16FromBuffer lenBuf).toNat
        { world with client } with
      ⟨fault, after, failed⟩ | ⟨blob, after, readBlob, length, unreadBlob⟩
    · left
      exact ⟨fault, after, by rw [failed]⟩
    · rw [readBlob]
      simp only [Program.exec_bind]
      cases opened : cipher.decrypt blob with
      | error error =>
          left
          exact ⟨_, after, rfl⟩
      | ok plaintext =>
          cases decoded : GhostFrame.decode plaintext with
          | error fault =>
              left
              refine ⟨protocolFault fault, after, ?_⟩
              simp only [exec_liftCrypto_ok, decoded]
              rfl
          | ok frame =>
              right
              refine ⟨frame, blob, after, ?_, ?_, ?_, ?_⟩
              · simp only [exec_liftCrypto_ok, decoded]
                rfl
              · rw [openFrame, opened]
                simp only [decoded]
              · rw [length]
                exact bound
              · have lengthBytes : u16Be (UInt16.ofNat blob.length) = lenBuf := by
                  rw [length, UInt16.ofNat_toNat, u16Be_u16FromBuffer lenBuf two]
                rw [frameBytes, lengthBytes, unread, List.append_assoc]
                exact congrArg _ unreadBlob

/-- A blob in front of what the client sends that opens and decodes is the
first frame. -/
theorem readInitFrame_of_append
    {cipher : GhostCipher}
    (world : World)
    {blob rest : Bytes}
    {frame : GhostFrame}
    (fits : blob.length < 65536)
    (opened : openFrame cipher blob = some frame)
    (bytes : world.client.unread = frameBytes blob ++ rest) :
    ∃ client, (readInitFrame cipher).exec world =
        (.ok frame, { world with client }) ∧
      client.unread = rest := by
  obtain ⟨plaintext, decrypted, decoded⟩ := openFrame_eq_some opened
  rw [frameBytes, List.append_assoc] at bytes
  obtain ⟨client, readLength, unread⟩ := exec_readExact_append world bytes
  have length : (u16FromBuffer (u16Be (UInt16.ofNat blob.length))).toNat =
      blob.length := by
    rw [u16FromBuffer_u16Be, toNat_ofNat_length _ fits]
  have small : ¬blob.length > ENC_BUF_LEN := by
    unfold ENC_BUF_LEN
    omega
  obtain ⟨after, readBlob, unreadRest⟩ :=
    exec_readExact_append { world with client } unread
  rw [length_u16Be] at readLength
  refine ⟨after, ?_, unreadRest⟩
  rw [readInitFrame, Program.exec_bind_of_ok readLength]
  simp only [length, if_neg small]
  rw [Program.exec_bind_of_ok readBlob, decrypted,
    Program.exec_bind_of_ok (exec_liftCrypto_ok plaintext _), decoded]
  rfl

/-- Whether an address is one that a target resolves to. -/
def Resolves
    (network : Network)
    (target : TargetAddr)
    (address : SocketAddr) : Prop :=
  match target with
  | .none => False
  | .ipV4 ip => address = .v4 ip
  | .ipV6 ip => address = .v6 ip
  | .domain domain port =>
      ∃ others, network.lookupHost (hostPort domain port) =
        .ok (address :: others)

/-- Resolution fails, or gives an address of the target.  It touches nothing
but the list of lookups. -/
theorem resolveTarget_cases
    (network : Network)
    (target : TargetAddr)
    (world : World) :
    ∃ lookups,
      (∃ fault, (resolveTarget network target).exec world =
          (.error fault, { world with lookups })) ∨
        (∃ address, (resolveTarget network target).exec world =
            (.ok address, { world with lookups }) ∧
          Resolves network target address) := by
  cases target with
  | none => exact ⟨world.lookups, .inl ⟨_, rfl⟩⟩
  | ipV4 ip => exact ⟨world.lookups, .inr ⟨.v4 ip, rfl, rfl⟩⟩
  | ipV6 ip => exact ⟨world.lookups, .inr ⟨.v6 ip, rfl, rfl⟩⟩
  | domain domain port =>
      refine ⟨world.lookups ++ [hostPort domain port], ?_⟩
      rw [resolveTarget, Program.exec_bind, Program.exec_update]
      simp only
      cases found : network.lookupHost (hostPort domain port) with
      | error error => exact .inl ⟨_, rfl⟩
      | ok addrs =>
          cases addrs with
          | nil => exact .inl ⟨_, rfl⟩
          | cons address others =>
              exact .inr ⟨address, rfl, others, found⟩

/-- A resolved target is connected to at its address. -/
theorem resolveTarget_of_resolves
    {network : Network}
    {target : TargetAddr}
    {address : SocketAddr}
    (resolves : Resolves network target address)
    (world : World) :
    ∃ lookups, (resolveTarget network target).exec world =
      (.ok address, { world with lookups }) := by
  cases target with
  | none => exact resolves.elim
  | ipV4 ip =>
      obtain rfl := resolves
      exact ⟨world.lookups, rfl⟩
  | ipV6 ip =>
      obtain rfl := resolves
      exact ⟨world.lookups, rfl⟩
  | domain domain port =>
      obtain ⟨others, found⟩ := resolves
      refine ⟨world.lookups ++ [hostPort domain port], ?_⟩
      rw [resolveTarget, Program.exec_bind, Program.exec_update]
      simp only [found]
      rfl

/-- Connecting is recorded whether it succeeds or not. -/
theorem connectTarget_dialed
    (network : Network)
    (target : TargetAddr)
    (address : SocketAddr)
    (world : World) :
    ((connectTarget network target address).exec world).2.dialed =
      world.dialed ++ [address] := by
  rw [connectTarget, Program.exec_bind, Program.exec_update]
  simp only
  cases network.connect address with
  | error error => rfl
  | ok remote => rfl

/-- The cipher of a user. -/
def cipherOf (provider : Provider) (userId : UserId) : GhostCipher where
  aead := provider.aead
  key := deriveKey provider userId secret

/-- Forwarding connects to nothing. -/
theorem forwardPayload_dialed (frame : GhostFrame) (world : World) :
    ((forwardPayload frame).exec world).2.dialed = world.dialed := by
  unfold forwardPayload
  split_ifs
  · rfl
  · rfl

/-- A target that accepts everything gets the payload, and an empty payload
needs no write. -/
theorem forwardPayload_of_accepted
    (frame : GhostFrame)
    (world : World)
    (accepted : frame.payload = [] ∨ world.target.limit = none) :
    (forwardPayload frame).exec world =
      (.ok (), { world with
        target := { world.target with
          outgoing := world.target.outgoing ++ frame.payload } }) := by
  unfold forwardPayload
  split_ifs with nonempty
  · rw [onTarget, Program.exec_onStream,
      Stream.writeAll_of_limit_none (accepted.resolve_left nonempty)]
    rfl
  · rw [not_not.mp nonempty, List.append_nil]
    rfl

/-- A derived key has the right length. -/
theorem exec_newCipher
    (provider : Provider)
    (userId : UserId)
    (world : World) :
    (liftCrypto (GhostCipher.new provider.aead
        (deriveKey provider userId secret).toList) :
      Handler World GhostCipher).exec world =
        (.ok (cipherOf provider userId), world) := by
  rw [GhostCipher.new_toList]
  rfl

/-- What a client must have sent for its frame to be acted on: an allowed user
id, and a blob that opens under the key of that user. -/
structure Admitted
    (provider : Provider)
    (allowedUsers : Finset String)
    (bytes : Bytes)
    (userId : UserId)
    (frame : GhostFrame)
    (rest : Bytes) : Prop where
  allowed : hexEncode userId.toList ∈ allowedUsers
  opened : ∃ blob, blob.length < 65536 ∧
    openFrame (cipherOf provider userId) blob = some frame ∧
    bytes = userId.toList ++ (frameBytes blob ++ rest)

/-- A connection ends before anything leaves the server, or the client was
admitted and its target was connected to. -/
theorem handleConnection_cases
    (provider : Provider)
    (network : Network)
    (state : ServerState)
    (world : World) :
    (∃ fault next,
        (handleConnection provider network state).exec world =
          (.error fault, next) ∧
        next.dialed = world.dialed ∧ next.target = world.target) ∨
      ∃ userId frame rest address,
        Admitted provider state.allowedUsers world.client.unread userId frame
          rest ∧
        Resolves network frame.target address ∧
        ((handleConnection provider network state).exec world).2.dialed =
          world.dialed ++ [address] := by
  rw [handleConnection]
  rcases authorizeUser_cases state world with
    ⟨fault, client, failed⟩ | ⟨userId, client, authorized, allowed, unread⟩
  · left
    exact ⟨fault, _, Program.exec_bind_of_error failed, rfl, rfl⟩
  rw [Program.exec_bind_of_ok authorized,
    Program.exec_bind_of_ok (exec_newCipher provider userId _)]
  rcases readInitFrame_cases (cipherOf provider userId) { world with client } with
    ⟨fault, after, failed⟩ | ⟨frame, blob, after, read, opened, fits, rest⟩
  · left
    exact ⟨fault, _, Program.exec_bind_of_error failed, rfl, rfl⟩
  rw [Program.exec_bind_of_ok read]
  obtain ⟨lookups, ⟨fault, failed⟩ | ⟨address, resolved, resolves⟩⟩ :=
    resolveTarget_cases network frame.target { world with client := after }
  · left
    exact ⟨fault, _, Program.exec_bind_of_error failed, rfl, rfl⟩
  right
  refine ⟨userId, frame, after.unread, address,
    ⟨allowed, blob, fits, opened, ?_⟩, resolves, ?_⟩
  · rw [unread]
    exact congrArg _ rest
  · rw [Program.exec_bind_of_ok resolved,
      Program.observe_exec_bind World.dialed, connectTarget_dialed]
    intro _ middle
    rw [Program.observe_exec_bind World.dialed, forwardPayload_dialed]
    intro _ _
    rfl

/-- Connecting touches nothing of the connection to the client. -/
theorem connectTarget_client
    (network : Network)
    (target : TargetAddr)
    (address : SocketAddr)
    (world : World) :
    ((connectTarget network target address).exec world).2.client =
      world.client := by
  rw [connectTarget, Program.exec_bind, Program.exec_update]
  simp only
  cases network.connect address with
  | error error => rfl
  | ok remote => rfl

/-- Forwarding touches nothing of the connection to the client. -/
theorem forwardPayload_client (frame : GhostFrame) (world : World) :
    ((forwardPayload frame).exec world).2.client = world.client := by
  unfold forwardPayload
  split_ifs
  · rfl
  · rfl

/-- A client that gets a session was admitted, with the frame of the session,
and the relay starts on the rest of what it sends. -/
theorem admitted_of_handleConnection
    {provider : Provider}
    {network : Network}
    {state : ServerState}
    {world next : World}
    {session : Session}
    (handled : (handleConnection provider network state).exec world =
      (.ok session, next)) :
    Admitted provider state.allowedUsers world.client.unread session.userId
        session.frame next.client.unread ∧
      Resolves network session.frame.target session.address ∧
      session.cipher = cipherOf provider session.userId := by
  rw [handleConnection] at handled
  rcases authorizeUser_cases state world with
    ⟨fault, client, failed⟩ | ⟨userId, client, authorized, allowed, unread⟩
  · rw [Program.exec_bind_of_error failed] at handled
    cases handled
  rw [Program.exec_bind_of_ok authorized,
    Program.exec_bind_of_ok (exec_newCipher provider userId _)] at handled
  rcases readInitFrame_cases (cipherOf provider userId) { world with client } with
    ⟨fault, after, failed⟩ | ⟨frame, blob, after, read, opened, fits, rest⟩
  · rw [Program.exec_bind_of_error failed] at handled
    cases handled
  rw [Program.exec_bind_of_ok read] at handled
  obtain ⟨lookups, ⟨fault, failed⟩ | ⟨address, resolved, resolves⟩⟩ :=
    resolveTarget_cases network frame.target { world with client := after }
  · rw [Program.exec_bind_of_error failed] at handled
    cases handled
  rw [Program.exec_bind_of_ok resolved] at handled
  obtain ⟨_, connected, connects, handled⟩ :=
    Program.exec_bind_eq_ok.mp handled
  obtain ⟨_, forwarded, forwards, handled⟩ :=
    Program.exec_bind_eq_ok.mp handled
  obtain ⟨sameSession, rfl⟩ := Prod.mk.inj handled
  obtain rfl := Except.ok.inj sameSession
  have kept : forwarded.client = after := by
    rw [← congrArg (fun result => result.2.client) forwards,
      forwardPayload_client,
      ← congrArg (fun result => result.2.client) connects,
      connectTarget_client]
  refine ⟨⟨allowed, blob, fits, opened, ?_⟩, resolves, rfl⟩
  rw [unread, kept]
  exact congrArg _ rest

/-- An admitted client is authorized, its first frame is read and the target of
the frame is resolved. -/
theorem phases_of_admitted
    {provider : Provider}
    {network : Network}
    {state : ServerState}
    {world : World}
    {userId : UserId}
    {frame : GhostFrame}
    {rest : Bytes}
    {address : SocketAddr}
    (admitted : Admitted provider state.allowedUsers world.client.unread userId
      frame rest)
    (resolves : Resolves network frame.target address) :
    ∃ client after lookups,
      (authorizeUser state).exec world = (.ok userId, { world with client }) ∧
        (readInitFrame (cipherOf provider userId)).exec
            { world with client } =
          (.ok frame, { world with client := after }) ∧
        (resolveTarget network frame.target).exec
            { world with client := after } =
          (.ok address, { world with client := after, lookups }) ∧
        after.unread = rest := by
  obtain ⟨blob, fits, opened, bytes⟩ := admitted.opened
  obtain ⟨client, authorized, unread⟩ :=
    authorizeUser_of_append admitted.allowed bytes
  obtain ⟨after, readFrame, unreadRest⟩ :=
    readInitFrame_of_append { world with client } fits opened unread
  obtain ⟨lookups, resolved⟩ :=
    resolveTarget_of_resolves resolves { world with client := after }
  exact ⟨client, after, lookups, authorized, readFrame, resolved, unreadRest⟩

/-- An admitted client whose target accepts the connection gets a session, and
the payload of its first frame is forwarded. -/
theorem handleConnection_of_admitted
    {provider : Provider}
    {network : Network}
    {state : ServerState}
    {world : World}
    {userId : UserId}
    {frame : GhostFrame}
    {rest : Bytes}
    {address : SocketAddr}
    {remote : Remote}
    (admitted : Admitted provider state.allowedUsers world.client.unread userId
      frame rest)
    (resolves : Resolves network frame.target address)
    (connected : network.connect address = .ok remote)
    (accepted : frame.payload = [] ∨ remote.limit = none) :
    ∃ client lookups,
      (handleConnection provider network state).exec world =
          (.ok { userId, cipher := cipherOf provider userId, frame, address },
            { client
              target := { remote.stream with outgoing := frame.payload }
              lookups
              dialed := world.dialed ++ [address] }) ∧
        client.unread = rest := by
  obtain ⟨client, after, lookups, authorized, readFrame, resolved,
    unreadRest⟩ := phases_of_admitted admitted resolves
  have connect : (connectTarget network frame.target address).exec
      { world with client := after, lookups } =
        (.ok (), {
          client := after
          target := remote.stream
          lookups
          dialed := world.dialed ++ [address] }) := by
    rw [connectTarget, Program.exec_bind, Program.exec_update]
    simp only [connected]
    rfl
  have forward := forwardPayload_of_accepted frame
    { client := after
      target := remote.stream
      lookups
      dialed := world.dialed ++ [address] }
    accepted
  refine ⟨after, lookups, ?_, unreadRest⟩
  rw [handleConnection, Program.exec_bind_of_ok authorized,
    Program.exec_bind_of_ok (exec_newCipher provider userId _),
    Program.exec_bind_of_ok readFrame, Program.exec_bind_of_ok resolved,
    Program.exec_bind_of_ok connect, Program.exec_bind_of_ok forward]
  rfl

/-- How the server seals the frames of a session. -/
abbrev sealingOf (config : ServerConfig) (session : Session) : Sealing where
  cipher := session.cipher
  userId := session.userId
  enablePadding := config.enablePadding
  maxPaddingLen := config.maxPaddingLen

/-- From the client to the target. -/
def upload (session : Session) : ReceivePoint → Await ReceivePoint :=
  receiveLoop session.cipher

/-- From the target to the client. -/
def download
    (config : ServerConfig)
    (session : Session)
    (draws : (sealingOf config session).Draws) : SendPoint → Await SendPoint :=
  sendLoop (sealingOf config session) draws

/-- The state of a running relay: upload on the left, download on the
right. -/
abbrev RelayState := Joined ReceivePoint SendPoint

/-- A relay about to start on what the client and the target send. -/
def relayStart
    (client target : Bytes)
    (clientClosed targetClosed : Bool) : RelayState where
  left := TaskState.start .length client clientClosed
  right := TaskState.start (.read 0) target targetClosed

/-- One event of a running relay. -/
def relayStep
    (config : ServerConfig)
    (session : Session)
    (draws : (sealingOf config session).Draws) :
    RelayState → JoinedEvent → Option RelayState :=
  stepSelect (upload session) (download config session draws)

end Server
end GhostProtocol
