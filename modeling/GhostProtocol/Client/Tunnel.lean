import GhostProtocol.Client.UserId
import GhostProtocol.Common.Config
import GhostProtocol.Foundation.Select
import GhostProtocol.Relay.Send

/-!
# The client side of a tunnel

A tunnel starts with the user id in clear and one sealed frame that names the
target, after an authentication request when the connection is disguised as
TLS.  From then on a sending loop uploads what the application writes and a
receiving loop downloads what the server sends, until the first of the two
ends.
-/

namespace GhostProtocol
namespace Client

open Foundation Foundation.AsyncTask Common Crypto Relay

/-- The secret from which the keys of all users are derived. -/
def secret : Bytes :=
  Text.utf8Bytes "ghost_default_key!"

/-- The TLS library: the names it accepts for a server, and how a handshake
that expects a certificate fingerprint ends. -/
structure TlsConnector where
  serverName : String → Bool
  handshake : String → Block 32 → Except IoError Unit

/-- The request that asks a disguised server for a tunnel. -/
def authRequest (maskDomain : String) : String :=
  "GET /ghost HTTP/1.1\r\n" ++ "Host: " ++ maskDomain ++ "\r\n" ++
    "X-Ghost-Auth: " ++ hexEncode secret ++ "\r\n" ++
    "Connection: upgrade\r\n" ++ "Upgrade: ghost-tunnel\r\n\r\n"

/-- Whether a text contains a pattern. -/
def contains (text : List Char) (pattern : String) : Bool :=
  (Text.afterFirst pattern.toList text).isSome

/-- The first line of a text, or `empty`. -/
def firstLine (text : List Char) : String :=
  if text = [] then "empty"
  else
    let line := text.takeWhile (· ≠ '\n')
    String.ofList
      (if line.getLast? = some '\r' ∧ line ≠ text then line.dropLast else line)

/-- Whether the server's answer grants the tunnel. -/
def isAccepted (response : List Char) : Bool :=
  contains response "200 OK" || contains response "Ghost Proxy" ||
    contains response "101 Switching Protocols"

/-- Run the TLS handshake and the authentication request. -/
def connectReality
    (tls : TlsConnector)
    (maskDomain serverAddr realityAuthKey : String) : Handler Stream Unit := do
  let expectedFp ← liftOutcome (match parseHex32 realityAuthKey with
    | .error (.error (.message text)) =>
        .error (.error (.message ("Invalid reality_auth_key: " ++ text)))
    | result => result)
  if ¬tls.serverName maskDomain then
    bail "Invalid SNI domain: InvalidDnsNameError"
  else
    liftOutcome (match tls.handshake maskDomain expectedFp with
      | .error error =>
          .error (.error (.context ("TLS handshake failed to " ++ serverAddr ++
            " (SNI=" ++ maskDomain ++ ")") (.io error)))
      | .ok result => .ok result)
    onSocket (Stream.writeAll (Text.utf8Bytes (authRequest maskDomain)))
    let buf ← onSocket (Stream.read 1024)
    if buf = [] then
      bail "Reality auth failed: server closed connection"
    else
      let response := Text.fromUtf8Lossy buf
      if ¬isAccepted response then
        bail ("Reality auth failed: unexpected response: " ++
          firstLine response)
      else return ()

/-- The cipher of a user. -/
def cipherOf (provider : Provider) (userId : UserId) : GhostCipher where
  aead := provider.aead
  key := deriveKey provider userId secret

/-- How the client seals the frames of a user. -/
abbrev sealingOf
    (config : ClientConfig)
    (userId : UserId)
    (cipher : GhostCipher) : Sealing where
  cipher
  userId
  enablePadding := config.enablePadding
  maxPaddingLen := config.maxPaddingLen

/-- Whether the connection to the server is disguised as TLS. -/
def isDisguised (config : ClientConfig) : Bool :=
  ¬(config.maskDomain = "" ∨ config.maskDomain = "none")

/-- Start a tunnel on the connection to the server: check the user id, connect,
and send the user id and the frame that names the target. -/
def proxyThroughGhost
    (provider : Provider)
    (tls : TlsConnector)
    (connected : Except IoError Unit)
    (config : ClientConfig)
    (target : TargetAddr)
    (draw : Draw config.maxPaddingLen.toNat) : Handler Stream Sealing := do
  let userId ← liftOutcome (parseUserId config.userId)
  liftOutcome (match connected with
    | .error error =>
        .error (.error (.context
          ("Failed to connect to Ghost server at " ++ config.serverAddr)
          (.io error)))
    | .ok result => .ok result)
  (if isDisguised config then
    connectReality tls config.maskDomain config.serverAddr
      config.realityAuthKey
  else pure ())
  let key := deriveKey provider userId secret
  let cipher ← liftCrypto (GhostCipher.new provider.aead key.toList)
  onSocket (Stream.writeAll userId.toList)
  let sealing := sealingOf config userId cipher
  let encrypted ← liftOutcome (match sealing.sealFrame draw target [] with
    | .error .panic => .error .panic
    | .error (.error error) => .error (.error (.crypto error))
    | .ok encrypted => .ok encrypted)
  onSocket (Stream.writeAll (u16Be (UInt16.ofNat encrypted.length)))
  onSocket (Stream.writeAll encrypted)
  return sealing

/-- From the application to the server. -/
def upload (sealing : Sealing) (draws : sealing.Draws) :
    SendPoint → Await SendPoint :=
  sendLoop sealing draws

/-- From the server to the application. -/
def download (sealing : Sealing) : ReceivePoint → Await ReceivePoint :=
  receiveLoop sealing.cipher

/-- The state of a running tunnel: upload on the left, download on the
right. -/
abbrev RelayState := Joined SendPoint ReceivePoint

/-- A tunnel about to relay what the application and the server send. -/
def relayStart
    (application server : Bytes)
    (applicationClosed serverClosed : Bool) : RelayState where
  left := TaskState.start (.read 0) application applicationClosed
  right := TaskState.start .length server serverClosed

/-- One event of a running tunnel. -/
def relayStep (sealing : Sealing) (draws : sealing.Draws) :
    RelayState → JoinedEvent → Option RelayState :=
  stepSelect (upload sealing draws) (download sealing)

/-- Without a disguise, a tunnel starts with the user id and a sealed frame
that names the target, whose length is in front. -/
theorem proxyThroughGhost_plain
    {provider : Provider}
    (lawful : provider.aead.Lawful)
    (tls : TlsConnector)
    {config : ClientConfig}
    (plain : isDisguised config = false)
    {userId : UserId}
    (parsed : parseUserId config.userId = .ok userId)
    {target : TargetAddr}
    (wire : target.IsWire)
    (draw : Draw config.maxPaddingLen.toNat)
    {stream : Stream}
    (unlimited : stream.limit = none) :
    ∃ encrypted,
      encrypted.length < 65536 ∧
        openFrame (cipherOf provider userId) encrypted =
          some ((sealingOf config userId (cipherOf provider userId)).frame draw
            target []) ∧
        (proxyThroughGhost provider tls (.ok ()) config target draw).exec
            stream =
          (.ok (sealingOf config userId (cipherOf provider userId)),
            { stream with
              outgoing := stream.outgoing ++
                (userId.toList ++ frameBytes encrypted) }) := by
  obtain ⟨encrypted, sealed, short, opened⟩ :=
    (sealingOf config userId (cipherOf provider userId)).sealFrame_spec lawful
      draw wire (show ([] : Bytes).length ≤ READ_BUF_LEN from Nat.zero_le _)
  have cipher : GhostCipher.new provider.aead
      (deriveKey provider userId secret).toList =
        .ok (cipherOf provider userId) :=
    GhostCipher.new_toList _ _
  refine ⟨encrypted, short, opened, ?_⟩
  simp [proxyThroughGhost, Program.exec_bind, Program.exec_map, parsed, plain,
    exec_writeAll, unlimited, cipher, sealed, frameBytes]

end Client
end GhostProtocol
