import GhostProtocol.Client.Tunnel
import GhostProtocol.Server.AccessControl

/-!
# Segmentation of the authentication messages

Each end of a disguised tunnel reads the message of the other with one `read`.
The handshake therefore ends at the end of the message exactly when that read
returns all of it, and otherwise the message is refused or the rest of it is
left in front of the frames.
-/

namespace GhostProtocol

open Foundation Common

namespace Server

/-- The server classifies a client by its whole request, and goes on with the
bytes that the client sends after it. -/
def HandsOver
    (config : ServerConfig)
    (request later : List Bytes) : Prop :=
  ∃ world,
    (authenticate config).exec (.start (Stream.ofSegments (request ++ later))) =
        (.ok (detectGhostAuth request.flatten config.realityAuthKey), world) ∧
      world.client.unread = later.flatten

/-- The client is authenticated if what the first read returns carries the
token. -/
theorem authenticate_of_detected
    (config : ServerConfig)
    {request : List Bytes}
    (nonempty : request.flatten ≠ [])
    (later : List Bytes)
    (detected : detectGhostAuth
      (Stream.readSegments REQUEST_BUF_LEN request).1 config.realityAuthKey =
        true) :
    ∃ world,
      (authenticate config).exec
          (.start (Stream.ofSegments (request ++ later))) =
        (.ok true, world) ∧
      world.client.unread =
        (Stream.readSegments REQUEST_BUF_LEN request).2.flatten ++
          later.flatten := by
  have positive : 0 < REQUEST_BUF_LEN := Nat.zero_lt_succ _
  have arrived := Stream.read_message positive nonempty later
    (show (Stream.ofSegments (request ++ later)).incoming =
      request ++ later from rfl)
  cases authenticate_outcome config
      (.start (Stream.ofSegments (request ++ later))) with
  | failed error next read executed => cases arrived.symm.trans read
  | silent next read executed =>
      obtain ⟨same, -⟩ := Prod.mk.inj (arrived.symm.trans read)
      exact absurd (Except.ok.inj same)
        (Stream.readSegments_ne_nil positive nonempty)
  | switched taken next read known accepts executed =>
      obtain ⟨-, rfl⟩ := Prod.mk.inj (arrived.symm.trans read)
      exact ⟨_, executed, List.flatten_append⟩
  | unanswered taken next after error read known refused executed =>
      obtain ⟨-, rfl⟩ := Prod.mk.inj (arrived.symm.trans read)
      exact absurd (Stream.accepts_of_unlimited rfl _) refused
  | redirected taken next read foreign executed =>
      obtain ⟨same, -⟩ := Prod.mk.inj (arrived.symm.trans read)
      obtain rfl := Except.ok.inj same
      rw [detected] at foreign
      cases foreign

/-- The server hands over at the end of a valid request exactly if the request
arrives whole. -/
theorem handsOver_iff_arrivesWhole
    (config : ServerConfig)
    {request : List Bytes}
    (valid : detectGhostAuth request.flatten config.realityAuthKey = true)
    (later : List Bytes) :
    HandsOver config request later ↔
      Stream.ArrivesWhole REQUEST_BUF_LEN request := by
  have nonempty : request.flatten ≠ [] := by
    intro empty
    rw [empty] at valid
    cases valid
  rw [← Stream.readSegments_eq_flatten_iff REQUEST_BUF_LEN nonempty]
  have split := Stream.readSegments_append_flatten REQUEST_BUF_LEN request
  constructor
  · rintro ⟨world, classified, handedOver⟩
    rw [valid] at classified
    obtain ⟨result, client, executed, granted⟩ := authenticate_cases config
      (.start (Stream.ofSegments (request ++ later)))
    rw [executed] at classified
    obtain ⟨isTrue, rfl⟩ := Prod.mk.inj classified
    obtain ⟨bytes, next, read, unread, -⟩ := granted isTrue
    have positive : 0 < REQUEST_BUF_LEN := Nat.zero_lt_succ _
    have arrived := Stream.read_message positive nonempty later
      (show (World.start (Stream.ofSegments (request ++ later))).client.incoming =
        request ++ later from rfl)
    rw [read] at arrived
    obtain ⟨sameBytes, -⟩ := Prod.mk.inj arrived
    obtain rfl := Except.ok.inj sameBytes
    have whole : request.flatten ++ later.flatten =
        (Stream.readSegments REQUEST_BUF_LEN request).1 ++ later.flatten := by
      rw [← List.flatten_append, ← handedOver]
      exact unread
    exact (List.append_cancel_right whole).symm
  · intro whole
    rw [whole] at split
    have nothing := List.append_right_eq_self.mp split
    obtain ⟨world, classified, unread⟩ :=
      authenticate_of_detected config nonempty later (by rw [whole, valid])
    rw [nothing] at unread
    exact ⟨world, by rw [classified, valid], unread⟩

end Server

namespace Client

/-- The client accepts the answer of the server, and goes on with the bytes
that the server sends after it. -/
def HandsOver
    (tls : TlsConnector)
    (maskDomain serverAddr realityAuthKey : String)
    (response later : List Bytes) : Prop :=
  ∃ stream,
    (connectReality tls maskDomain serverAddr realityAuthKey).exec
        (Stream.ofSegments (response ++ later)) = (.ok (), stream) ∧
      stream.unread = later.flatten

/-- After the TLS handshake, the client takes from its stream what the first
read returns, and accepts the answer if that part of it does. -/
theorem connectReality_read
    {tls : TlsConnector}
    {maskDomain realityAuthKey : String}
    {fingerprint : Block 32}
    (valid : tls.serverName maskDomain = true)
    (parsed : parseHex32 realityAuthKey = .ok fingerprint)
    (handshake : tls.handshake maskDomain fingerprint = .ok ())
    (serverAddr : String)
    {response : List Bytes}
    (nonempty : response.flatten ≠ [])
    (later : List Bytes) :
    ∃ result stream,
      (connectReality tls maskDomain serverAddr realityAuthKey).exec
          (Stream.ofSegments (response ++ later)) = (result, stream) ∧
        stream.unread =
          (Stream.readSegments 1024 response).2.flatten ++ later.flatten ∧
        (isAccepted
            (Text.fromUtf8Lossy (Stream.readSegments 1024 response).1) = true →
          result = .ok ()) := by
  have positive : 0 < 1024 := Nat.zero_lt_succ _
  have something := Stream.readSegments_ne_nil positive nonempty
  have unlimited : (Stream.ofSegments (response ++ later)).limit = none := rfl
  simp only [connectReality, parsed, valid, handshake, not_true_eq_false,
    if_false, Program.exec_bind, exec_liftOutcome, exec_writeAll unlimited]
  generalize (Stream.ofSegments (response ++ later)).outgoing ++ _ = outgoing
  have read : (onSocket (Stream.read 1024)).exec
      { Stream.ofSegments (response ++ later) with outgoing } =
        (.ok (Stream.readSegments 1024 response).1,
          { Stream.ofSegments
              ((Stream.readSegments 1024 response).2 ++ later) with
            outgoing }) := by
    have arrives :
        { Stream.ofSegments (response ++ later) with outgoing }.incoming =
          response ++ later := rfl
    rw [onSocket, Program.exec_onStream, id,
      Stream.read_message positive nonempty later arrives]
    rfl
  rw [read]
  simp only [if_neg something]
  by_cases accepted : isAccepted
      (Text.fromUtf8Lossy (Stream.readSegments 1024 response).1) = true
  · simp only [accepted, not_true_eq_false, if_false]
    exact ⟨_, _, rfl, List.flatten_append, fun _ => rfl⟩
  · simp only [if_pos accepted]
    exact ⟨_, _, rfl, List.flatten_append, fun isTrue => absurd isTrue accepted⟩

/-- The client hands over at the end of the answer of the server exactly if the
answer arrives whole. -/
theorem handsOver_iff_arrivesWhole
    {tls : TlsConnector}
    {maskDomain realityAuthKey : String}
    {fingerprint : Block 32}
    (valid : tls.serverName maskDomain = true)
    (parsed : parseHex32 realityAuthKey = .ok fingerprint)
    (handshake : tls.handshake maskDomain fingerprint = .ok ())
    (serverAddr : String)
    {response : List Bytes}
    (answer : response.flatten = Text.utf8Bytes Server.switchingResponse)
    (later : List Bytes) :
    HandsOver tls maskDomain serverAddr realityAuthKey response later ↔
      Stream.ArrivesWhole 1024 response := by
  have nonempty : response.flatten ≠ [] := by
    rw [answer]
    decide
  rw [← Stream.readSegments_eq_flatten_iff 1024 nonempty]
  have split := Stream.readSegments_append_flatten 1024 response
  obtain ⟨result, stream, executed, unread, accepts⟩ := connectReality_read
    valid parsed handshake serverAddr nonempty later
  constructor
  · rintro ⟨other, accepted, handedOver⟩
    rw [executed] at accepted
    obtain ⟨-, rfl⟩ := Prod.mk.inj accepted
    rw [unread] at handedOver
    rw [List.append_left_eq_self.mp handedOver, List.append_nil] at split
    exact split
  · intro whole
    rw [whole] at split accepts
    have nothing := List.append_right_eq_self.mp split
    rw [nothing] at unread
    rw [answer] at accepts
    obtain rfl := accepts (by decide)
    exact ⟨stream, executed, unread⟩

end Client

namespace Session

/-- Both ends hand over at the end of the message of the other, exactly if it
arrives whole. -/
theorem handsOver_iff
    (config : ServerConfig)
    {request : List Bytes}
    (carries : Server.detectGhostAuth request.flatten config.realityAuthKey =
      true)
    {tls : Client.TlsConnector}
    {maskDomain realityAuthKey : String}
    {fingerprint : Block 32}
    (valid : tls.serverName maskDomain = true)
    (parsed : Client.parseHex32 realityAuthKey = .ok fingerprint)
    (handshake : tls.handshake maskDomain fingerprint = .ok ())
    (serverAddr : String)
    {response : List Bytes}
    (answer : response.flatten = Text.utf8Bytes Server.switchingResponse)
    (fromClient fromServer : List Bytes) :
    (Server.HandsOver config request fromClient ↔
        Stream.ArrivesWhole Server.REQUEST_BUF_LEN request) ∧
      (Client.HandsOver tls maskDomain serverAddr realityAuthKey response
          fromServer ↔
        Stream.ArrivesWhole 1024 response) :=
  ⟨Server.handsOver_iff_arrivesWhole config carries fromClient,
    Client.handsOver_iff_arrivesWhole valid parsed handshake serverAddr answer fromServer⟩

/-- A request that carries the token of the default settings. -/
def tokenRequest : Bytes :=
  Text.utf8Bytes ("GET /ghost HTTP/1.1\r\nX-Ghost-Auth: " ++
    ServerConfig.default.realityAuthKey ++ "\r\n\r\n")

/-- Its token is found. -/
theorem detectGhostAuth_tokenRequest :
    Server.detectGhostAuth tokenRequest ServerConfig.default.realityAuthKey =
      true := by
  decide +kernel

/-- The request in two pieces. -/
def splitRequest : List Bytes :=
  [tokenRequest.take 30, tokenRequest.drop 30]

/-- The token of a request that arrives in two pieces is found, too. -/
theorem detectGhostAuth_splitRequest :
    Server.detectGhostAuth splitRequest.flatten
      ServerConfig.default.realityAuthKey = true := by
  have whole : splitRequest.flatten = tokenRequest := by
    rw [splitRequest, List.flatten_cons, List.flatten_singleton,
      List.take_append_drop]
  rw [whole]
  exact detectGhostAuth_tokenRequest

/-- A TLS library on which every handshake succeeds. -/
def openConnector : Client.TlsConnector where
  serverName _ := true
  handshake _ _ := .ok ()

/-- The request in two pieces, and the answer in one. -/
theorem handsOver_iff_split :
    (Server.HandsOver ServerConfig.default splitRequest [] ↔
        Stream.ArrivesWhole Server.REQUEST_BUF_LEN splitRequest) ∧
      (Client.HandsOver openConnector "www.apple.com" "127.0.0.1:443"
          ClientConfig.default.realityAuthKey
          [Text.utf8Bytes Server.switchingResponse] [] ↔
        Stream.ArrivesWhole 1024
          [Text.utf8Bytes Server.switchingResponse]) := by
  obtain ⟨fingerprint, parsed⟩ :=
    Client.parseHex32_of_isHexKey Client.isHexKey_default
  have answer : [Text.utf8Bytes Server.switchingResponse].flatten =
      Text.utf8Bytes Server.switchingResponse :=
    List.append_nil _
  exact handsOver_iff ServerConfig.default detectGhostAuth_splitRequest rfl
    parsed rfl "127.0.0.1:443" answer [] []

/-- A genuine request in two pieces is not handed over. -/
theorem not_handsOver_split :
    ¬ Server.HandsOver ServerConfig.default splitRequest [] := by
  rw [Server.handsOver_iff_arrivesWhole ServerConfig.default
    detectGhostAuth_splitRequest]
  rintro ⟨onePiece, -⟩
  revert onePiece
  decide +kernel

end Session
end GhostProtocol
