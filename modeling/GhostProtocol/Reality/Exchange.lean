import GhostProtocol.Foundation.Stream
import GhostProtocol.Reality.Auth

/-!
# The exchange of a disguised tunnel

A client of the disguise connects, writes its request and reads an answer once.
The server reads once and answers a request with its token with a page, and
every other one with a redirect.  The client cannot take its connection out of
the TLS library, and ends with an error even when it has been recognised.
-/

namespace GhostProtocol
namespace Reality

open Foundation

/-- Errors of the disguise. -/
inductive RealityError
  | tlsHandshake (text : String)
  | authFailed
  | sniMismatch (expected got : String)
  | ja4Rejected (text : String)
  | certificateError (text : String)
  | io (error : IoError)
  deriving DecidableEq, Repr

/-- A program over a TLS connection. -/
abbrev TlsProgram (α : Type) := Program Stream RealityError α

/-- An operation on the TLS connection. -/
def onTls
    (operation : Stream → Except IoError α × Stream) : TlsProgram α :=
  Program.onStream id (fun _ stream => stream) operation .io

/-- An operation that succeeds. -/
theorem exec_onTls_of_ok
    {operation : Stream → Except IoError α × Stream}
    {stream next : Stream}
    {value : α}
    (ran : operation stream = (.ok value, next)) :
    (onTls operation).exec stream = (.ok value, next) := by
  rw [onTls, Program.exec_onStream, id, ran]
  rfl

/-- An operation that fails. -/
theorem exec_onTls_of_error
    {operation : Stream → Except IoError α × Stream}
    {stream next : Stream}
    {error : IoError}
    (ran : operation stream = (.error error, next)) :
    (onTls operation).exec stream = (.error (.io error), next) := by
  rw [onTls, Program.exec_onStream, id, ran]
  rfl

/-! ## The server -/

/-- The answer to a client with the token. -/
def proxyResponse : String :=
  "HTTP/1.1 200 OK\r\nContent-Length: 12\r\n\r\nGhost Proxy!"

/-- The answer to everyone else. -/
def maskResponse (maskDomain : String) : String :=
  "HTTP/1.1 301 Moved Permanently\r\n" ++ "Location: https://" ++
    maskDomain ++ "\r\n" ++ "Content-Length: 0\r\n" ++
    "Connection: close\r\n\r\n"

/-- Bytes of the buffer for a request. -/
def TLS_REQUEST_LEN : Nat := 4096

/-- Serve a TLS connection. -/
def handleTlsConnection (config : RealityConfig) : TlsProgram Unit := do
  let buf ← onTls (Stream.read TLS_REQUEST_LEN)
  if buf = [] then return ()
  else if detectGhostAuth buf config.authKey then
    onTls (Stream.writeAll (Text.utf8Bytes proxyResponse))
  else
    onTls (Stream.writeAll (Text.utf8Bytes (maskResponse config.maskDomain)))

/-! ## The client -/

/-- The TLS library of a client: the names it accepts for a server, and how a
handshake with such a server ends. -/
structure TlsConnector where
  serverName : String → Bool
  handshake : String → Except IoError Unit

/-- Connect to a server, with the masked domain as its name. -/
def connect
    (tls : TlsConnector)
    (connected : Except IoError Unit)
    (config : RealityConfig) : TlsProgram Unit := do
  Program.ofExcept (connected.mapError .io)
  if ¬tls.serverName config.maskDomain then
    Program.failWith (.tlsHandshake "invalid SNI: InvalidDnsNameError")
  else
    Program.ofExcept ((tls.handshake config.maskDomain).mapError .io)

/-- Bytes of the buffer for an answer. -/
def TLS_ANSWER_LEN : Nat := 1024

/-- The error of a client that has been recognised. -/
def notSupported : RealityError :=
  .tlsHandshake
    "underlying TCP extraction not supported in current implementation"

/-- Whether an answer is the one to a client with the token. -/
def isRecognised (response : List Char) : Bool :=
  (Text.afterFirst "200 OK".toList response).isSome ||
    (Text.afterFirst "Ghost Proxy".toList response).isSome

/-- Ask the server for a tunnel, to get the connection below TLS. -/
def authenticate (config : RealityConfig) : TlsProgram Stream := do
  onTls (Stream.writeAll (Text.utf8Bytes (authRequest config)))
  let buf ← onTls (Stream.read TLS_ANSWER_LEN)
  if buf = [] then Program.failWith .authFailed
  else if isRecognised (Text.fromUtf8Lossy buf) then
    Program.failWith notSupported
  else Program.failWith .authFailed

/-- Open a tunnel: connect and ask for it. -/
def openTunnel
    (tls : TlsConnector)
    (connected : Except IoError Unit)
    (config : RealityConfig) : TlsProgram Stream := do
  connect tls connected config
  authenticate config

/-! ## How serving ends -/

/-- How a connection is served: with an error of the read, with nothing at the
end of the stream, or with an answer that is written as far as the client takes
it. -/
inductive Served (config : RealityConfig) (stream : Stream) : Prop
  | failed (error : IoError) (next : Stream)
      (read : stream.read TLS_REQUEST_LEN = (.error error, next))
      (executed : (handleTlsConnection config).exec stream =
        (.error (.io error), next))
  | silent (next : Stream)
      (read : stream.read TLS_REQUEST_LEN = (.ok [], next))
      (executed : (handleTlsConnection config).exec stream = (.ok (), next))
  | answered (request : Bytes) (next : Stream)
      (something : request ≠ [])
      (read : stream.read TLS_REQUEST_LEN = (.ok request, next))
      (executed : (handleTlsConnection config).exec stream =
        (onTls (Stream.writeAll (Text.utf8Bytes
          (if detectGhostAuth request config.authKey then proxyResponse
          else maskResponse config.maskDomain)))).exec next)

/-- Every way in which a connection is served. -/
theorem served (config : RealityConfig) (stream : Stream) :
    Served config stream := by
  cases read : stream.read TLS_REQUEST_LEN with
  | mk outcome next =>
      cases outcome with
      | error error =>
          exact .failed error next read
            (Program.exec_bind_of_error (exec_onTls_of_error read))
      | ok request =>
          have continues :=
            (show (handleTlsConnection config).exec stream = _ from
              Program.exec_bind_of_ok (exec_onTls_of_ok read))
          by_cases empty : request = []
          · subst empty
            exact .silent next read continues
          · rw [if_neg empty] at continues
            refine .answered request next empty read (continues.trans ?_)
            split_ifs <;> rfl

/-- A server writes nothing, or a front of the answer to the request that it
has read. -/
theorem outgoing_handleTlsConnection
    (config : RealityConfig)
    {stream : Stream}
    (fresh : stream.outgoing = []) :
    ((handleTlsConnection config).exec stream).2.outgoing = [] ∨
      ∃ request next, request ≠ [] ∧
        stream.read TLS_REQUEST_LEN = (.ok request, next) ∧
        ((handleTlsConnection config).exec stream).2.outgoing <+:
          Text.utf8Bytes
            (if detectGhostAuth request config.authKey then proxyResponse
            else maskResponse config.maskDomain) := by
  have kept := stream.outgoing_read TLS_REQUEST_LEN
  rw [fresh] at kept
  cases served config stream with
  | failed error next read executed =>
      rw [read] at kept
      rw [executed]
      exact .inl kept
  | silent next read executed =>
      rw [read] at kept
      rw [executed]
      exact .inl kept
  | answered request next something read executed =>
      rw [read] at kept
      refine .inr ⟨request, next, something, read, ?_⟩
      rw [executed, onTls, Program.exec_onStream]
      have written := next.outgoing_writeAll_prefix (Text.utf8Bytes
        (if detectGhostAuth request config.authKey then proxyResponse
          else maskResponse config.maskDomain))
      rw [show next.outgoing = [] from kept] at written
      exact written

/-! ## How asking for a tunnel ends -/

/-- A stream on which the request has been written. -/
def asked (config : RealityConfig) (stream : Stream) : Stream :=
  { stream with
    outgoing := stream.outgoing ++ Text.utf8Bytes (authRequest config) }

/-- One read returns at least that many bytes. -/
def ReadsAtLeast (stream : Stream) (capacity count : Nat) : Prop :=
  ∃ bytes next, stream.read capacity = (.ok bytes, next) ∧
    count ≤ bytes.length

/-- The connection stands: TCP has connected, the masked domain is a server
name, and the handshake has succeeded. -/
structure Connects
    (tls : TlsConnector)
    (connected : Except IoError Unit)
    (config : RealityConfig) : Prop where
  tcp : connected = .ok ()
  serverName : tls.serverName config.maskDomain = true
  handshake : tls.handshake config.maskDomain = .ok ()

/-- The error that a client ends with once it has read an answer. -/
def errorOf (answer : Bytes) : RealityError :=
  if answer ≠ [] ∧ isRecognised (Text.fromUtf8Lossy answer) then notSupported
  else .authFailed

/-- How opening a tunnel ends: before the connection stands, with a request
that has not been written, with an answer that cannot be read, or with the
error that the answer calls for. -/
inductive Opened
    (tls : TlsConnector)
    (connected : Except IoError Unit)
    (config : RealityConfig)
    (stream : Stream) : Prop
  | unconnected (error : RealityError)
      (other : error ≠ notSupported)
      (fails : ¬Connects tls connected config)
      (executed : (openTunnel tls connected config).exec stream =
        (.error error, stream))
  | unwritten (error : IoError) (next : Stream)
      (refused : ¬stream.Accepts (Text.utf8Bytes (authRequest config)).length)
      (failed : stream.writeAll (Text.utf8Bytes (authRequest config)) =
        (.error error, next))
      (executed : (openTunnel tls connected config).exec stream =
        (.error (.io error), next))
  | unanswered (error : IoError) (next : Stream)
      (read : (asked config stream).read TLS_ANSWER_LEN = (.error error, next))
      (executed : (openTunnel tls connected config).exec stream =
        (.error (.io error), next))
  | answered (answer : Bytes) (next : Stream)
      (connects : Connects tls connected config)
      (accepts : stream.Accepts (Text.utf8Bytes (authRequest config)).length)
      (read : (asked config stream).read TLS_ANSWER_LEN = (.ok answer, next))
      (executed : (openTunnel tls connected config).exec stream =
        (.error (errorOf answer), next))

/-- A client whose connection does not stand fails with another error than one
that has been recognised, and has written nothing. -/
theorem connect_cases
    (tls : TlsConnector)
    (connected : Except IoError Unit)
    (config : RealityConfig)
    (stream : Stream) :
    (Connects tls connected config ∧
        (connect tls connected config).exec stream = (.ok (), stream)) ∨
      (¬Connects tls connected config ∧
        ∃ error, error ≠ notSupported ∧
          (connect tls connected config).exec stream =
            (.error error, stream)) := by
  cases connected with
  | error error =>
      refine .inr ⟨fun connects => ?_, .io error, RealityError.noConfusion, rfl⟩
      cases connects.tcp
  | ok done =>
      have tcp : (Program.ofExcept ((Except.ok done : Except IoError Unit).mapError
          RealityError.io)).exec stream = (.ok done, stream) := rfl
      have continues := (show (connect tls (.ok done) config).exec stream = _
        from Program.exec_bind_of_ok tcp)
      by_cases valid : tls.serverName config.maskDomain = true
      swap
      · rw [if_pos valid] at continues
        exact .inr ⟨fun connects => valid connects.serverName,
          .tlsHandshake "invalid SNI: InvalidDnsNameError", by decide,
          continues⟩
      rw [if_neg (not_not_intro valid), Program.exec_ofExcept] at continues
      cases shaken : tls.handshake config.maskDomain with
      | error error =>
          rw [shaken] at continues
          refine .inr ⟨fun connects => ?_, .io error, RealityError.noConfusion,
            continues⟩
          cases shaken.symm.trans connects.handshake
      | ok done =>
          rw [shaken] at continues
          exact .inl ⟨⟨rfl, valid, shaken⟩, continues⟩

/-- A client whose connection does not stand gets no further. -/
theorem exec_openTunnel_of_not_connects
    {tls : TlsConnector}
    {connected : Except IoError Unit}
    {config : RealityConfig}
    (fails : ¬Connects tls connected config)
    (stream : Stream) :
    ∃ error, error ≠ notSupported ∧
      (openTunnel tls connected config).exec stream =
        (.error error, stream) := by
  rcases connect_cases tls connected config stream with
    ⟨connects, -⟩ | ⟨-, error, other, failed⟩
  · exact absurd connects fails
  · exact ⟨error, other, Program.exec_bind_of_error failed⟩

/-- Every way in which opening a tunnel ends. -/
theorem opened
    (tls : TlsConnector)
    (connected : Except IoError Unit)
    (config : RealityConfig)
    (stream : Stream) :
    Opened tls connected config stream := by
  rcases connect_cases tls connected config stream with
    ⟨connects, stands⟩ | ⟨fails, -⟩
  swap
  · obtain ⟨error, other, executed⟩ :=
      exec_openTunnel_of_not_connects fails stream
    exact .unconnected error other fails executed
  have asks : (openTunnel tls connected config).exec stream =
      (authenticate config).exec stream := Program.exec_bind_of_ok stands
  rcases stream.writeAll_cases (Text.utf8Bytes (authRequest config)) with
    ⟨accepts, written⟩ | ⟨refused, error, next, failed⟩
  swap
  · exact .unwritten error next refused failed
      (asks.trans (Program.exec_bind_of_error (exec_onTls_of_error failed)))
  have behind := asks.trans
    (Program.exec_bind_of_ok (exec_onTls_of_ok written))
  cases read : (asked config stream).read TLS_ANSWER_LEN with
  | mk outcome next =>
      cases outcome with
      | error error =>
          exact .unanswered error next read (behind.trans
            (Program.exec_bind_of_error (exec_onTls_of_error read)))
      | ok answer =>
          refine .answered answer next connects accepts read (behind.trans
            ((Program.exec_bind_of_ok (exec_onTls_of_ok read)).trans ?_))
          unfold errorOf
          by_cases empty : answer = []
          · rw [if_pos empty, if_neg (fun both => both.1 empty)]
            rfl
          · by_cases known : isRecognised (Text.fromUtf8Lossy answer) = true
            · rw [if_neg empty, if_pos known, if_pos ⟨empty, known⟩]
              rfl
            · rw [if_neg empty, if_neg known, if_neg (fun both => known both.2)]
              rfl

/-- Opening a tunnel writes at most the request. -/
theorem outgoing_openTunnel
    (tls : TlsConnector)
    (connected : Except IoError Unit)
    (config : RealityConfig)
    (stream : Stream) :
    ((openTunnel tls connected config).exec stream).2.outgoing <+:
      stream.outgoing ++ Text.utf8Bytes (authRequest config) := by
  have kept := (asked config stream).outgoing_read TLS_ANSWER_LEN
  cases opened tls connected config stream with
  | unconnected error other fails executed =>
      rw [executed]
      exact List.prefix_append _ _
  | unwritten error next refused failed executed =>
      have written :=
        stream.outgoing_writeAll_prefix (Text.utf8Bytes (authRequest config))
      rw [failed] at written
      rw [executed]
      exact written
  | unanswered error next read executed =>
      rw [read] at kept
      rw [executed]
      exact kept ▸ List.prefix_rfl
  | answered answer next connects accepts read executed =>
      rw [read] at kept
      rw [executed]
      exact kept ▸ List.prefix_rfl

end Reality
end GhostProtocol
