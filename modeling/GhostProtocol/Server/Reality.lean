import GhostProtocol.Server.Handler

/-!
# Accepting connections

A plain server hands every connection to the handler.  A disguised one first
reads once from the TLS stream: a request that carries the authentication
token is answered with a protocol switch and handed over, and any other is
answered with a redirect to the real site.
-/

namespace GhostProtocol
namespace Server

open Foundation Foundation.AsyncTask Common Crypto Relay

/-- The marker in front of an authentication token. -/
def authMarker : String := "X-Ghost-Auth:"

/-- The token at the front of a text. -/
def takeToken (text : List Char) : List Char :=
  text.takeWhile fun char =>
    !Text.isWhitespace char && char ≠ '\r' && char ≠ '\n'

/-- Whether a request carries the authentication token. -/
def detectGhostAuth (data : Bytes) (authKeyHex : String) : Bool :=
  match Text.afterFirst authMarker.toList (Text.fromUtf8Lossy data) with
  | none => false
  | some remainder =>
      let token := takeToken (Text.trimStart remainder)
      (Text.charBytes token).length = 64 && token = authKeyHex.toList

/-- The answer to an authenticated client. -/
def switchingResponse : String :=
  "HTTP/1.1 101 Switching Protocols\r\n" ++ "Upgrade: ghost-tunnel\r\n" ++
    "Connection: upgrade\r\n\r\n"

/-- The answer to everyone else. -/
def redirectResponse (maskDomain : String) : String :=
  "HTTP/1.1 301 Moved Permanently\r\n" ++ "Location: https://" ++
    maskDomain ++ "\r\n" ++ "Content-Length: 0\r\n" ++
    "Connection: close\r\n\r\n"

/-- Bytes of the buffer for the first request. -/
def REQUEST_BUF_LEN : Nat := 4096

/-- Read the first request of a TLS connection and answer it.  The result says
whether the client is authenticated. -/
def authenticate (config : ServerConfig) : Handler World Bool := do
  let buf ← onClient (Stream.read REQUEST_BUF_LEN)
  if buf = [] then return false
  else if detectGhostAuth buf config.realityAuthKey then do
    onClient (Stream.writeAll (Text.utf8Bytes switchingResponse))
    return true
  else do
    Program.attempt (onClient (Stream.writeAll
      (Text.utf8Bytes (redirectResponse config.maskDomain))))
    return false

/-! ## How authentication ends -/

/-- An operation on the client that succeeds. -/
theorem exec_onClient_of_ok
    {operation : Stream → Except IoError α × Stream}
    {world : World}
    {value : α}
    {next : Stream}
    (ran : operation world.client = (.ok value, next)) :
    (onClient operation).exec world =
      (.ok value, { world with client := next }) := by
  rw [onClient, Program.exec_onStream, ran]
  rfl

/-- An operation on the client that fails. -/
theorem exec_onClient_of_error
    {operation : Stream → Except IoError α × Stream}
    {world : World}
    {error : IoError}
    {next : Stream}
    (ran : operation world.client = (.error error, next)) :
    (onClient operation).exec world =
      (.error (.error (.io error)), { world with client := next }) := by
  rw [onClient, Program.exec_onStream, ran]
  rfl

/-- How authentication ends: with an error of the read, at the end of the
stream, with the protocol switched, with a client that does not take the
answer, or with a redirect. -/
inductive AuthOutcome (config : ServerConfig) (world : World) : Prop
  | failed (error : IoError) (next : Stream)
      (read : world.client.read REQUEST_BUF_LEN = (.error error, next))
      (executed : (authenticate config).exec world =
        (.error (.error (.io error)), { world with client := next }))
  | silent (next : Stream)
      (read : world.client.read REQUEST_BUF_LEN = (.ok [], next))
      (executed : (authenticate config).exec world =
        (.ok false, { world with client := next }))
  | switched (request : Bytes) (next : Stream)
      (read : world.client.read REQUEST_BUF_LEN = (.ok request, next))
      (detected : detectGhostAuth request config.realityAuthKey = true)
      (accepts : next.Accepts (Text.utf8Bytes switchingResponse).length)
      (executed : (authenticate config).exec world =
        (.ok true, { world with
          client := { next with
            outgoing := next.outgoing ++ Text.utf8Bytes switchingResponse } }))
  | unanswered (request : Bytes) (next after : Stream) (error : IoError)
      (read : world.client.read REQUEST_BUF_LEN = (.ok request, next))
      (detected : detectGhostAuth request config.realityAuthKey = true)
      (refused : ¬next.Accepts (Text.utf8Bytes switchingResponse).length)
      (executed : (authenticate config).exec world =
        (.error (.error (.io error)), { world with client := after }))
  | redirected (request : Bytes) (next : Stream)
      (read : world.client.read REQUEST_BUF_LEN = (.ok request, next))
      (foreign : detectGhostAuth request config.realityAuthKey = false)
      (executed : (authenticate config).exec world =
        (.ok false, { world with
          client := (next.writeAll (Text.utf8Bytes
            (redirectResponse config.maskDomain))).2 }))

/-- Every way authentication can end. -/
theorem authenticate_outcome (config : ServerConfig) (world : World) :
    AuthOutcome config world := by
  cases read : world.client.read REQUEST_BUF_LEN with
  | mk outcome next =>
      cases outcome with
      | error error =>
          exact .failed error next read
            (Program.exec_bind_of_error (exec_onClient_of_error read))
      | ok request =>
          have continues := (show (authenticate config).exec world = _ from
            Program.exec_bind_of_ok (exec_onClient_of_ok read))
          by_cases empty : request = []
          · subst empty
            exact .silent next read continues
          rw [if_neg empty] at continues
          by_cases detected :
              detectGhostAuth request config.realityAuthKey = true
          · rw [if_pos detected] at continues
            rcases next.writeAll_cases (Text.utf8Bytes switchingResponse) with
              ⟨accepts, written⟩ | ⟨refused, error, after, unwritten⟩
            · exact .switched request next read detected accepts
                (continues.trans
                  (Program.exec_bind_of_ok (exec_onClient_of_ok written)))
            · exact .unanswered request next after error read detected refused
                (continues.trans (Program.exec_bind_of_error
                  (exec_onClient_of_error unwritten)))
          · rw [if_neg detected] at continues
            exact .redirected request next read
              (Bool.eq_false_of_not_eq_true detected) continues

/-! ## Serving a connection -/

/-- Serve a connection of a disguised server, after its TLS handshake. -/
def runWithReality
    (provider : Provider)
    (network : Network)
    (config : ServerConfig) : Handler World (Option Session) := do
  let isGhost ← authenticate config
  if isGhost then
    some <$> handleConnection provider network (.ofConfig config)
  else return none

/-- Serve a connection of a plain server. -/
def runPlain
    (provider : Provider)
    (network : Network)
    (config : ServerConfig) : Handler World (Option Session) :=
  some <$> handleConnection provider network (.ofConfig config)

/-- Serve a connection, as the settings say. -/
def run
    (provider : Provider)
    (network : Network)
    (config : ServerConfig) : Handler World (Option Session) :=
  if config.enableReality then runWithReality provider network config
  else runPlain provider network config

/-! ## Whole connections -/

/-- A client connection: over before its relay, or relaying. -/
inductive Connection
  | closed (world : World)
  | relaying (world : World) (session : Session) (relay : RelayState)

/-- The connection a server makes of a client stream. -/
def Connection.start
    (provider : Provider)
    (network : Network)
    (config : ServerConfig)
    (client : Stream)
    (clientClosed targetClosed : Bool) : Connection :=
  match (run provider network config).exec (World.start client) with
  | (.ok (some session), world) =>
      .relaying world session
        (relayStart world.client.unread world.target.unread clientClosed
          targetClosed)
  | (_, world) => .closed world

/-- On a plain server, a handled connection starts to relay. -/
theorem Connection.start_of_handled
    {provider : Provider}
    {network : Network}
    {config : ServerConfig}
    (plain : config.enableReality = false)
    {client : Stream}
    {session : Session}
    {world : World}
    (handled : (handleConnection provider network (.ofConfig config)).exec
      (World.start client) = (.ok session, world))
    (clientClosed targetClosed : Bool) :
    Connection.start provider network config client clientClosed
        targetClosed =
      .relaying world session (relayStart world.client.unread
        world.target.unread clientClosed targetClosed) := by
  have ran : (run provider network config).exec (World.start client) =
      (.ok (some session), world) := by
    rw [run, plain, runPlain]
    simp [Program.exec_map, handled]
  rw [Connection.start, ran]

/-- One event of a connection. -/
def Connection.step
    (config : ServerConfig)
    (draws : Nat → Draw config.maxPaddingLen.toNat) :
    Connection → JoinedEvent → Option Connection
  | .closed _, _ => none
  | .relaying world session relay, event =>
      (relayStep config session draws relay event).map
        (.relaying world session)

/-- The addresses a connection has connected to. -/
def Connection.dialed : Connection → List SocketAddr
  | .closed world => world.dialed
  | .relaying world _ _ => world.dialed

/-- The bytes a connection has forwarded to its target. -/
def Connection.forwarded : Connection → Bytes
  | .closed world => world.target.outgoing
  | .relaying world _ relay => world.target.outgoing ++ relay.left.written

end Server
end GhostProtocol
