import GhostProtocol.Foundation.Pool
import GhostProtocol.Server.AccessControl

/-!
# A server with many clients

A server accepts connections for as long as it runs and serves each of them in
a task of its own, between the events of the others.  A stranger to a disguised
server is turned away in a way that depends on nothing but its own bytes and
the domain of the disguise.  A client that is served gets the stream of its own
target, sealed with its own key, and only what it has sealed itself reaches
that target.
-/

namespace GhostProtocol
namespace Server

open Foundation Foundation.AsyncTask Common Crypto Relay

/-- A client that connects: its fresh stream, whether its stream and the one of
its target end, and the random choices for its frames. -/
structure Peer (config : ServerConfig) where
  client : Stream
  fresh : client.outgoing = []
  clientClosed : Bool
  targetClosed : Bool
  draws : Nat → Draw config.maxPaddingLen.toNat

/-- The connections of a server. -/
def listener
    (provider : Provider)
    (network : Network)
    (config : ServerConfig) :
    Pool.Machine (Peer config) Connection JoinedEvent where
  start peer :=
    Connection.start provider network config peer.client peer.clientClosed
      peer.targetClosed
  step peer := Connection.step config peer.draws

/-- A connection at some moment of a run of a server. -/
structure Moment
    (provider : Provider)
    (network : Network)
    (config : ServerConfig) where
  labels : List (Pool.Label (Peer config) JoinedEvent)
  members : List (Pool.Member (Peer config) Connection)
  reached : Run.run (Pool.step (listener provider network config)) [] labels =
    some members
  id : Nat
  peer : Peer config
  connection : Connection
  found : members[id]? = some ⟨peer, connection⟩

namespace Moment

variable
  {provider : Provider}
  {network : Network}
  {config : ServerConfig}

/-- What happens to a connection is a run of its own, whatever happens to the
others. -/
theorem ran (moment : Moment provider network config) :
    Run.run (Connection.step config moment.peer.draws)
        (Connection.start provider network config moment.peer.client
          moment.peer.clientClosed moment.peer.targetClosed)
        (Pool.eventsOf moment.id moment.labels) =
      some moment.connection := by
  have ran := Pool.ran_of_run moment.reached moment.found
  simp only [Pool.Member.Ran, listener] at ran
  exact ran

/-- The only connection of a server, when it has just been accepted. -/
def first
    (provider : Provider)
    (network : Network)
    (config : ServerConfig)
    (peer : Peer config) : Moment provider network config where
  labels := [.spawn peer]
  members := [⟨peer, Connection.start provider network config peer.client
    peer.clientClosed peer.targetClosed⟩]
  reached := rfl
  id := 0
  peer
  connection := Connection.start provider network config peer.client
    peer.clientClosed peer.targetClosed
  found := rfl

end Moment

/-! ## Strangers -/

/-- No request that the first read of the client returns is detected. -/
def Stranger (config : ServerConfig) (client : Stream) : Prop :=
  ∀ request next, client.read REQUEST_BUF_LEN = (.ok request, next) →
    detectGhostAuth request config.realityAuthKey = false

/-- What becomes of a client that is turned away: it has been read once, and
gets the redirect if it has sent anything. -/
def turnedAway (maskDomain : String) (client : Stream) : Stream :=
  match client.read REQUEST_BUF_LEN with
  | (.error _, next) => next
  | (.ok request, next) =>
      if request = [] then next
      else (next.writeAll (Text.utf8Bytes (redirectResponse maskDomain))).2

/-- A stranger is not authenticated. -/
theorem authenticate_of_stranger
    {config : ServerConfig}
    {client : Stream}
    (stranger : Stranger config client) :
    ∃ result, result ≠ .ok true ∧
      (authenticate config).exec (.start client) =
        (result, { World.start client with
          client := turnedAway config.maskDomain client }) := by
  have notTrue : (.ok false : Except (Fault AnyError) Bool) ≠ .ok true := by
    intro equal
    cases equal
  cases read : client.read REQUEST_BUF_LEN with
  | mk outcome next =>
      have away : turnedAway config.maskDomain client = match
          (outcome, next) with
        | (.error _, next) => next
        | (.ok request, next) =>
            if request = [] then next
            else (next.writeAll
              (Text.utf8Bytes (redirectResponse config.maskDomain))).2 := by
        rw [turnedAway, read]
      cases outcome with
      | error error =>
          refine ⟨.error (.error (.io error)), ?_, ?_⟩
          · intro equal
            cases equal
          · rw [away]
            exact Program.exec_bind_of_error (exec_onClient_of_error read)
      | ok request =>
          refine ⟨.ok false, notTrue, ?_⟩
          have continues := (show (authenticate config).exec (.start client) = _
            from Program.exec_bind_of_ok (exec_onClient_of_ok read))
          rw [continues, away]
          simp only
          by_cases empty : request = []
          · rw [if_pos empty, if_pos empty]
            rfl
          · rw [if_neg empty, if_neg empty,
              if_neg (by rw [stranger request next read]; exact Bool.noConfusion)]
            rfl

/-- A stranger is turned away and gets no session. -/
theorem run_of_stranger
    (provider : Provider)
    (network : Network)
    {config : ServerConfig}
    (reality : config.enableReality = true)
    {client : Stream}
    (stranger : Stranger config client) :
    ∃ result, (∀ session, result ≠ .ok (some session)) ∧
      (run provider network config).exec (.start client) =
        (result, { World.start client with
          client := turnedAway config.maskDomain client }) := by
  obtain ⟨result, notTrue, authenticated⟩ := authenticate_of_stranger stranger
  rw [run, if_pos reality, runWithReality]
  cases result with
  | error fault =>
      refine ⟨.error fault, ?_, Program.exec_bind_of_error authenticated⟩
      intro session equal
      cases equal
  | ok isGhost =>
      cases isGhost with
      | true => exact absurd rfl notTrue
      | false =>
          refine ⟨.ok none, ?_, Program.exec_bind_of_ok authenticated⟩
          intro session equal
          cases equal

/-- A connection without a session is over. -/
theorem Connection.start_of_closed
    {provider : Provider}
    {network : Network}
    {config : ServerConfig}
    {client : Stream}
    {result : Except (Fault AnyError) (Option Session)}
    {world : World}
    (noSession : ∀ session, result ≠ .ok (some session))
    (ran : (run provider network config).exec (.start client) =
      (result, world))
    (clientClosed targetClosed : Bool) :
    Connection.start provider network config client clientClosed
      targetClosed = .closed world := by
  rw [Connection.start, ran]
  split
  · rename_i session other equal
    exact absurd (Prod.mk.inj equal).1 (noSession session)
  · rename_i equal
    rw [(Prod.mk.inj equal).2]

/-- In every run of a disguised server, a stranger has been turned away. -/
theorem Moment.turnedAway
    {provider : Provider}
    {network : Network}
    {config : ServerConfig}
    (moment : Moment provider network config)
    (reality : config.enableReality = true)
    (stranger : Stranger config moment.peer.client) :
    moment.connection = .closed { World.start moment.peer.client with
      client := turnedAway config.maskDomain moment.peer.client } := by
  obtain ⟨result, noSession, executed⟩ :=
    run_of_stranger provider network reality stranger
  have ran := moment.ran
  rw [Connection.start_of_closed noSession executed] at ran
  exact run_of_closed ran

/-- Two disguised servers with the same domain, whatever their users, keys,
networks, other clients and histories are, end the connection of a stranger to
both alike: with the same bytes written to it, with nothing looked up and with
nothing connected to. -/
theorem strangers_alike
    {firstProvider secondProvider : Provider}
    {firstNetwork secondNetwork : Network}
    {firstConfig secondConfig : ServerConfig}
    (firstReality : firstConfig.enableReality = true)
    (secondReality : secondConfig.enableReality = true)
    (sameDomain : firstConfig.maskDomain = secondConfig.maskDomain)
    (first : Moment firstProvider firstNetwork firstConfig)
    (second : Moment secondProvider secondNetwork secondConfig)
    (sameClient : first.peer.client = second.peer.client)
    (firstStranger : Stranger firstConfig first.peer.client)
    (secondStranger : Stranger secondConfig second.peer.client) :
    ∃ world, first.connection = .closed world ∧
      second.connection = .closed world ∧
      world.client = turnedAway firstConfig.maskDomain first.peer.client ∧
      world.lookups = [] ∧ world.dialed = [] := by
  refine ⟨_, first.turnedAway firstReality firstStranger, ?_, rfl, rfl, rfl⟩
  rw [second.turnedAway secondReality secondStranger, sameDomain, sameClient]

/-- A disguised server with the given users and key. -/
def disguised (allowedUsers : List String) (realityAuthKey : String) :
    ServerConfig :=
  { ServerConfig.default with
    enableReality := true
    allowedUsers
    realityAuthKey }

/-- A scanner that asks for a page. -/
def scanner (config : ServerConfig) : Peer config where
  client := Stream.ofSegments [Text.utf8Bytes "GET / HTTP/1.1\r\n\r\n"]
  fresh := rfl
  clientClosed := true
  targetClosed := true
  draws _ := {
    nonce := Block.ofBytes 12 []
    padding := ⟨[], Nat.zero_le _⟩ }

/-- A network without hosts. -/
def noHosts : Network where
  lookupHost _ := .ok []
  connect _ := .error .unexpectedEof

/-- A scanner is a stranger, whatever the key is. -/
theorem stranger_scanner (config : ServerConfig) :
    Stranger config (scanner config).client := by
  intro request next read
  obtain ⟨same, -⟩ := Prod.mk.inj read
  obtain rfl := Except.ok.inj same
  have noMarker : Text.afterFirst authMarker.toList (Text.fromUtf8Lossy
      (Text.utf8Bytes "GET / HTTP/1.1\r\n\r\n")) = none := by
    decide +kernel
  change detectGhostAuth
    (Text.utf8Bytes "GET / HTTP/1.1\r\n\r\n") _ = false
  unfold detectGhostAuth
  rw [noMarker]

/-- A scanner cannot tell a server with a user from one without. -/
theorem strangers_alike_scanner :
    let first := Moment.first Provider.standard noHosts
      (disguised ["01"] "ab") (scanner _)
    let second := Moment.first Provider.standard noHosts
      (disguised [] "cd") (scanner _)
    ∃ world, first.connection = .closed world ∧
      second.connection = .closed world ∧
      world.client = turnedAway "www.apple.com" first.peer.client ∧
      world.lookups = [] ∧ world.dialed = [] :=
  strangers_alike rfl rfl rfl _ _ rfl (stranger_scanner _) (stranger_scanner _)

/-! ## Clients that are served -/

/-- What remains of a client's bytes for its tunnel: all of them, or on a
disguised server what follows the authenticated request. -/
def TunnelBytes
    (config : ServerConfig)
    (client : Stream)
    (bytes : Bytes) : Prop :=
  if config.enableReality then
    ∃ request next,
      client.read REQUEST_BUF_LEN = (.ok request, next) ∧
        client.unread = request ++ bytes ∧
        CarriesToken config.realityAuthKey.toList request
  else client.unread = bytes

/-- What is in clear between a server and a client that it serves. -/
def greetingOf (config : ServerConfig) : Bytes :=
  if config.enableReality then Text.utf8Bytes switchingResponse else []

/-- A plain server reads the tunnel from the start. -/
theorem TunnelBytes.of_plain
    {config : ServerConfig}
    {client : Stream}
    {bytes : Bytes}
    (tunnel : TunnelBytes config client bytes)
    (plain : config.enableReality = false) :
    client.unread = bytes := by
  unfold TunnelBytes at tunnel
  rw [plain] at tunnel
  exact tunnel

/-- A plain server does not greet. -/
theorem greetingOf_of_plain
    {config : ServerConfig}
    (plain : config.enableReality = false) :
    greetingOf config = [] := by
  rw [greetingOf, plain]
  rfl

/-- A connection that relays: its client was admitted, the target is the one of
its first frame, the target has been sent the payload of that frame and what
the client's later frames deliver, and the client has been sent a greeting and
frames of its user that deliver the target's stream. -/
structure Served
    (provider : Provider)
    (network : Network)
    (config : ServerConfig)
    (client : Stream)
    (world : World)
    (session : Session)
    (relay : RelayState) : Prop where
  admitted : ∃ bytes, TunnelBytes config client bytes ∧
    Admitted provider config.allowedUsers.toFinset bytes session.userId
      session.frame world.client.unread
  resolves : Resolves network session.frame.target session.address
  dialed : world.dialed = [session.address]
  forwarded : world.target.outgoing = session.frame.payload
  answered : world.client.outgoing = greetingOf config
  remote : ∃ remote, network.connect session.address = .ok remote ∧
    world.target.unread = remote.incoming.flatten
  uploaded : relay.left.written <+:
    deliver (cipherOf provider session.userId) world.client.unread
  downloaded : deliver (cipherOf provider session.userId)
    relay.right.written <+: world.target.unread

/-- A connection that is over before its relay has answered in clear, and has
connected only on behalf of a client that was granted the address. -/
structure Refused
    (provider : Provider)
    (network : Network)
    (config : ServerConfig)
    (client : Stream)
    (world : World) : Prop where
  answered : world.client.outgoing <+: greetingOf config ∨
    config.enableReality = true ∧ world.client.outgoing <+:
      Text.utf8Bytes (redirectResponse config.maskDomain)
  dialed : (world.dialed = [] ∧ world.target.outgoing = []) ∨
    ∃ address, world.dialed = [address] ∧
      Granted provider network config client address

/-- What every connection of a server has done. -/
def Accounted
    (provider : Provider)
    (network : Network)
    (config : ServerConfig)
    (client : Stream) : Connection → Prop
  | .closed world => Refused provider network config client world
  | .relaying world session relay =>
      Served provider network config client world session relay

/-! ## What handling writes and connects to -/

/-- The bytes written to the client so far. -/
def answer (world : World) : Bytes :=
  world.client.outgoing

/-- Nothing is written to the client when it is read. -/
theorem answer_readExact (count : Nat) :
    (onClient (Stream.readExact count)).Keeps answer := by
  intro world
  rw [onClient, Program.exec_onStream]
  exact world.client.outgoing_readExact count

/-- Nothing is written to the client while it is authorized. -/
theorem answer_authorizeUser (state : ServerState) :
    (authorizeUser state).Keeps answer := by
  refine (answer_readExact _).bind fun idBytes => ?_
  simp only
  split_ifs
  · exact Program.keeps_pure _ _
  · exact Program.keeps_failWith _ _

/-- Nothing is written to the client while its first frame is read. -/
theorem answer_readInitFrame (cipher : GhostCipher) :
    (readInitFrame cipher).Keeps answer := by
  refine (answer_readExact _).bind fun lenBuf => ?_
  simp only
  split_ifs
  · exact Program.keeps_failWith _ _
  · refine (answer_readExact _).bind fun encryptedData => ?_
    exact (Program.keeps_ofExcept _ _).bind fun plaintext =>
      Program.keeps_ofExcept _ _

/-- Nothing is written to the client while its target is resolved. -/
theorem answer_resolveTarget (network : Network) (target : TargetAddr) :
    (resolveTarget network target).Keeps answer := by
  intro world
  obtain ⟨lookups, ⟨fault, failed⟩ | ⟨address, resolved, -⟩⟩ :=
    resolveTarget_cases network target world
  · rw [failed]
    rfl
  · rw [resolved]
    rfl

/-- Nothing is written to the client while its connection is handled. -/
theorem answer_handleConnection
    (provider : Provider)
    (network : Network)
    (state : ServerState) :
    (handleConnection provider network state).Keeps answer := by
  refine (answer_authorizeUser state).bind fun userId => ?_
  refine (Program.keeps_ofExcept _ _).bind fun cipher => ?_
  refine (answer_readInitFrame cipher).bind fun frame => ?_
  refine (answer_resolveTarget network frame.target).bind fun address => ?_
  refine Program.Keeps.bind (fun world => ?_) fun _ => ?_
  · rw [answer, connectTarget_client]
    rfl
  refine Program.Keeps.bind (fun world => ?_) fun _ => Program.keeps_pure _ _
  rw [answer, forwardPayload_client]
  rfl

/-- A connection that is established is to a host that takes it. -/
theorem connectTarget_eq_ok
    {network : Network}
    {target : TargetAddr}
    {address : SocketAddr}
    {world next : World}
    (connected : (connectTarget network target address).exec world =
      (.ok (), next)) :
    ∃ remote, network.connect address = .ok remote ∧
      next = { world with
        dialed := world.dialed ++ [address]
        target := remote.stream } := by
  rw [connectTarget, Program.exec_bind, Program.exec_update] at connected
  simp only at connected
  cases found : network.connect address with
  | error error =>
      rw [found] at connected
      cases connected
  | ok remote =>
      rw [found] at connected
      exact ⟨remote, rfl, (Prod.mk.inj connected).2.symm⟩

/-- A payload that is forwarded has been written to the target. -/
theorem forwardPayload_eq_ok
    {frame : GhostFrame}
    {world next : World}
    (forwards : (forwardPayload frame).exec world = (.ok (), next)) :
    next = { world with
      target := { world.target with
        outgoing := world.target.outgoing ++ frame.payload } } := by
  unfold forwardPayload at forwards
  split_ifs at forwards with nonempty
  · rw [onTarget, Program.exec_onStream] at forwards
    rcases world.target.writeAll_cases frame.payload with
      ⟨-, written⟩ | ⟨-, error, after, failed⟩
    · rw [written] at forwards
      exact (Prod.mk.inj forwards).2.symm
    · rw [failed] at forwards
      cases (Prod.mk.inj forwards).1
  · rw [not_not.mp nonempty, List.append_nil]
    exact (Prod.mk.inj forwards).2.symm

/-- A session has a target that has been connected to and has been sent the
payload of the first frame. -/
theorem target_of_handleConnection
    {provider : Provider}
    {network : Network}
    {state : ServerState}
    {world next : World}
    {session : Session}
    (handled : (handleConnection provider network state).exec world =
      (.ok session, next)) :
    ∃ remote, network.connect session.address = .ok remote ∧
      next.dialed = world.dialed ++ [session.address] ∧
      next.target = { remote.stream with outgoing := session.frame.payload } := by
  rw [handleConnection] at handled
  rcases authorizeUser_cases state world with
    ⟨fault, client, failed⟩ | ⟨userId, client, authorized, -, -⟩
  · rw [Program.exec_bind_of_error failed] at handled
    cases handled
  rw [Program.exec_bind_of_ok authorized,
    Program.exec_bind_of_ok (exec_newCipher provider userId _)] at handled
  rcases readInitFrame_cases (cipherOf provider userId) { world with client } with
    ⟨fault, after, failed⟩ | ⟨frame, blob, after, read, -, -, -⟩
  · rw [Program.exec_bind_of_error failed] at handled
    cases handled
  rw [Program.exec_bind_of_ok read] at handled
  obtain ⟨lookups, ⟨fault, failed⟩ | ⟨address, resolved, -⟩⟩ :=
    resolveTarget_cases network frame.target { world with client := after }
  · rw [Program.exec_bind_of_error failed] at handled
    cases handled
  rw [Program.exec_bind_of_ok resolved] at handled
  obtain ⟨_, connected, connects, handled⟩ :=
    Program.exec_bind_eq_ok.mp handled
  obtain ⟨_, forwarded, forwards, handled⟩ :=
    Program.exec_bind_eq_ok.mp handled
  obtain ⟨sameSession, rfl⟩ := Prod.mk.inj handled
  obtain rfl := Except.ok.inj sameSession
  obtain ⟨remote, takes, rfl⟩ := connectTarget_eq_ok connects
  obtain rfl := forwardPayload_eq_ok forwards
  exact ⟨remote, takes, rfl, rfl⟩

/-! ## Whole connections -/

/-- Authentication writes part of one of its two answers. -/
theorem answer_authenticate (config : ServerConfig) (world : World) :
    answer ((authenticate config).exec world).2 <+:
        answer world ++ Text.utf8Bytes switchingResponse ∨
      answer ((authenticate config).exec world).2 <+:
        answer world ++
          Text.utf8Bytes (redirectResponse config.maskDomain) := by
  have kept := world.client.outgoing_read REQUEST_BUF_LEN
  cases read : world.client.read REQUEST_BUF_LEN with
  | mk outcome next =>
      rw [read] at kept
      have nothing : next.outgoing <+:
          answer world ++ Text.utf8Bytes switchingResponse :=
        kept ▸ List.prefix_append _ _
      cases outcome with
      | error error =>
          left
          rw [show (authenticate config).exec world = _ from
            Program.exec_bind_of_error (exec_onClient_of_error read)]
          exact nothing
      | ok request =>
          rw [show (authenticate config).exec world = _ from
            Program.exec_bind_of_ok (exec_onClient_of_ok read)]
          by_cases empty : request = []
          · rw [if_pos empty]
            exact .inl nothing
          rw [if_neg empty]
          by_cases detected :
              detectGhostAuth request config.realityAuthKey = true
          · rw [if_pos detected]
            left
            rw [Program.observe_exec_bind answer fun _ _ => rfl, answer,
              onClient, Program.exec_onStream, answer, ← kept]
            exact next.outgoing_writeAll_prefix _
          · rw [if_neg detected]
            right
            rw [Program.observe_exec_bind answer fun _ _ => rfl, answer,
              Program.exec_attempt, onClient, Program.exec_onStream, answer,
              ← kept]
            exact next.outgoing_writeAll_prefix _

/-- A server writes nothing to a client in clear but its greeting and the
redirect. -/
theorem answer_run
    (provider : Provider)
    (network : Network)
    (config : ServerConfig)
    {client : Stream}
    (fresh : client.outgoing = []) :
    answer ((run provider network config).exec (.start client)).2 <+:
        greetingOf config ∨
      config.enableReality = true ∧
        answer ((run provider network config).exec (.start client)).2 <+:
          Text.utf8Bytes (redirectResponse config.maskDomain) := by
  have handling : Program.Keeps answer
      (some <$> handleConnection provider network (.ofConfig config)) :=
    (answer_handleConnection provider network _).map some
  have start : answer (World.start client) = [] := fresh
  unfold run greetingOf
  split_ifs with reality
  · have answered := answer_authenticate config (.start client)
    rw [start, List.nil_append, List.nil_append] at answered
    rw [runWithReality, Program.observe_exec_bind answer]
    · exact answered.imp_right fun redirected => ⟨reality, redirected⟩
    · intro isGhost world
      split_ifs
      · exact handling world
      · rfl
  · left
    rw [runPlain, handling, start]

/-- A session is opened on the bytes of the tunnel, after the greeting. -/
theorem opened_of_run
    {provider : Provider}
    {network : Network}
    {config : ServerConfig}
    {client : Stream}
    {session : Session}
    {world : World}
    (ran : (run provider network config).exec (.start client) =
      (.ok (some session), world)) :
    ∃ stream, TunnelBytes config client stream.unread ∧
      stream.outgoing = client.outgoing ++ greetingOf config ∧
      (handleConnection provider network (.ofConfig config)).exec
          { World.start client with client := stream } =
        (.ok session, world) := by
  have opened : ∀ {before : World},
      (some <$> handleConnection provider network (.ofConfig config)).exec
          before = (.ok (some session), world) →
        (handleConnection provider network (.ofConfig config)).exec before =
          (.ok session, world) := by
    intro before ended
    rw [Program.exec_map] at ended
    cases handled : (handleConnection provider network
        (.ofConfig config)).exec before with
    | mk outcome after =>
        rw [handled] at ended
        cases outcome with
        | error fault => cases ended
        | ok found =>
            obtain ⟨same, rfl⟩ := Prod.mk.inj ended
            rw [Option.some.inj (Except.ok.inj same)]
  unfold run at ran
  unfold TunnelBytes greetingOf
  split_ifs at ran ⊢ with reality
  · rw [runWithReality] at ran
    cases authenticate_outcome config (.start client) with
    | failed error next read executed =>
        rw [Program.exec_bind_of_error executed] at ran
        cases ran
    | silent next read executed =>
        rw [Program.exec_bind_of_ok executed] at ran
        cases ran
    | switched request next read detected accepts executed =>
        rw [Program.exec_bind_of_ok executed] at ran
        have kept := client.outgoing_read REQUEST_BUF_LEN
        rw [show client.read REQUEST_BUF_LEN = _ from read] at kept
        have unread : client.unread = request ++ next.unread :=
          Stream.unread_of_read read
        refine ⟨{ next with
            outgoing := next.outgoing ++ Text.utf8Bytes switchingResponse },
          ⟨request, next, read, unread,
            carriesToken_of_detectGhostAuth detected⟩, ?_, opened ran⟩
        exact congrArg (· ++ Text.utf8Bytes switchingResponse) kept
    | unanswered request next after error read detected refused executed =>
        rw [Program.exec_bind_of_error executed] at ran
        cases ran
    | redirected request next read foreign executed =>
        rw [Program.exec_bind_of_ok executed] at ran
        cases ran
  · exact ⟨client, rfl, (List.append_nil _).symm, opened ran⟩

/-- A connection that relays goes on with the same session. -/
theorem relays_of_run
    {config : ServerConfig}
    {draws : Nat → Draw config.maxPaddingLen.toNat}
    {world : World}
    {session : Session}
    {relay : RelayState}
    {events : List JoinedEvent}
    {connection : Connection}
    (reached : Run.run (Connection.step config draws)
      (.relaying world session relay) events = some connection) :
    ∃ final, connection = .relaying world session final ∧
      Run.run (relayStep config session draws) relay events = some final := by
  induction events generalizing relay with
  | nil => exact ⟨relay, (Option.some.inj reached).symm, rfl⟩
  | cons event events inductionHypothesis =>
      obtain ⟨next, stepped, rest⟩ := (Run.run_cons_eq_some ..).mp reached
      obtain ⟨after, moved, rfl⟩ := Option.map_eq_some_iff.mp stepped
      obtain ⟨final, equal, ran⟩ := inductionHypothesis rest
      exact ⟨final, equal, (Run.run_cons_eq_some ..).mpr ⟨after, moved, ran⟩⟩

/-- A connection with a session is served along its run. -/
theorem served_of_run
    {provider : Provider}
    (lawful : provider.aead.Lawful)
    {network : Network}
    {config : ServerConfig}
    {client : Stream}
    (fresh : client.outgoing = [])
    {session : Session}
    {world : World}
    (ran : (run provider network config).exec (.start client) =
      (.ok (some session), world))
    {clientClosed targetClosed : Bool}
    {draws : Nat → Draw config.maxPaddingLen.toNat}
    {events : List JoinedEvent}
    {relay : RelayState}
    (reached : Run.run (relayStep config session draws)
      (relayStart world.client.unread world.target.unread clientClosed
        targetClosed) events = some relay) :
    Served provider network config client world session relay := by
  obtain ⟨stream, tunnel, greeted, handled⟩ := opened_of_run ran
  obtain ⟨admitted, resolves, sameCipher⟩ :=
    admitted_of_handleConnection handled
  obtain ⟨remote, takes, dialed, target⟩ := target_of_handleConnection handled
  have silent := answer_handleConnection provider network (.ofConfig config)
    { World.start client with client := stream }
  rw [handled] at silent
  obtain ⟨uploads, downloads⟩ := runs_of_run_stepSelect reached
  rw [upload, sameCipher] at uploads
  have uploaded := written_prefix_of_run (receiveLoop_predicts _) uploads
  have sealedLawful : (sealingOf config session).cipher.aead.Lawful := by
    change session.cipher.aead.Lawful
    rw [sameCipher]
    exact lawful
  have downloaded := (deliver_written_of_run sealedLawful downloads).1
  change deliver session.cipher _ <+: _ at downloaded
  rw [sameCipher] at downloaded
  exact {
    admitted := ⟨stream.unread, tunnel, admitted⟩
    resolves
    dialed
    forwarded := by rw [target]
    answered := by
      rw [fresh, List.nil_append] at greeted
      exact silent.trans greeted
    remote := ⟨remote, takes, by rw [target]; rfl⟩
    uploaded := (List.prefix_append _ _).trans uploaded
    downloaded }

/-- A connection without a session has been refused. -/
theorem refused_of_run
    {provider : Provider}
    {network : Network}
    {config : ServerConfig}
    {client : Stream}
    (fresh : client.outgoing = [])
    {result : Except (Fault AnyError) (Option Session)}
    {world : World}
    (ran : (run provider network config).exec (.start client) =
      (result, world)) :
    Refused provider network config client world := by
  have answered := answer_run provider network config fresh
  have granted := run_cases provider network config client
  rw [ran] at answered granted
  refine ⟨answered, ?_⟩
  rcases granted with ⟨_, next, same, -, nothing⟩ | ⟨address, granted, dialed⟩
  · obtain ⟨-, rfl⟩ := Prod.mk.inj same
    exact .inl nothing
  · exact .inr ⟨address, dialed, granted⟩

/-- A connection of a server has been closed without a session, or relays since
it was started. -/
theorem Moment.cases
    {provider : Provider}
    {network : Network}
    {config : ServerConfig}
    (moment : Moment provider network config) :
    (∃ result world, moment.connection = .closed world ∧
      (∀ session, result ≠ .ok (some session)) ∧
      (run provider network config).exec (.start moment.peer.client) =
        (result, world)) ∨
    ∃ world session relay,
      moment.connection = .relaying world session relay ∧
      (run provider network config).exec (.start moment.peer.client) =
        (.ok (some session), world) ∧
      Run.run (relayStep config session moment.peer.draws)
        (relayStart world.client.unread world.target.unread
          moment.peer.clientClosed moment.peer.targetClosed)
        (Pool.eventsOf moment.id moment.labels) = some relay := by
  have ran := moment.ran
  cases executed : (run provider network config).exec
      (.start moment.peer.client) with
  | mk result world =>
      by_cases isSession : ∃ session, result = .ok (some session)
      · obtain ⟨session, rfl⟩ := isSession
        rw [Connection.start, executed] at ran
        obtain ⟨relay, equal, relayed⟩ := relays_of_run ran
        exact .inr ⟨world, session, relay, equal, rfl, relayed⟩
      · have noSession := fun session equal => isSession ⟨session, equal⟩
        rw [Connection.start_of_closed noSession executed] at ran
        exact .inl ⟨result, world, run_of_closed ran, noSession, rfl⟩

/-- The session of a connection has the cipher of its user. -/
theorem Moment.cipher
    {provider : Provider}
    {network : Network}
    {config : ServerConfig}
    (moment : Moment provider network config)
    {world : World}
    {session : Session}
    {relay : RelayState}
    (serves : moment.connection = .relaying world session relay) :
    session.cipher = cipherOf provider session.userId := by
  rcases moment.cases with
    ⟨result, other, closed, -, -⟩ | ⟨_, _, _, relays, ran, -⟩
  · rw [serves] at closed
    cases closed
  · rw [serves] at relays
    obtain ⟨rfl, rfl, rfl⟩ := Connection.relaying.inj relays
    obtain ⟨stream, -, -, handled⟩ := opened_of_run ran
    exact (admitted_of_handleConnection handled).2.2

/-- A connection of a server is accounted for at every moment. -/
theorem Moment.accounted
    {provider : Provider}
    (lawful : provider.aead.Lawful)
    {network : Network}
    {config : ServerConfig}
    (moment : Moment provider network config) :
    Accounted provider network config moment.peer.client
      moment.connection := by
  rcases moment.cases with
    ⟨result, world, closed, -, executed⟩ |
    ⟨world, session, relay, serves, executed, relayed⟩
  · rw [closed]
    exact refused_of_run moment.peer.fresh executed
  · rw [serves]
    exact served_of_run lawful moment.peer.fresh executed relayed

/-- In every run of a server with any number of clients, every connection is
accounted for: it has been refused, or it serves its own client. -/
theorem clients_accounted
    {provider : Provider}
    (lawful : provider.aead.Lawful)
    {network : Network}
    {config : ServerConfig}
    {labels : List (Pool.Label (Peer config) JoinedEvent)}
    {members : List (Pool.Member (Peer config) Connection)}
    (reached : Run.run (Pool.step (listener provider network config)) []
      labels = some members)
    {id : Nat}
    {peer : Peer config}
    {connection : Connection}
    (found : members[id]? = some ⟨peer, connection⟩) :
    Accounted provider network config peer.client connection :=
  Moment.accounted lawful
    { labels, members, reached, id, peer, connection, found }

/-- The client of the default user is served and accounted for. -/
theorem clients_accounted_web :
    ∃ (moment : Moment Provider.standard greetingHosts ServerConfig.default)
      (world : World) (session : Session) (relay : RelayState),
      moment.connection = .relaying world session relay ∧
        world.target.outgoing = [3] ∧
        Accounted Provider.standard greetingHosts ServerConfig.default
          moment.peer.client moment.connection := by
  obtain ⟨client, world, session, fresh, serves, payload⟩ := exists_served
  let moment : Moment Provider.standard greetingHosts ServerConfig.default :=
    .first _ _ _ {
      client
      fresh
      clientClosed := false
      targetClosed := false
      draws := fun _ => {
        nonce := Block.ofBytes 12 []
        padding := ⟨[], Nat.zero_le _⟩ } }
  exact ⟨moment, world, session, _, serves, payload,
    clients_accounted Provider.standard_lawful moment.reached moment.found⟩

end Server
end GhostProtocol
