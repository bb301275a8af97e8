import GhostProtocol.Client.Listener
import GhostProtocol.Relay.Frames
import GhostProtocol.Server.Listener
import GhostProtocol.Session.Delivery

/-!
# From an application to its target

A local proxy and a server each serve any number of connections.  Where one
connection of the one is joined to one of the other by a network that keeps the
order of the bytes, the server has connected to the target that the application
has asked for, the target has been sent a front of what the application sends
behind its request, and the application a front of what the target sends.
-/

namespace GhostProtocol
namespace Session

open Foundation Foundation.AsyncTask Common Crypto Relay

/-- A tunnel at some moment of a run of a local proxy and a run of a server: a
connection of each that relays, and a network that has delivered to each a
front of what the other has written. -/
structure Path
    (provider : Provider)
    (tls : Client.TlsConnector)
    (network : Server.Network)
    (clientConfig : ClientConfig)
    (serverConfig : ServerConfig) where
  client : Client.Moment provider tls clientConfig
  stream : Stream
  toServer : Stream
  sealing : Sealing
  clientRelay : Client.RelayState
  clientServes : client.connection =
    .relaying stream toServer sealing clientRelay
  server : Server.Moment provider network serverConfig
  world : Server.World
  session : Server.Session
  serverRelay : Server.RelayState
  serverServes : server.connection = .relaying world session serverRelay
  clientArrived : server.peer.client.unread <+:
    toServer.outgoing ++ clientRelay.left.written
  serverArrived : client.application.server.unread <+:
    world.client.outgoing ++ serverRelay.right.written

/-- The bytes that the target has been sent. -/
def Path.uploaded
    {provider : Provider}
    {tls : Client.TlsConnector}
    {network : Server.Network}
    {clientConfig : ClientConfig}
    {serverConfig : ServerConfig}
    (path : Path provider tls network clientConfig serverConfig) : Bytes :=
  path.world.target.outgoing ++ path.serverRelay.left.written

/-- The bytes that the application has been sent behind the answers to its
handshake. -/
def Path.downloaded
    {provider : Provider}
    {tls : Client.TlsConnector}
    {network : Server.Network}
    {clientConfig : ClientConfig}
    {serverConfig : ServerConfig}
    (path : Path provider tls network clientConfig serverConfig) : Bytes :=
  path.clientRelay.right.written

/-- An opening in front of a stream is read back from any front of it: the user
id, the sealed frame, and a front of what follows. -/
theorem opening_of_prefix
    {first second : UserId}
    {blob encrypted rest more : Bytes}
    (short : blob.length < 65536)
    (fits : encrypted.length < 65536)
    (isPrefix : first.toList ++ (frameBytes blob ++ rest) <+:
      second.toList ++ (frameBytes encrypted ++ more)) :
    first = second ∧ blob = encrypted ∧ rest <+: more := by
  obtain ⟨behind, equal⟩ := isPrefix
  rw [List.append_assoc, List.append_assoc] at equal
  obtain ⟨ids, frames⟩ := List.append_inj equal
    (by rw [Block.length_toList, Block.length_toList])
  obtain ⟨blobs, rests⟩ := frameBytes_append_inj short fits frames
  exact ⟨Subtype.ext ids, blobs, behind, rests⟩

/-- What both ends of a tunnel have agreed on: the user, the target that the
application has asked for, and where the relayed streams begin. -/
structure Agrees
    {provider : Provider}
    {tls : Client.TlsConnector}
    {network : Server.Network}
    {clientConfig : ClientConfig}
    {serverConfig : ServerConfig}
    (path : Path provider tls network clientConfig serverConfig)
    (target : TargetAddr) : Prop where
  user : Client.parseUserId clientConfig.userId = .ok path.session.userId
  allowed : Server.hexEncode path.session.userId.toList ∈
    serverConfig.allowedUsers
  cipher : path.sealing.cipher =
    Server.cipherOf provider path.session.userId
  requests : Client.Requests path.client.application.stream.unread target
    path.stream.unread
  resolves : Server.Resolves network target path.session.address
  noPayload : path.world.target.outgoing = []
  opening : path.server.peer.client.unread =
    path.toServer.outgoing ++ path.world.client.unread
  noGreeting : path.world.client.outgoing = []
  noAnswer : path.client.application.server.unread = path.toServer.unread
  toServer : path.world.client.unread <+: path.clientRelay.left.written
  toClient : path.toServer.unread <+: path.serverRelay.right.written

/-- Both ends of a plain tunnel agree. -/
theorem agrees
    {provider : Provider}
    (lawful : provider.aead.Lawful)
    {tls : Client.TlsConnector}
    {network : Server.Network}
    {clientConfig : ClientConfig}
    (plainClient : Client.isDisguised clientConfig = false)
    {serverConfig : ServerConfig}
    (plainServer : serverConfig.enableReality = false)
    (path : Path provider tls network clientConfig serverConfig) :
    ∃ target, Agrees path target := by
  have clientServed := path.client.accounted lawful
  have serverServed := path.server.accounted lawful
  rw [path.clientServes] at clientServed
  rw [path.serverServes] at serverServed
  obtain ⟨target, requests, opened⟩ := clientServed.opened
  obtain ⟨bytes, tunnel, admitted⟩ := serverServed.admitted
  obtain ⟨userId, parsed, sameSealing, encrypted, sealed, opening⟩ :=
    opened.sealing
  obtain ⟨blob, short, opens, front⟩ := admitted.opened
  have wire : target.IsWire := by
    obtain ⟨rsv, behind, -, wire, -, -⟩ := requests
    exact wire
  obtain ⟨other, again, fits, frame⟩ := (Client.sealingOf clientConfig userId
    (Client.cipherOf provider userId)).sealFrame_spec lawful
      path.client.application.draw wire
      (show ([] : Bytes).length ≤ READ_BUF_LEN from Nat.zero_le _)
  obtain rfl := Except.ok.inj (sealed.symm.trans again)
  have whole := tunnel.of_plain plainServer
  rw [path.client.application.unused, Client.preambleOf_of_plain plainClient,
    List.nil_append, List.nil_append] at opening
  -- The opening that the server has read is the one that the client has sent.
  have arrived := path.clientArrived
  rw [opening, List.append_assoc, whole, front] at arrived
  obtain ⟨sameUser, sameBlob, later⟩ := opening_of_prefix short fits arrived
  rw [sameUser, sameBlob] at opens
  have sameFrame := Option.some.inj (opens.symm.trans frame)
  have resolves := serverServed.resolves
  have payload := serverServed.forwarded
  rw [sameFrame, Sealing.frame_target] at resolves
  rw [sameFrame, Sealing.frame_payload] at payload
  have greeting := Server.greetingOf_of_plain plainServer
  have answered := path.serverArrived
  rw [serverServed.answered, greeting, List.nil_append] at answered
  have unread := opened.preceded.of_plain plainClient
  exact ⟨target, {
    user := by rw [parsed, sameUser]
    allowed := List.mem_toFinset.mp admitted.allowed
    cipher := by
      rw [sameSealing, sameUser]
      rfl
    requests
    resolves
    noPayload := payload
    opening := by
      rw [opening, whole, front, sameUser, sameBlob, List.append_assoc]
    noGreeting := serverServed.answered.trans greeting
    noAnswer := unread
    toServer := later
    toClient := unread ▸ answered }⟩

/-! ## Both streams of a tunnel -/

section Streams

variable
  {provider : Provider}
  {tls : Client.TlsConnector}
  {network : Server.Network}
  {clientConfig : ClientConfig}
  {serverConfig : ServerConfig}

/-- What the proxy seals the application's stream with. -/
abbrev Path.relaySealing
    (path : Path provider tls network clientConfig serverConfig) : Sealing :=
  Client.relaySealing clientConfig path.sealing

/-- What has happened to the connection of the application. -/
def Path.clientEvents
    (path : Path provider tls network clientConfig serverConfig) :
    List JoinedEvent :=
  Pool.eventsOf path.client.id path.client.labels

/-- What has happened to the connection of the proxy at the server. -/
def Path.serverEvents
    (path : Path provider tls network clientConfig serverConfig) :
    List JoinedEvent :=
  Pool.eventsOf path.server.id path.server.labels

/-- No operation on the four sockets of the tunnel has failed. -/
def Path.Clean
    (path : Path provider tls network clientConfig serverConfig) : Prop :=
  (∀ event ∈ path.clientEvents, event.event ≠ .fail) ∧
    ∀ event ∈ path.serverEvents, event.event ≠ .fail

/-- The application's stream has been sent, all that was sent has arrived, and
the server has consumed it. -/
def Path.Uploaded
    (path : Path provider tls network clientConfig serverConfig) : Prop :=
  Settled (Client.upload path.relaySealing path.client.application.draws)
      path.clientRelay.left ∧
    path.server.peer.client.unread =
      path.toServer.outgoing ++ path.clientRelay.left.written ∧
    Settled (Server.upload path.session) path.serverRelay.left

/-- The target's stream has been sent, all that was sent has arrived, and the
proxy has consumed it. -/
def Path.Downloaded
    (path : Path provider tls network clientConfig serverConfig) : Prop :=
  Settled (Server.download serverConfig path.session path.server.peer.draws)
      path.serverRelay.right ∧
    path.client.application.server.unread =
      path.world.client.outgoing ++ path.serverRelay.right.written ∧
    Settled (Client.download path.relaySealing) path.clientRelay.right

/-- A tunnel that carries the streams of an application and of the target that
the application has asked for. -/
structure Carries
    (path : Path provider tls network clientConfig serverConfig)
    (target : TargetAddr) : Prop where
  user : Client.parseUserId clientConfig.userId = .ok path.session.userId
  allowed : Server.hexEncode path.session.userId.toList ∈
    serverConfig.allowedUsers
  requests : Client.Requests path.client.application.stream.unread target
    path.stream.unread
  resolves : Server.Resolves network target path.session.address
  dialed : path.world.dialed = [path.session.address]
  uploaded : path.uploaded <+: path.stream.unread ∧
    (path.Clean → path.Uploaded → path.uploaded = path.stream.unread)
  downloaded : ∃ remote, network.connect path.session.address = .ok remote ∧
    path.downloaded <+: remote.incoming.flatten ∧
      (path.Clean → path.Downloaded →
        path.downloaded = remote.incoming.flatten)

/-- The relay of a path at the proxy is a run from the start of its relay. -/
theorem Path.clientRun
    (path : Path provider tls network clientConfig serverConfig) :
    Run.run (Client.relayStep path.relaySealing path.client.application.draws)
        (Client.relayStart path.stream.unread path.toServer.unread
          path.client.application.applicationClosed
          path.client.application.serverClosed)
        path.clientEvents =
      some path.clientRelay := by
  rcases path.client.cases with
    ⟨server, closed⟩ |
    ⟨target, stream, server, sealing, relay, serves, -, -, ran⟩
  · rw [path.clientServes] at closed
    cases closed
  · rw [path.clientServes] at serves
    obtain ⟨rfl, rfl, rfl, rfl⟩ := Client.Connection.relaying.inj serves
    exact ran

/-- The relay of a path at the server is a run from the start of its relay. -/
theorem Path.serverRun
    (path : Path provider tls network clientConfig serverConfig) :
    Run.run (Server.relayStep serverConfig path.session path.server.peer.draws)
        (Server.relayStart path.world.client.unread path.world.target.unread
          path.server.peer.clientClosed path.server.peer.targetClosed)
        path.serverEvents =
      some path.serverRelay := by
  rcases path.server.cases with
    ⟨result, world, closed, -, -⟩ | ⟨world, session, relay, serves, -, ran⟩
  · rw [path.serverServes] at closed
    cases closed
  · rw [path.serverServes] at serves
    obtain ⟨rfl, rfl, rfl⟩ := Server.Connection.relaying.inj serves
    exact ran

/-- The relays of a tunnel whose ends agree exchange their streams. -/
def Agrees.exchange
    {path : Path provider tls network clientConfig serverConfig}
    {target : TargetAddr}
    (agreed : Agrees path target) :
    Exchange path.relaySealing serverConfig path.session path.stream.unread
      path.world.target.unread where
  clientDraws := path.client.application.draws
  serverDraws := path.server.peer.draws
  fromClient := path.world.client.unread
  fromServer := path.toServer.unread
  applicationClosed := path.client.application.applicationClosed
  targetClosed := path.server.peer.targetClosed
  clientClosed := path.server.peer.clientClosed
  serverClosed := path.client.application.serverClosed
  clientEvents := path.clientEvents
  serverEvents := path.serverEvents
  client := path.clientRelay
  server := path.serverRelay
  clientRun := path.clientRun
  serverRun := path.serverRun
  clientArrived := agreed.toServer
  serverArrived := agreed.toClient

/-- What is uploaded through a path is uploaded by its relays. -/
theorem Agrees.uploaded
    {path : Path provider tls network clientConfig serverConfig}
    {target : TargetAddr}
    (agreed : Agrees path target)
    (uploaded : path.Uploaded) : agreed.exchange.Uploaded := by
  obtain ⟨sent, arrived, consumed⟩ := uploaded
  rw [agreed.opening] at arrived
  exact ⟨sent, List.append_cancel_left arrived, consumed⟩

/-- What is downloaded through a path is downloaded by its relays. -/
theorem Agrees.downloaded
    {path : Path provider tls network clientConfig serverConfig}
    {target : TargetAddr}
    (agreed : Agrees path target)
    (downloaded : path.Downloaded) : agreed.exchange.Downloaded := by
  obtain ⟨sent, arrived, consumed⟩ := downloaded
  rw [agreed.noAnswer, agreed.noGreeting, List.nil_append] at arrived
  exact ⟨sent, arrived, consumed⟩

/-- In every run of a local proxy and every run of a server, with any number of
other connections on both, a plain tunnel carries the streams of its own
application and of the target that the application has asked for. -/
theorem carries_of_path
    (lawful : provider.aead.Lawful)
    (plainClient : Client.isDisguised clientConfig = false)
    (plainServer : serverConfig.enableReality = false)
    (path : Path provider tls network clientConfig serverConfig) :
    ∃ target, Carries path target := by
  obtain ⟨target, agreed⟩ := agrees lawful plainClient plainServer path
  have served := path.server.accounted lawful
  rw [path.serverServes] at served
  obtain ⟨remote, takes, incoming⟩ := served.remote
  have cipher := path.server.cipher path.serverServes
  have shared : path.session.cipher = path.relaySealing.cipher :=
    cipher.trans agreed.cipher.symm
  have sealedLawful : path.relaySealing.cipher.aead.Lawful := by
    rw [← shared, cipher]
    exact lawful
  have delivered := exchange_delivers sealedLawful shared agreed.exchange
  obtain ⟨up, down, wholeUp, wholeDown⟩ := delivered
  have written : path.uploaded = path.serverRelay.left.written := by
    rw [Path.uploaded, agreed.noPayload, List.nil_append]
  refine ⟨target, {
    user := agreed.user
    allowed := agreed.allowed
    requests := agreed.requests
    resolves := agreed.resolves
    dialed := served.dialed
    uploaded := ⟨written ▸ up, fun clean uploaded => ?_⟩
    downloaded := ⟨remote, takes, incoming ▸ down,
      fun clean downloaded => ?_⟩ }⟩
  · rw [written]
    exact wholeUp clean (agreed.uploaded uploaded)
  · rw [← incoming]
    exact wholeDown clean (agreed.downloaded downloaded)

/-- An application that has asked for a host that takes connections gets a
tunnel to it when its user is allowed. -/
theorem exists_path
    (lawful : provider.aead.Lawful)
    (plainClient : Client.isDisguised clientConfig = false)
    (plainServer : serverConfig.enableReality = false)
    {userId : UserId}
    (parsed : Client.parseUserId clientConfig.userId = .ok userId)
    (allowed : Server.hexEncode userId.toList ∈ serverConfig.allowedUsers)
    {application : Client.Application clientConfig}
    (connected : application.connected = .ok ())
    (unlimited : application.server.limit = none)
    (silent : application.server.unread = [])
    {target : TargetAddr}
    {stream : Stream}
    (asks : Client.handleSocks5Client.exec application.stream =
      (.ok target, stream))
    (wire : target.IsWire)
    {address : SocketAddr}
    (resolves : Server.Resolves network target address)
    {remote : Server.Remote}
    (takes : network.connect address = .ok remote)
    (draws : Nat → Draw serverConfig.maxPaddingLen.toNat) :
    ∃ path : Path provider tls network clientConfig serverConfig,
      path.client.application = application := by
  obtain ⟨encrypted, short, opens, executed⟩ := Client.proxyThroughGhost_plain
    lawful tls plainClient parsed wire application.draw unlimited
  rw [← connected] at executed
  have clientServes := Client.Connection.start_of_opened asks executed
  let peer : Server.Peer serverConfig := {
    client := Stream.ofSegments [userId.toList ++ frameBytes encrypted]
    fresh := rfl
    clientClosed := false
    targetClosed := false
    draws }
  have admitted : Server.Admitted provider
      (Server.ServerState.ofConfig serverConfig).allowedUsers
      (Server.World.start peer.client).client.unread userId
      ((Client.sealingOf clientConfig userId
        (Client.cipherOf provider userId)).frame application.draw target [])
      [] := by
    refine ⟨List.mem_toFinset.mpr allowed, encrypted, short, opens, ?_⟩
    change [userId.toList ++ frameBytes encrypted].flatten = _
    rw [List.flatten_cons, List.flatten_nil, List.append_assoc]
  obtain ⟨client, lookups, handled, unread⟩ :=
    Server.handleConnection_of_admitted admitted
      (by rw [Sealing.frame_target]; exact resolves) takes
      (.inl (Sealing.frame_payload _ _ _ _))
  have serverServes := Server.Connection.start_of_handled plainServer handled
    false false
  refine ⟨{
    client := .first provider tls clientConfig application
    stream
    toServer := _
    sealing := _
    clientRelay := _
    clientServes
    server := .first provider network serverConfig peer
    world := _
    session := _
    serverRelay := _
    serverServes
    clientArrived := ?_
    serverArrived := ?_ }, rfl⟩
  · change [userId.toList ++ frameBytes encrypted].flatten <+: _
    rw [List.flatten_cons, List.flatten_nil, List.append_nil]
    simp only [application.unused, List.nil_append]
    exact List.prefix_append _ _
  · change application.server.unread <+: _
    rw [silent]
    exact List.nil_prefix

end Streams

/-- The default user gets a tunnel to a web server. -/
theorem exists_webPath :
    ∃ path : Path Provider.standard Client.unusedConnector
        Server.greetingHosts Client.plainConfig ServerConfig.default,
      path.client.application = Client.webApplication _ := by
  have asks : Client.handleSocks5Client.exec
      (Client.webApplication Client.plainConfig).stream =
        (.ok (.ipV4 { ip := ⟨[1, 1, 1, 1], rfl⟩, port := 443 }), _) := rfl
  have resolves : Server.Resolves Server.greetingHosts
      (.ipV4 { ip := ⟨[1, 1, 1, 1], rfl⟩, port := 443 })
      (.v4 { ip := ⟨[1, 1, 1, 1], rfl⟩, port := 443 }) := rfl
  have takes : Server.greetingHosts.connect
      (.v4 { ip := ⟨[1, 1, 1, 1], rfl⟩, port := 443 }) = .ok _ := rfl
  have allowed : Server.hexEncode
      [0, 0, 0, 0, 0, 0, 0, 0, 0, 0, 0, 0, 0, 0, 0, 1] ∈
        ServerConfig.default.allowedUsers := by
    decide
  have parsed : Client.parseUserId Client.plainConfig.userId =
      .ok ⟨_, rfl⟩ := rfl
  exact exists_path Provider.standard_lawful rfl rfl parsed allowed rfl rfl rfl
    asks trivial resolves takes fun _ => {
      nonce := ⟨List.replicate 12 0, rfl⟩
      padding := ⟨[], Nat.zero_le _⟩ }

/-- A tunnel of the default user to a web server. -/
theorem carries_of_path_web :
    ∃ path : Path Provider.standard Client.unusedConnector
        Server.greetingHosts Client.plainConfig ServerConfig.default,
      path.client.application = Client.webApplication _ ∧
        ∃ target, Carries path target := by
  obtain ⟨path, same⟩ := exists_webPath
  exact ⟨path, same, carries_of_path Provider.standard_lawful rfl rfl path⟩

end Session
end GhostProtocol
