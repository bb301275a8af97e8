import GhostProtocol.Client.Answers
import GhostProtocol.Client.Disguise
import GhostProtocol.Foundation.Pool

/-!
# A local proxy with many applications

The local proxy accepts applications for as long as it runs and serves each of
them in a task of its own.  An application that is served gets a tunnel to the
target that it has asked for: what goes into the tunnel are frames of the
configured user that deliver its own bytes, and what comes out of it is what
those frames of the server deliver.
-/

namespace GhostProtocol
namespace Client

open Foundation Foundation.AsyncTask Common Crypto Relay

/-- The connection of an application: over before its relay, or relaying on the
connections to the application and to the server. -/
inductive Connection
  | closed (application server : Stream)
  | relaying (application server : Stream) (sealing : Sealing)
      (relay : RelayState)

/-- An application that connects, with the connection to the server that is
made for it: their fresh streams, whether they end, and the random choices for
the frames. -/
structure Application (config : ClientConfig) where
  stream : Stream
  fresh : stream.outgoing = []
  connected : Except IoError Unit
  server : Stream
  unused : server.outgoing = []
  applicationClosed : Bool
  serverClosed : Bool
  draw : Draw config.maxPaddingLen.toNat
  draws : Nat → Draw config.maxPaddingLen.toNat

/-- The connection that the proxy makes of an application: the handshake, the
opening of the tunnel, and the start of the relay. -/
def Connection.start
    (provider : Provider)
    (tls : TlsConnector)
    (config : ClientConfig)
    (application : Application config) : Connection :=
  match handleSocks5Client.exec application.stream with
  | (.error _, stream) => .closed stream application.server
  | (.ok target, stream) =>
      match (proxyThroughGhost provider tls application.connected config target
          application.draw).exec application.server with
      | (.error _, server) => .closed stream server
      | (.ok sealing, server) =>
          .relaying stream server sealing
            (relayStart stream.unread server.unread
              application.applicationClosed application.serverClosed)

/-- A tunnel that is opened is relayed. -/
theorem Connection.start_of_opened
    {provider : Provider}
    {tls : TlsConnector}
    {config : ClientConfig}
    {application : Application config}
    {target : TargetAddr}
    {stream server : Stream}
    {sealing : Sealing}
    (asks : handleSocks5Client.exec application.stream = (.ok target, stream))
    (opens : (proxyThroughGhost provider tls application.connected config target
      application.draw).exec application.server = (.ok sealing, server)) :
    Connection.start provider tls config application =
      .relaying stream server sealing
        (relayStart stream.unread server.unread application.applicationClosed
          application.serverClosed) := by
  rw [Connection.start, asks]
  simp only
  rw [opens]

/-- The frames of the relay are sealed as the settings say. -/
abbrev relaySealing (config : ClientConfig) (sealing : Sealing) : Sealing :=
  sealingOf config sealing.userId sealing.cipher

/-- One event of a connection. -/
def Connection.step
    (config : ClientConfig)
    (draws : Nat → Draw config.maxPaddingLen.toNat) :
    Connection → JoinedEvent → Option Connection
  | .closed _ _, _ => none
  | .relaying application server sealing relay, event =>
      (relayStep (relaySealing config sealing) draws relay event).map
        (.relaying application server sealing)

/-- The connections of a local proxy. -/
def listener
    (provider : Provider)
    (tls : TlsConnector)
    (config : ClientConfig) :
    Pool.Machine (Application config) Connection JoinedEvent where
  start := Connection.start provider tls config
  step application := Connection.step config application.draws

/-- A connection at some moment of a run of a local proxy. -/
structure Moment
    (provider : Provider)
    (tls : TlsConnector)
    (config : ClientConfig) where
  labels : List (Pool.Label (Application config) JoinedEvent)
  members : List (Pool.Member (Application config) Connection)
  reached : Run.run (Pool.step (listener provider tls config)) [] labels =
    some members
  id : Nat
  application : Application config
  connection : Connection
  found : members[id]? = some ⟨application, connection⟩

/-- What happens to a connection is a run of its own, whatever happens to the
others. -/
theorem Moment.ran
    {provider : Provider}
    {tls : TlsConnector}
    {config : ClientConfig}
    (moment : Moment provider tls config) :
    Run.run (Connection.step config moment.application.draws)
        (Connection.start provider tls config moment.application)
        (Pool.eventsOf moment.id moment.labels) =
      some moment.connection := by
  have ran := Pool.ran_of_run moment.reached moment.found
  simp only [Pool.Member.Ran, listener] at ran
  exact ran

/-- The only connection of a proxy, when it has just been accepted. -/
def Moment.first
    (provider : Provider)
    (tls : TlsConnector)
    (config : ClientConfig)
    (application : Application config) : Moment provider tls config where
  labels := [.spawn application]
  members := [⟨application, Connection.start provider tls config application⟩]
  reached := rfl
  id := 0
  application
  connection := Connection.start provider tls config application
  found := rfl

/-! ## The opening of a tunnel -/

/-- What stands in front of the user id: nothing, or the request of a client in
disguise. -/
def preambleOf (config : ClientConfig) : Bytes :=
  if isDisguised config then requestBytes config.maskDomain else []

/-- The answer that stands in front of the frames of the server, if the client
is in disguise. -/
def Preceded (config : ClientConfig) (bytes rest : Bytes) : Prop :=
  if isDisguised config then ∃ answer, bytes = answer ++ rest ∧ Grants answer
  else bytes = rest

/-- Without a disguise nothing stands in front. -/
theorem preambleOf_of_plain
    {config : ClientConfig}
    (plain : isDisguised config = false) :
    preambleOf config = [] := by
  rw [preambleOf, plain]
  rfl

/-- Without a disguise no answer stands in front. -/
theorem Preceded.of_plain
    {config : ClientConfig}
    {bytes rest : Bytes}
    (preceded : Preceded config bytes rest)
    (plain : isDisguised config = false) :
    bytes = rest := by
  unfold Preceded at preceded
  rw [plain] at preceded
  exact preceded

/-- A tunnel that has been opened on a fresh connection: the user id and a
sealed frame with the target have been sent, behind the preamble. -/
structure Opened
    (provider : Provider)
    (config : ClientConfig)
    (target : TargetAddr)
    (draw : Draw config.maxPaddingLen.toNat)
    (before after : Stream)
    (sealing : Sealing) : Prop where
  sealing : ∃ userId, parseUserId config.userId = .ok userId ∧
    sealing = sealingOf config userId (cipherOf provider userId) ∧
    ∃ encrypted,
      (sealingOf config userId (cipherOf provider userId)).sealFrame draw
        target [] = .ok encrypted ∧
      after.outgoing = before.outgoing ++ (preambleOf config ++
        (userId.toList ++ frameBytes encrypted))
  preceded : Preceded config before.unread after.unread

/-- An opening that is sent is the user id and the sealed frame behind its
length. -/
theorem sendOpening_eq_ok
    {provider : Provider}
    {config : ClientConfig}
    {target : TargetAddr}
    {draw : Draw config.maxPaddingLen.toNat}
    {userId : UserId}
    {stream next : Stream}
    {sealing : Sealing}
    (sent : (sendOpening provider config target draw userId).exec stream =
      (.ok sealing, next)) :
    sealing = sealingOf config userId (cipherOf provider userId) ∧
      next.unread = stream.unread ∧
      ∃ encrypted,
        (sealingOf config userId (cipherOf provider userId)).sealFrame draw
          target [] = .ok encrypted ∧
        next.outgoing =
          stream.outgoing ++ (userId.toList ++ frameBytes encrypted) := by
  have cipher : GhostCipher.new provider.aead
      (deriveKey provider userId secret).toList =
        .ok (cipherOf provider userId) :=
    GhostCipher.new_toList _ _
  obtain ⟨made, start, making, sent⟩ := Program.exec_bind_eq_ok.mp sent
  rw [cipher] at making
  obtain ⟨sameCipher, rfl⟩ := Prod.mk.inj making
  obtain rfl := Except.ok.inj sameCipher
  obtain ⟨_, named, names, sent⟩ := Program.exec_bind_eq_ok.mp sent
  obtain ⟨encrypted, middle, sealed, sent⟩ := Program.exec_bind_eq_ok.mp sent
  obtain ⟨_, announced, announces, sent⟩ := Program.exec_bind_eq_ok.mp sent
  obtain ⟨_, framed, frames, done⟩ := Program.exec_bind_eq_ok.mp sent
  obtain ⟨sameSealing, rfl⟩ := Prod.mk.inj done
  obtain rfl := Except.ok.inj sameSealing
  rw [exec_liftOutcome] at sealed
  obtain ⟨outcome, rfl⟩ := Prod.mk.inj sealed
  refine ⟨rfl, ?_, encrypted, ?_, ?_⟩
  · rw [unread_of_exec_writeAll frames, unread_of_exec_writeAll announces,
      unread_of_exec_writeAll names]
  · cases result : (sealingOf config userId
        (cipherOf provider userId)).sealFrame draw target [] with
    | error fault =>
        rw [result] at outcome
        cases fault with
        | panic => cases outcome
        | error error => cases outcome
    | ok other =>
        rw [result] at outcome
        exact congrArg Except.ok (Except.ok.inj outcome)
  · rw [(writes_writeAll _).whole frames, (writes_writeAll _).whole announces,
      (writes_writeAll _).whole names]
    simp only [frameBytes, List.append_assoc]

/-- A plain client fails before it has written anything, or sends its
opening. -/
theorem exec_proxyThroughGhost_plain
    (provider : Provider)
    (tls : TlsConnector)
    (connected : Except IoError Unit)
    {config : ClientConfig}
    (plain : isDisguised config = false)
    (target : TargetAddr)
    (draw : Draw config.maxPaddingLen.toNat)
    (stream : Stream) :
    (∃ fault, (proxyThroughGhost provider tls connected config target
        draw).exec stream = (.error fault, stream)) ∨
      ∃ userId, parseUserId config.userId = .ok userId ∧
        (proxyThroughGhost provider tls connected config target draw).exec
            stream =
          (sendOpening provider config target draw userId).exec stream := by
  cases parsed : parseUserId config.userId with
  | error fault =>
      left
      refine ⟨fault, ?_⟩
      simp only [proxyThroughGhost, parsed, Program.exec_bind,
        exec_liftOutcome]
  | ok userId =>
      cases connected with
      | error error =>
          left
          refine ⟨.error (.context ("Failed to connect to Ghost server at " ++
            config.serverAddr) (.io error)), ?_⟩
          simp only [proxyThroughGhost, parsed, Program.exec_bind,
            exec_liftOutcome]
      | ok done =>
          right
          refine ⟨userId, rfl, ?_⟩
          have continues := exec_proxyThroughGhost_of_parsed provider tls parsed
            target draw stream
          rw [plain, if_neg Bool.false_ne_true] at continues
          exact continues

/-- A tunnel that is returned has been opened. -/
theorem opened_of_proxyThroughGhost
    {provider : Provider}
    {tls : TlsConnector}
    {connected : Except IoError Unit}
    {config : ClientConfig}
    {target : TargetAddr}
    {draw : Draw config.maxPaddingLen.toNat}
    {stream next : Stream}
    {sealing : Sealing}
    (ran : (proxyThroughGhost provider tls connected config target draw).exec
      stream = (.ok sealing, next)) :
    Opened provider config target draw stream next sealing := by
  by_cases disguised : isDisguised config = true
  · rcases exec_proxyThroughGhost_cases provider tls connected disguised target
        draw stream with
      ⟨fault, after, failed, -⟩ |
      ⟨userId, answer, after, parsed, read, grants, executed⟩
    · rw [failed] at ran
      cases ran
    · rw [executed] at ran
      obtain ⟨same, unread, encrypted, sealed, written⟩ := sendOpening_eq_ok ran
      have kept := (asked config.maskDomain stream).outgoing_read
        ANSWER_BUF_LEN
      rw [read] at kept
      have asking : after.outgoing =
          stream.outgoing ++ requestBytes config.maskDomain := kept
      have front := Stream.unread_of_read read
      constructor
      · refine ⟨userId, parsed, same, encrypted, sealed, ?_⟩
        rw [written, asking, preambleOf, if_pos disguised, List.append_assoc]
      · rw [Preceded, if_pos disguised, unread]
        exact ⟨answer, front, grants⟩
  · have plain := Bool.eq_false_of_not_eq_true disguised
    rcases exec_proxyThroughGhost_plain provider tls connected plain target draw
        stream with
      ⟨fault, failed⟩ | ⟨userId, parsed, executed⟩
    · rw [failed] at ran
      cases ran
    · rw [executed] at ran
      obtain ⟨same, unread, encrypted, sealed, written⟩ := sendOpening_eq_ok ran
      constructor
      · refine ⟨userId, parsed, same, encrypted, sealed, ?_⟩
        rw [written, preambleOf, if_neg disguised, List.nil_append]
      · rw [Preceded, if_neg disguised]
        exact unread.symm

/-! ## Whole connections -/

/-- A connection that relays: the application has asked for the target of the
tunnel and has been told success, the tunnel has been opened for that target,
the frames sent into it deliver what the application has sent behind its
request, and the application has been sent what the frames of the server
deliver. -/
structure Served
    (provider : Provider)
    (config : ClientConfig)
    (application : Application config)
    (stream server : Stream)
    (sealing : Sealing)
    (relay : RelayState) : Prop where
  answered : stream.outgoing = methodChosen ++ successReply
  opened : ∃ target,
    Requests application.stream.unread target stream.unread ∧
      Opened provider config target application.draw application.server server
        sealing
  uploaded : deliver sealing.cipher relay.left.written <+: stream.unread
  downloaded : relay.right.written <+: deliver sealing.cipher server.unread

/-- What every connection of a local proxy has done. -/
def Accounted
    (provider : Provider)
    (config : ClientConfig)
    (application : Application config) : Connection → Prop
  | .closed stream _ => ∃ bytes ∈ [methodChosen ++ successReply, noMethod,
      methodChosen ++ commandRefused], stream.outgoing <+: bytes
  | .relaying stream server sealing relay =>
      Served provider config application stream server sealing relay

/-- A connection that is over takes no event. -/
theorem run_of_closed
    {config : ClientConfig}
    {draws : Nat → Draw config.maxPaddingLen.toNat}
    {application server : Stream}
    {events : List JoinedEvent}
    {connection : Connection}
    (reached : Run.run (Connection.step config draws)
      (.closed application server) events = some connection) :
    connection = .closed application server := by
  cases events with
  | nil => exact (Option.some.inj reached).symm
  | cons event events => cases reached

/-- A connection that relays goes on with the same tunnel. -/
theorem relays_of_run
    {config : ClientConfig}
    {draws : Nat → Draw config.maxPaddingLen.toNat}
    {application server : Stream}
    {sealing : Sealing}
    {relay : RelayState}
    {events : List JoinedEvent}
    {connection : Connection}
    (reached : Run.run (Connection.step config draws)
      (.relaying application server sealing relay) events = some connection) :
    ∃ final, connection = .relaying application server sealing final ∧
      Run.run (relayStep (relaySealing config sealing) draws) relay events =
        some final := by
  induction events generalizing relay with
  | nil => exact ⟨relay, (Option.some.inj reached).symm, rfl⟩
  | cons event events inductionHypothesis =>
      obtain ⟨next, stepped, rest⟩ := (Run.run_cons_eq_some ..).mp reached
      obtain ⟨after, moved, rfl⟩ := Option.map_eq_some_iff.mp stepped
      obtain ⟨final, equal, ran⟩ := inductionHypothesis rest
      exact ⟨final, equal, (Run.run_cons_eq_some ..).mpr ⟨after, moved, ran⟩⟩

/-- A connection with a tunnel is served along its run. -/
theorem served_of_run
    {provider : Provider}
    (lawful : provider.aead.Lawful)
    {tls : TlsConnector}
    {config : ClientConfig}
    (application : Application config)
    {target : TargetAddr}
    {stream server : Stream}
    {sealing : Sealing}
    (asks : handleSocks5Client.exec application.stream = (.ok target, stream))
    (opens : (proxyThroughGhost provider tls application.connected config target
      application.draw).exec application.server = (.ok sealing, server))
    {events : List JoinedEvent}
    {relay : RelayState}
    (reached : Run.run
      (relayStep (relaySealing config sealing) application.draws)
      (relayStart stream.unread server.unread application.applicationClosed
        application.serverClosed) events = some relay) :
    Served provider config application stream server sealing relay := by
  have opened := opened_of_proxyThroughGhost opens
  have sealed : sealing.cipher.aead.Lawful := by
    obtain ⟨userId, -, rfl, -⟩ := opened.sealing
    exact lawful
  have requests : Requests application.stream.unread target stream.unread := by
    cases handshake_outcome application.stream with
    | tunnel other next requests accepts notLong outgoing executed =>
        obtain ⟨same, rfl⟩ := Prod.mk.inj (asks.symm.trans executed)
        rw [Except.ok.inj same]
        exact requests
    | panicked next long accepts executed => cases asks.symm.trans executed
    | failed refused notLong fails =>
        obtain ⟨error, next, failed⟩ := fails
        cases asks.symm.trans failed
  obtain ⟨uploads, downloads⟩ := runs_of_run_stepSelect reached
  have uploaded := (deliver_written_of_run
    (show (relaySealing config sealing).cipher.aead.Lawful from sealed)
      uploads).1
  have downloaded := written_prefix_of_run
    (receiveLoop_predicts sealing.cipher) downloads
  exact {
    answered := by
      rw [answers_handleSocks5Client.whole asks, application.fresh,
        List.nil_append]
    opened := ⟨target, requests, opened⟩
    uploaded
    downloaded := (List.prefix_append _ _).trans downloaded }

/-- What the proxy has answered to an application is an answer of its
handshake, or part of one. -/
theorem closed_accounted
    (provider : Provider)
    {config : ClientConfig}
    (application : Application config)
    (server : Stream) :
    Accounted provider config application
      (.closed (handleSocks5Client.exec application.stream).2 server) := by
  obtain ⟨bytes, member, part⟩ :=
    answers_handleSocks5Client.part application.stream
  rw [application.fresh, List.nil_append] at part
  exact ⟨bytes, member, part⟩

/-- A connection of a local proxy has been closed after its handshake, or
relays since it was started. -/
theorem Moment.cases
    {provider : Provider}
    {tls : TlsConnector}
    {config : ClientConfig}
    (moment : Moment provider tls config) :
    (∃ server, moment.connection = .closed
      (handleSocks5Client.exec moment.application.stream).2 server) ∨
    ∃ target stream server sealing relay,
      moment.connection = .relaying stream server sealing relay ∧
      handleSocks5Client.exec moment.application.stream =
        (.ok target, stream) ∧
      (proxyThroughGhost provider tls moment.application.connected config target
        moment.application.draw).exec moment.application.server =
          (.ok sealing, server) ∧
      Run.run (relayStep (relaySealing config sealing)
          moment.application.draws)
        (relayStart stream.unread server.unread
          moment.application.applicationClosed
          moment.application.serverClosed)
        (Pool.eventsOf moment.id moment.labels) = some relay := by
  have ran := moment.ran
  unfold Connection.start at ran
  cases asks : handleSocks5Client.exec moment.application.stream with
  | mk outcome stream =>
      rw [asks] at ran
      cases outcome with
      | error fault => exact .inl ⟨_, run_of_closed ran⟩
      | ok target =>
          simp only at ran
          cases opens : (proxyThroughGhost provider tls
              moment.application.connected config target
              moment.application.draw).exec moment.application.server with
          | mk result server =>
              rw [opens] at ran
              cases result with
              | error fault => exact .inl ⟨_, run_of_closed ran⟩
              | ok sealing =>
                  obtain ⟨relay, equal, relayed⟩ := relays_of_run ran
                  exact .inr ⟨target, stream, server, sealing, relay, equal,
                    rfl, opens, relayed⟩

/-- A connection of a local proxy is accounted for at every moment. -/
theorem Moment.accounted
    {provider : Provider}
    (lawful : provider.aead.Lawful)
    {tls : TlsConnector}
    {config : ClientConfig}
    (moment : Moment provider tls config) :
    Accounted provider config moment.application moment.connection := by
  rcases moment.cases with
    ⟨server, closed⟩ |
    ⟨target, stream, server, sealing, relay, serves, asks, opens, relayed⟩
  · rw [closed]
    exact closed_accounted provider moment.application server
  · rw [serves]
    exact served_of_run lawful moment.application asks opens relayed

/-- In every run of a local proxy with any number of applications, every
connection is accounted for: it has been closed after the handshake, or it
serves its own application. -/
theorem applications_accounted
    {provider : Provider}
    (lawful : provider.aead.Lawful)
    {tls : TlsConnector}
    {config : ClientConfig}
    {labels : List (Pool.Label (Application config) JoinedEvent)}
    {members : List (Pool.Member (Application config) Connection)}
    (reached : Run.run (Pool.step (listener provider tls config)) [] labels =
      some members)
    {id : Nat}
    {application : Application config}
    {connection : Connection}
    (found : members[id]? = some ⟨application, connection⟩) :
    Accounted provider config application connection :=
  Moment.accounted lawful
    { labels, members, reached, id, application, connection, found }

/-- An application that asks for port 443 of 1.1.1.1. -/
def webApplication (config : ClientConfig) : Application config where
  stream := Stream.ofSegments
    [[0x05, 0x01, 0x00], [0x05, 0x01, 0x00, 0x01, 1, 1, 1, 1, 0x01, 0xBB]]
  fresh := rfl
  connected := .ok ()
  server := Stream.ofSegments []
  unused := rfl
  applicationClosed := false
  serverClosed := false
  draw := { nonce := Block.ofBytes 12 [], padding := ⟨[], Nat.zero_le _⟩ }
  draws _ := {
    nonce := Block.ofBytes 12 []
    padding := ⟨[], Nat.zero_le _⟩ }

/-- The settings of a client without a disguise. -/
def plainConfig : ClientConfig :=
  { ClientConfig.default with maskDomain := "none" }

/-- A connector that is never asked. -/
def unusedConnector : TlsConnector where
  serverName _ := false
  handshake _ _ := .ok ()

/-- An application that has asked for a target gets a tunnel without a
disguise. -/
theorem Connection.exists_relaying
    {provider : Provider}
    (lawful : provider.aead.Lawful)
    (tls : TlsConnector)
    {config : ClientConfig}
    (plain : isDisguised config = false)
    {userId : UserId}
    (parsed : parseUserId config.userId = .ok userId)
    {application : Application config}
    (connected : application.connected = .ok ())
    (unlimited : application.server.limit = none)
    {target : TargetAddr}
    {stream : Stream}
    (asks : handleSocks5Client.exec application.stream = (.ok target, stream))
    (wire : target.IsWire) :
    ∃ server sealing relay, Connection.start provider tls config application =
      .relaying stream server sealing relay := by
  obtain ⟨encrypted, -, -, executed⟩ := proxyThroughGhost_plain lawful tls
    plain parsed wire application.draw unlimited
  rw [← connected] at executed
  exact ⟨_, _, _, Connection.start_of_opened asks executed⟩

/-- That application gets a tunnel and is accounted for. -/
theorem applications_accounted_web :
    ∃ (moment : Moment Provider.standard unusedConnector plainConfig)
      (stream server : Stream) (sealing : Sealing) (relay : RelayState),
      moment.application = webApplication _ ∧
        moment.connection = .relaying stream server sealing relay ∧
        Accounted Provider.standard plainConfig moment.application
          moment.connection := by
  have asks : handleSocks5Client.exec (webApplication plainConfig).stream =
      (.ok (.ipV4 { ip := ⟨[1, 1, 1, 1], rfl⟩, port := 443 }), _) := rfl
  have parsed : parseUserId plainConfig.userId = .ok ⟨_, rfl⟩ := rfl
  obtain ⟨server, sealing, relay, serves⟩ := Connection.exists_relaying
    Provider.standard_lawful unusedConnector rfl parsed rfl rfl asks trivial
  exact ⟨.first _ _ _ (webApplication _), _, server, sealing, relay, rfl,
    serves, applications_accounted Provider.standard_lawful
      (Moment.first _ _ _ _).reached (Moment.first _ _ _ _).found⟩

end Client
end GhostProtocol
