import GhostProtocol.Relay.Outline
import GhostProtocol.Session.EndToEnd

/-!
# What an observer of a tunnel learns

The bytes between a local proxy and a server name the user in clear, and the
lengths in front of the frames show how long the address of the target is and
how much each end has read at a time, whatever is sealed in the frames.
-/

namespace GhostProtocol
namespace Session

open Foundation Foundation.AsyncTask Common Crypto Relay

/-- What the reads of a proxy from an application have returned since the
tunnel was opened. -/
def readFromApplication
    {provider : Provider}
    {tls : Client.TlsConnector}
    {config : ClientConfig}
    (moment : Client.Moment provider tls config)
    (stream : Stream)
    (sealing : Sealing) : List Bytes :=
  reads (Client.upload (Client.relaySealing config sealing)
      moment.application.draws)
    (TaskState.start (.read 0) stream.unread
      moment.application.applicationClosed)
    ((Pool.eventsOf moment.id moment.labels).filterMap JoinedEvent.ofLeft)

/-- What the reads of a server from a target have returned since the tunnel was
opened. -/
def readFromTarget
    {provider : Provider}
    {network : Server.Network}
    {config : ServerConfig}
    (moment : Server.Moment provider network config)
    (world : Server.World)
    (session : Server.Session) : List Bytes :=
  reads (Server.download config session moment.peer.draws)
    (TaskState.start (.read 0) world.target.unread moment.peer.targetClosed)
    ((Pool.eventsOf moment.id moment.labels).filterMap JoinedEvent.ofRight)

/-- What the bytes that a proxy has sent for an application show: the user id,
the length of the target's address, and the lengths of the successive reads
from the application, both up to padding. -/
structure ProxyShows
    {provider : Provider}
    {tls : Client.TlsConnector}
    {config : ClientConfig}
    (moment : Client.Moment provider tls config)
    (stream : Stream)
    (sealing : Sealing)
    (upload : TaskState SendPoint)
    (wire : Bytes)
    (userId : UserId)
    (target : TargetAddr)
    (opening : Nat)
    (shown : List Bytes) : Prop where
  user : Client.parseUserId config.userId = .ok userId
  requests :
    Client.Requests moment.application.stream.unread target stream.unread
  clear : ∃ frames,
    wire = Client.preambleOf config ++ (userId.toList ++ frames) ∧
      frameLengths frames = opening :: frameLengths upload.written
  target : (Client.relaySealing config sealing).Shows target opening []
  reads : Outlined (Client.relaySealing config sealing) stream.unread upload
    (readFromApplication moment stream sealing) shown

/-- What the bytes that a server has sent to a client show behind its greeting:
the lengths of the successive reads from the target, up to padding. -/
structure ServerShows
    {provider : Provider}
    {network : Server.Network}
    {config : ServerConfig}
    (moment : Server.Moment provider network config)
    (world : Server.World)
    (session : Server.Session)
    (download : TaskState SendPoint)
    (wire : Bytes)
    (shown : List Bytes) : Prop where
  clear : wire = Server.greetingOf config ++ download.written
  reads : Outlined (Server.sealingOf config session) world.target.unread
    download (readFromTarget moment world session) shown

/-- In every run of a local proxy, the bytes sent for an application show the
user, the length of the target's address and the reads from the application. -/
theorem proxyShows_of_run
    {provider : Provider}
    (lawful : provider.aead.Lawful)
    {tls : Client.TlsConnector}
    {config : ClientConfig}
    (moment : Client.Moment provider tls config)
    {stream server : Stream}
    {sealing : Sealing}
    {relay : Client.RelayState}
    (serves : moment.connection = .relaying stream server sealing relay) :
    ∃ userId target opening shown,
      ProxyShows moment stream sealing relay.left
        (server.outgoing ++ relay.left.written) userId target opening
        shown := by
  have accounted := moment.accounted lawful
  rw [serves] at accounted
  obtain ⟨target, requests, opened⟩ := accounted.opened
  obtain ⟨userId, parsed, rfl, encrypted, sealed, opening⟩ := opened.sealing
  obtain ⟨shown, outlined⟩ : ∃ shown, Outlined
      (Client.relaySealing config (Client.sealingOf config userId
        (Client.cipherOf provider userId))) stream.unread relay.left
      (readFromApplication moment stream (Client.sealingOf config userId
        (Client.cipherOf provider userId))) shown := by
    rcases moment.cases with
      ⟨other, closed⟩ |
      ⟨other, _, _, _, _, relays, asks, opens, ran⟩
    · rw [serves] at closed
      cases closed
    · rw [serves] at relays
      obtain ⟨rfl, rfl, rfl, rfl⟩ := Client.Connection.relaying.inj relays
      exact outlined_of_run lawful (runs_of_run_stepSelect ran).1
  have wire : target.IsWire := by
    obtain ⟨rsv, behind, -, wire, -, -⟩ := requests
    exact wire
  have nothing : ([] : Bytes).length ≤ READ_BUF_LEN := Nat.zero_le _
  obtain ⟨other, again, short, -⟩ := (Client.sealingOf config userId
    (Client.cipherOf provider userId)).sealFrame_spec lawful
      moment.application.draw wire nothing
  obtain rfl := Except.ok.inj (sealed.symm.trans again)
  refine ⟨userId, target, encrypted.length, shown, {
    user := parsed
    requests
    clear := ⟨frameBytes encrypted ++ relay.left.written, ?_,
      frameLengths_frameBytes short _⟩
    target := Sealing.shows_of_sealFrame lawful wire nothing sealed
    reads := outlined }⟩
  rw [opening, moment.application.unused, List.nil_append]
  simp only [List.append_assoc]

/-- What a tunnel to a web server shows of what its application sends. -/
theorem proxyShows_of_run_web :
    ∃ path : Path Provider.standard Client.unusedConnector
        Server.greetingHosts Client.plainConfig ServerConfig.default,
      ∃ userId target opening shown,
        ProxyShows path.client path.stream path.sealing path.clientRelay.left
          (path.toServer.outgoing ++ path.clientRelay.left.written) userId
          target opening shown := by
  obtain ⟨path, -⟩ := exists_webPath
  exact ⟨path, proxyShows_of_run Provider.standard_lawful path.client
    path.clientServes⟩

/-- In every run of a server, the bytes sent to a client show the reads from
its target. -/
theorem serverShows_of_run
    {provider : Provider}
    (lawful : provider.aead.Lawful)
    {network : Server.Network}
    {config : ServerConfig}
    (moment : Server.Moment provider network config)
    {world : Server.World}
    {session : Server.Session}
    {relay : Server.RelayState}
    (serves : moment.connection = .relaying world session relay) :
    ∃ shown, ServerShows moment world session relay.right
      (world.client.outgoing ++ relay.right.written) shown := by
  have accounted := moment.accounted lawful
  rw [serves] at accounted
  have sealedLawful : session.cipher.aead.Lawful := by
    rw [moment.cipher serves]
    exact lawful
  rcases moment.cases with
    ⟨result, other, closed, -, -⟩ | ⟨_, _, _, relays, opens, ran⟩
  · rw [serves] at closed
    cases closed
  · rw [serves] at relays
    obtain ⟨rfl, rfl, rfl⟩ := Server.Connection.relaying.inj relays
    obtain ⟨shown, outlined⟩ :=
      outlined_of_run sealedLawful (runs_of_run_stepSelect ran).2
    exact ⟨shown, {
      clear := congrArg (· ++ relay.right.written) accounted.answered
      reads := outlined }⟩

/-- What a tunnel to a web server shows of what its target sends. -/
theorem serverShows_of_run_web :
    ∃ path : Path Provider.standard Client.unusedConnector
        Server.greetingHosts Client.plainConfig ServerConfig.default,
      ∃ shown, ServerShows path.server path.world path.session
        path.serverRelay.right
        (path.world.client.outgoing ++ path.serverRelay.right.written)
        shown := by
  obtain ⟨path, -⟩ := exists_webPath
  exact ⟨path, serverShows_of_run Provider.standard_lawful path.server
    path.serverServes⟩

end Session
end GhostProtocol
