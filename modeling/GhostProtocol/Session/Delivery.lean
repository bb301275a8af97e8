import GhostProtocol.Client.Tunnel
import GhostProtocol.Crypto.Standard
import GhostProtocol.Server.Reality

/-!
# Delivery through a tunnel

What the client writes to a plain server makes the server recover the user id
and the target, and relay the application's stream to the target unchanged;
the target's stream comes back in the same way.  The two relays run
independently, each on a part of what the other has written so far, so every
segmentation of the wire and every interleaving of the loops is covered.
-/

namespace GhostProtocol
namespace Session

open Foundation Foundation.AsyncTask Common Crypto Relay

/-- Both relays of a tunnel at some moment, each with the bytes that have
arrived from the network. -/
structure Relays
    (sealing : Sealing)
    (config : ServerConfig)
    (session : Server.Session)
    (application fromTarget : Bytes) where
  clientDraws : sealing.Draws
  serverDraws : (Server.sealingOf config session).Draws
  fromClient : Bytes
  fromServer : Bytes
  applicationClosed : Bool
  targetClosed : Bool
  clientClosed : Bool
  serverClosed : Bool
  clientEvents : List JoinedEvent
  serverEvents : List JoinedEvent
  client : Client.RelayState
  server : Server.RelayState
  clientRun : Run.run (Client.relayStep sealing clientDraws)
    (Client.relayStart application fromServer applicationClosed serverClosed)
    clientEvents = some client
  serverRun : Run.run (Server.relayStep config session serverDraws)
    (Server.relayStart fromClient fromTarget clientClosed targetClosed)
    serverEvents = some server

/-- Both relays of a tunnel at some moment, on a network that delivers to each
a prefix of what the other has written. -/
structure Exchange
    (sealing : Sealing)
    (config : ServerConfig)
    (session : Server.Session)
    (application fromTarget : Bytes) extends
    Relays sealing config session application fromTarget where
  clientArrived : fromClient <+: client.left.written
  serverArrived : fromServer <+: server.right.written

namespace Exchange

variable
  {sealing : Sealing}
  {config : ServerConfig}
  {session : Server.Session}
  {application fromTarget : Bytes}

/-- No socket operation of either relay has failed. -/
def Clean
    (exchange : Exchange sealing config session application fromTarget) :
    Prop :=
  (∀ event ∈ exchange.clientEvents, event.event ≠ .fail) ∧
    ∀ event ∈ exchange.serverEvents, event.event ≠ .fail

/-- The application's stream has been sent, everything sent has arrived, and
the server's loop has consumed it. -/
def Uploaded
    (exchange : Exchange sealing config session application fromTarget) :
    Prop :=
  Settled (Client.upload sealing exchange.clientDraws) exchange.client.left ∧
    exchange.fromClient = exchange.client.left.written ∧
    Settled (Server.upload session) exchange.server.left

/-- The target's stream has been sent, everything sent has arrived, and the
client's loop has consumed it. -/
def Downloaded
    (exchange : Exchange sealing config session application fromTarget) :
    Prop :=
  Settled (Server.download config session exchange.serverDraws)
      exchange.server.right ∧
    exchange.fromServer = exchange.server.right.written ∧
    Settled (Client.download sealing) exchange.client.right

/-- Each side has written a prefix of the other side's stream, and all of it
once it has been consumed without failures. -/
def Delivered
    (exchange : Exchange sealing config session application fromTarget) :
    Prop :=
  exchange.server.left.written <+: application ∧
    exchange.client.right.written <+: fromTarget ∧
    (exchange.Clean → exchange.Uploaded →
      exchange.server.left.written = application) ∧
    (exchange.Clean → exchange.Downloaded →
      exchange.client.right.written = fromTarget)

end Exchange

/-- A receiving loop fed with part of what a sending loop has written writes a
prefix of the sender's input, and all of it once both have settled. -/
theorem received_of_sent
    {sealing : Sealing}
    (lawful : sealing.cipher.aead.Lawful)
    {draws : sealing.Draws}
    {input arrived : Bytes}
    {inputClosed arrivedClosed : Bool}
    {sendEvents receiveEvents : List Event}
    {sender : TaskState SendPoint}
    {receiver : TaskState ReceivePoint}
    (sent : Run.run (step (sendLoop sealing draws))
      (TaskState.start (.read 0) input inputClosed) sendEvents = some sender)
    (received : Run.run (step (receiveLoop sealing.cipher))
      (TaskState.start .length arrived arrivedClosed) receiveEvents =
        some receiver)
    (arrives : arrived <+: sender.written) :
    receiver.written <+: input ∧
      (Event.fail ∉ sendEvents → Event.fail ∉ receiveEvents →
        Settled (sendLoop sealing draws) sender →
        arrived = sender.written →
        Settled (receiveLoop sealing.cipher) receiver →
        receiver.written = input) := by
  obtain ⟨delivered, whole⟩ := deliver_written_of_run lawful sent
  constructor
  · have soFar := written_prefix_of_run (receiveLoop_predicts sealing.cipher)
      received
    calc receiver.written
        <+: deliver sealing.cipher arrived :=
          (List.prefix_append _ _).trans soFar
      _ <+: deliver sealing.cipher sender.written :=
          deliver_prefix sealing.cipher arrives
      _ <+: input := delivered
  · intro cleanSend cleanReceive settledSend all settledReceive
    calc receiver.written
        = deliver sealing.cipher arrived :=
          written_of_settled (receiveLoop_predicts sealing.cipher)
            cleanReceive received settledReceive
      _ = deliver sealing.cipher sender.written := by rw [all]
      _ = input := whole cleanSend settledSend

/-- Both directions of an exchange between ends that share a cipher. -/
theorem exchange_delivers
    {sealing : Sealing}
    (lawful : sealing.cipher.aead.Lawful)
    {config : ServerConfig}
    {session : Server.Session}
    (shared : session.cipher = sealing.cipher)
    {application fromTarget : Bytes}
    (exchange : Exchange sealing config session application fromTarget) :
    exchange.Delivered := by
  obtain ⟨clientSends, clientReceives⟩ :=
    runs_of_run_stepSelect exchange.clientRun
  obtain ⟨serverReceives, serverSends⟩ :=
    runs_of_run_stepSelect exchange.serverRun
  have serverLawful :
      (Server.sealingOf config session).cipher.aead.Lawful := by
    change session.cipher.aead.Lawful
    rw [shared]
    exact lawful
  have serverReceives' := serverReceives
  have clientReceives' := clientReceives
  rw [Server.upload, shared] at serverReceives'
  rw [Client.download, ← shared] at clientReceives'
  have up := received_of_sent lawful clientSends serverReceives'
    exchange.clientArrived
  have down := received_of_sent serverLawful serverSends clientReceives'
    exchange.serverArrived
  refine ⟨up.1, down.1, ?_, ?_⟩
  · rintro ⟨clientClean, serverClean⟩ ⟨settledSend, all, settledReceive⟩
    refine up.2 (not_mem_filterMap_ofLeft clientClean)
      (not_mem_filterMap_ofLeft serverClean) settledSend all ?_
    rw [Server.upload, shared] at settledReceive
    exact settledReceive
  · rintro ⟨clientClean, serverClean⟩ ⟨settledSend, all, settledReceive⟩
    refine down.2 (not_mem_filterMap_ofRight serverClean)
      (not_mem_filterMap_ofRight clientClean) settledSend all ?_
    rw [Client.download, ← shared] at settledReceive
    exact settledReceive

/-- Whatever pieces the application writes, there is an exchange without
failures in which all of them are uploaded. -/
theorem exists_uploaded
    {sealing : Sealing}
    (lawful : sealing.cipher.aead.Lawful)
    {config : ServerConfig}
    {session : Server.Session}
    (shared : session.cipher = sealing.cipher)
    (clientDraws : sealing.Draws)
    (serverDraws : (Server.sealingOf config session).Draws)
    {chunks : List Bytes}
    (fit : ∀ chunk ∈ chunks, chunk ≠ [] ∧ chunk.length ≤ READ_BUF_LEN)
    (fromTarget : Bytes) :
    ∃ exchange : Exchange sealing config session chunks.flatten fromTarget,
      exchange.Clean ∧ exchange.Uploaded := by
  obtain ⟨frames, opens, bytes, _⟩ := sentBytes_eq_frames lawful clientDraws 0
    fun chunk member => (fit chunk member).2
  obtain ⟨sendEvents, sendClean, -, sent⟩ :=
    run_send_chunks lawful clientDraws 0 fit [] false []
  obtain ⟨receiveEvents, receiveClean, received⟩ :=
    run_receive_frames opens [] false []
  rw [← bytes, List.append_nil, ← shared] at received
  rw [List.append_nil] at sent
  refine ⟨{
    clientDraws
    serverDraws
    fromClient := sentBytes sealing clientDraws 0 chunks
    fromServer := []
    applicationClosed := false
    targetClosed := false
    clientClosed := false
    serverClosed := false
    clientEvents := sendEvents.map .left
    serverEvents := receiveEvents.map .left
    client := _
    server := _
    clientRun := run_stepSelect_left rfl sent
    serverRun := run_stepSelect_left rfl received
    clientArrived := List.prefix_rfl
    serverArrived := List.nil_prefix }, ⟨?_, ?_⟩, ?_, rfl, ?_⟩
  · intro event member
    obtain ⟨own, ownMember, rfl⟩ := List.mem_map.mp member
    rintro rfl
    exact sendClean ownMember
  · intro event member
    obtain ⟨own, ownMember, rfl⟩ := List.mem_map.mp member
    rintro rfl
    exact receiveClean ownMember
  · exact ⟨rfl, trivial⟩
  · exact ⟨rfl, Nat.zero_lt_two⟩

/-- The client writes an opening from which the server, in whatever segments it
arrives, recovers the user id and the target, connects to the address of the
target, and starts to relay what follows. -/
def Opens
    (provider : Provider)
    (tls : Client.TlsConnector)
    (network : Server.Network)
    (clientConfig : ClientConfig)
    (serverConfig : ServerConfig)
    (target : TargetAddr)
    (draw : Draw clientConfig.maxPaddingLen.toNat)
    (clientStream : Stream)
    (userId : UserId)
    (address : SocketAddr)
    (fromTarget : Bytes)
    (sealing : Sealing)
    (session : Server.Session) : Prop :=
  session.userId = userId ∧ session.frame.target = target ∧
    session.address = address ∧
    ∃ opening,
      (Client.proxyThroughGhost provider tls (.ok ()) clientConfig target
          draw).exec clientStream =
        (.ok sealing, { clientStream with
          outgoing := clientStream.outgoing ++ opening }) ∧
      ∀ serverStream fromClient clientClosed targetClosed,
        serverStream.unread = opening ++ fromClient →
        ∃ world,
          Server.Connection.start provider network serverConfig serverStream
              clientClosed targetClosed =
            .relaying world session (Server.relayStart fromClient fromTarget
              clientClosed targetClosed) ∧
          world.dialed = [address] ∧ world.target.outgoing = []

/-- A tunnel between a plain client and a plain server opens, and from then on
delivers both streams unchanged. -/
theorem tunnel_delivers
    {provider : Provider}
    (lawful : provider.aead.Lawful)
    (tls : Client.TlsConnector)
    (network : Server.Network)
    {clientConfig : ClientConfig}
    (plainClient : Client.isDisguised clientConfig = false)
    {serverConfig : ServerConfig}
    (plainServer : serverConfig.enableReality = false)
    {userId : UserId}
    (parsed : Client.parseUserId clientConfig.userId = .ok userId)
    (allowed : Server.hexEncode userId.toList ∈ serverConfig.allowedUsers)
    {target : TargetAddr}
    (wire : target.IsWire)
    {address : SocketAddr}
    (resolves : Server.Resolves network target address)
    {remote : Server.Remote}
    (connected : network.connect address = .ok remote)
    (draw : Draw clientConfig.maxPaddingLen.toNat)
    {clientStream : Stream}
    (unlimited : clientStream.limit = none) :
    ∃ sealing session,
      Opens provider tls network clientConfig serverConfig target draw
        clientStream userId address remote.incoming.flatten sealing session ∧
      ∀ application (exchange : Exchange sealing serverConfig session
        application remote.incoming.flatten), exchange.Delivered := by
  obtain ⟨encrypted, short, opened, executed⟩ :=
    Client.proxyThroughGhost_plain lawful tls plainClient parsed wire draw
      unlimited
  refine ⟨_,
    { userId
      cipher := Server.cipherOf provider userId
      frame := (Client.sealingOf clientConfig userId
        (Client.cipherOf provider userId)).frame draw target []
      address },
    ⟨rfl, Sealing.frame_target _ _ _ _, rfl,
      userId.toList ++ frameBytes encrypted, executed, ?_⟩, ?_⟩
  · intro serverStream fromClient clientClosed targetClosed arrived
    have admitted : Server.Admitted provider
        (Server.ServerState.ofConfig serverConfig).allowedUsers
        (Server.World.start serverStream).client.unread userId
        ((Client.sealingOf clientConfig userId
          (Client.cipherOf provider userId)).frame draw target [])
        fromClient := by
      refine ⟨List.mem_toFinset.mpr allowed, encrypted, short, opened, ?_⟩
      rw [← List.append_assoc]
      exact arrived
    obtain ⟨client, lookups, handled, unread⟩ :=
      Server.handleConnection_of_admitted admitted
        (by rw [Sealing.frame_target]; exact resolves) connected
        (.inl (Sealing.frame_payload _ _ _ _))
    have started := Server.Connection.start_of_handled plainServer handled
      clientClosed targetClosed
    rw [unread] at started
    exact ⟨_, started, rfl, Sealing.frame_payload _ _ _ _⟩
  · intro application exchange
    exact exchange_delivers lawful rfl exchange

/-- A tunnel of the default user to an IPv4 address. -/
theorem tunnel_delivers_default :
    ∃ sealing session,
      Opens Provider.standard
        { serverName := fun _ => false, handshake := fun _ _ => .ok () }
        { lookupHost := fun _ => .ok []
          connect := fun _ => .ok
            { incoming := [[7]], ending := none, limit := none } }
        { ClientConfig.default with maskDomain := "none" }
        ServerConfig.default
        (.ipV4 { ip := ⟨[1, 1, 1, 1], rfl⟩, port := 443 })
        { nonce := ⟨List.replicate 12 0, rfl⟩, padding := ⟨[], Nat.zero_le _⟩ }
        (Stream.ofSegments [])
        ⟨[0, 0, 0, 0, 0, 0, 0, 0, 0, 0, 0, 0, 0, 0, 0, 1], rfl⟩
        (.v4 { ip := ⟨[1, 1, 1, 1], rfl⟩, port := 443 })
        [[7]].flatten sealing session ∧
      ∀ application (exchange : Exchange sealing ServerConfig.default session
        application [[7]].flatten), exchange.Delivered := by
  have connected : Server.Network.connect
      { lookupHost := fun _ => .ok []
        connect := fun _ => .ok
          { incoming := [[7]], ending := none, limit := none } }
      (.v4 { ip := ⟨[1, 1, 1, 1], rfl⟩, port := 443 }) =
        .ok { incoming := [[7]], ending := none, limit := none } := rfl
  refine tunnel_delivers Provider.standard_lawful _ _ ?_ ?_ ?_ ?_ ?_ ?_
    connected _ ?_
  · rfl
  · rfl
  · rfl
  · decide
  · trivial
  · rfl
  · rfl

end Session
end GhostProtocol
