import GhostProtocol.Relay.Forward
import GhostProtocol.Session.HalfClose

/-!
# The owner of a frame

A user id travels twice: in clear in front of a session, and sealed in every
frame.  Both ends check the first and look at no other, so what they act on are
the frames at the front of their input, whichever id these carry.
-/

namespace GhostProtocol

open Foundation Foundation.AsyncTask Common Crypto Relay

namespace Server

/-- The server connects to the target of the first frame of a client: the user
is authorized, the frame read and its target resolved. -/
def ConnectsFor
    (provider : Provider)
    (network : Network)
    (state : ServerState)
    (world : World)
    (userId : UserId)
    (frame : GhostFrame) : Prop :=
  ∃ authorized read address resolved,
    (authorizeUser state).exec world = (.ok userId, authorized) ∧
      (readInitFrame (cipherOf provider userId)).exec authorized =
        (.ok frame, read) ∧
      (resolveTarget network frame.target).exec read = (.ok address, resolved)

/-- These are the frames of admitted clients whose target resolves. -/
theorem connectsFor_iff
    (provider : Provider)
    (network : Network)
    (state : ServerState)
    (world : World)
    (userId : UserId)
    (frame : GhostFrame) :
    ConnectsFor provider network state world userId frame ↔
      ∃ rest address,
        Admitted provider state.allowedUsers world.client.unread userId frame
          rest ∧
        Resolves network frame.target address := by
  constructor
  · rintro ⟨_, _, address, _, authorizes, reads, resolves⟩
    rcases authorizeUser_cases state world with
      ⟨fault, client, failed⟩ | ⟨other, client, authorized, allowed, unread⟩
    · rw [failed] at authorizes
      cases authorizes
    rw [authorized] at authorizes
    cases authorizes
    rcases readInitFrame_cases (cipherOf provider userId)
        { world with client } with
      ⟨fault, after, failed⟩ | ⟨first, blob, after, read, opened, fits, rest⟩
    · rw [failed] at reads
      cases reads
    rw [read] at reads
    cases reads
    obtain ⟨lookups, ⟨fault, failed⟩ | ⟨found, resolved, isTarget⟩⟩ :=
      resolveTarget_cases network frame.target { world with client := after }
    · rw [failed] at resolves
      cases resolves
    refine ⟨after.unread, found, ⟨allowed, blob, fits, opened, ?_⟩, isTarget⟩
    rw [unread]
    exact congrArg _ rest
  · rintro ⟨rest, address, admitted, resolves⟩
    obtain ⟨client, after, lookups, authorized, read, resolved, -⟩ :=
      phases_of_admitted admitted resolves
    exact ⟨_, _, address, _, authorized, read, resolved⟩

/-- Nothing is connected to before the target is resolved. -/
theorem ConnectsFor.exists_dialed
    {provider : Provider}
    {network : Network}
    {state : ServerState}
    {world : World}
    {userId : UserId}
    {frame : GhostFrame}
    (connects : ConnectsFor provider network state world userId frame) :
    ∃ address,
      ((handleConnection provider network state).exec world).2.dialed =
        world.dialed ++ [address] := by
  obtain ⟨rest, address, admitted, resolves⟩ :=
    (connectsFor_iff provider network state world userId frame).mp connects
  obtain ⟨client, after, lookups, authorized, read, resolved, -⟩ :=
    phases_of_admitted admitted resolves
  refine ⟨address, ?_⟩
  rw [handleConnection, Program.exec_bind_of_ok authorized,
    Program.exec_bind_of_ok (exec_newCipher provider userId _),
    Program.exec_bind_of_ok read, Program.exec_bind_of_ok resolved,
    Program.observe_exec_bind World.dialed, connectTarget_dialed]
  intro _ middle
  rw [Program.observe_exec_bind World.dialed, forwardPayload_dialed]
  intro _ _
  rfl

/-- A connection is made exactly for such a frame. -/
theorem dialed_ne_iff_connectsFor
    (provider : Provider)
    (network : Network)
    (state : ServerState)
    (world : World) :
    ((handleConnection provider network state).exec world).2.dialed ≠
        world.dialed ↔
      ∃ userId frame,
        ConnectsFor provider network state world userId frame := by
  constructor
  · intro changed
    rcases handleConnection_cases provider network state world with
      ⟨fault, next, failed, same, _⟩ |
        ⟨userId, frame, rest, address, admitted, resolves, _⟩
    · rw [failed] at changed
      exact absurd same changed
    · exact ⟨userId, frame, (connectsFor_iff provider network state world userId
        frame).mpr ⟨rest, address, admitted, resolves⟩⟩
  · rintro ⟨userId, frame, connects⟩ same
    obtain ⟨address, dialed⟩ := connects.exists_dialed
    rw [dialed] at same
    exact List.cons_ne_nil address [] (List.append_right_eq_self.mp same)

/-- Every frame that the server acts on in a session of a user carries the id
of the user: the frame to whose target it connects, and the frames whose
payload it forwards. -/
structure ActsForUser
    (provider : Provider)
    (config : ServerConfig)
    (bytes : Bytes) : Prop where
  connects : ∀ network client userId frame,
    client.unread = bytes →
    ConnectsFor provider network (.ofConfig config) (World.start client) userId
      frame →
    frame.userId = userId
  forwards : ∀ network client session world draws clientClosed targetClosed
      events state frame,
    client.unread = bytes →
    (handleConnection provider network (.ofConfig config)).exec
      (World.start client) = (.ok session, world) →
    Run.run (relayStep config session draws)
      (relayStart world.client.unread world.target.unread clientClosed
        targetClosed) events = some state →
    Forwards session.cipher state.left frame →
    frame.userId = session.userId

end Server

namespace Client

/-- Every frame whose payload the client forwards to the application carries
its own id. -/
def ForwardsOwn (sealing : Sealing) (bytes : Bytes) : Prop :=
  ∀ draws application applicationClosed serverClosed events state frame,
    Run.run (relayStep sealing draws)
      (relayStart application bytes applicationClosed serverClosed) events =
        some state →
    Forwards sealing.cipher state.right frame →
    frame.userId = sealing.userId

end Client

namespace Session

/-- The frames with a payload at the front of the bytes carry an id. -/
def FrontOwned
    (cipher : GhostCipher)
    (userId : UserId)
    (bytes : Bytes) : Prop :=
  ∀ entry ∈ frontFrames cipher bytes, entry.2.payload ≠ [] →
    entry.2.userId = userId

/-- The frames that a client sends in a session of a user carry the id of the
user: the first one, if it names a target, and those at the front behind it. -/
def SentOwned
    (provider : Provider)
    (config : ServerConfig)
    (bytes : Bytes) : Prop :=
  ∀ userId frame rest,
    Server.Admitted provider (Server.ServerState.ofConfig config).allowedUsers
      bytes userId frame rest →
    frame.target ≠ .none →
    frame.userId = userId ∧
      FrontOwned (Server.cipherOf provider userId) userId rest

/-- A network on which every target accepts connections. -/
def openNetwork (address : SocketAddr) : Server.Network where
  lookupHost _ := .ok [address]
  connect _ := .ok { incoming := [], ending := none, limit := none }

/-- Every target resolves there. -/
theorem exists_resolves_openNetwork
    (address : SocketAddr)
    {target : TargetAddr}
    (named : target ≠ .none) :
    ∃ found, Server.Resolves (openNetwork address) target found := by
  cases target with
  | none => exact absurd rfl named
  | ipV4 ip => exact ⟨.v4 ip, rfl⟩
  | ipV6 ip => exact ⟨.v6 ip, rfl⟩
  | domain domain port => exact ⟨address, [], rfl⟩

/-- A target that resolves is named. -/
theorem ne_none_of_resolves
    {network : Server.Network}
    {target : TargetAddr}
    {address : SocketAddr}
    (resolves : Server.Resolves network target address) :
    target ≠ .none := by
  rintro rfl
  exact resolves

/-- The server acts for the user if the frames it is sent carry the id. -/
theorem actsForUser_of_sentOwned
    {provider : Provider}
    {config : ServerConfig}
    {bytes : Bytes}
    (owned : SentOwned provider config bytes) :
    Server.ActsForUser provider config bytes where
  connects := by
    rintro network client userId frame rfl connects
    obtain ⟨rest, address, admitted, resolves⟩ :=
      (Server.connectsFor_iff _ _ _ _ _ _).mp connects
    exact (owned userId frame rest admitted (ne_none_of_resolves resolves)).1
  forwards := by
    rintro network client session world draws clientClosed targetClosed events
      state frame rfl handled reached forwards
    obtain ⟨admitted, resolves, cipher⟩ :=
      Server.admitted_of_handleConnection handled
    obtain ⟨received, -⟩ := runs_of_run_stepSelect reached
    have front := mem_frontFrames_of_run received forwards
    rw [cipher] at front
    exact (owned _ _ _ admitted (ne_none_of_resolves resolves)).2 _ front
      forwards.2.2

/-- The server acts on every frame it is sent. -/
theorem sentOwned_of_actsForUser
    {provider : Provider}
    {config : ServerConfig}
    {bytes : Bytes}
    (acts : Server.ActsForUser provider config bytes) :
    SentOwned provider config bytes := by
  intro userId frame rest admitted named
  obtain ⟨address, resolves⟩ := exists_resolves_openNetwork
    (.v4 { ip := ⟨[1, 1, 1, 1], rfl⟩, port := 443 }) named
  have unread : (Stream.ofSegments [bytes]).unread = bytes :=
    List.append_nil bytes
  have arrived : Server.Admitted provider
      (Server.ServerState.ofConfig config).allowedUsers
      (Server.World.start (Stream.ofSegments [bytes])).client.unread userId
      frame rest := by
    change Server.Admitted _ _ (Stream.ofSegments [bytes]).unread _ _ _
    rw [unread]
    exact admitted
  refine ⟨acts.connects _ _ userId frame unread
    ((Server.connectsFor_iff _ _ _ _ _ _).mpr
      ⟨rest, address, arrived, resolves⟩), ?_⟩
  intro entry member nonempty
  obtain ⟨client, lookups, handled, left⟩ :=
    Server.handleConnection_of_admitted arrived resolves
      (show (openNetwork _).connect address = .ok _ from rfl) (.inr rfl)
  obtain ⟨events, state, received, forwards⟩ :=
    exists_run_forwards member nonempty false
  rw [← left] at received
  exact acts.forwards _ _ _ _ (zeroDraws _) false false _ _ _ unread handled
    (run_stepSelect_left rfl received) forwards

/-- The client forwards its own frames exactly if the frames it is sent carry
its id. -/
theorem forwardsOwn_iff
    (sealing : Sealing)
    (bytes : Bytes) :
    Client.ForwardsOwn sealing bytes ↔
      FrontOwned sealing.cipher sealing.userId bytes := by
  constructor
  · intro own entry member nonempty
    obtain ⟨events, state, received, forwards⟩ :=
      exists_run_forwards member nonempty false
    exact own (zeroDraws _) [] false false _ _ _
      (run_stepSelect_right rfl received) forwards
  · intro owned draws application applicationClosed serverClosed events state
      frame reached forwards
    obtain ⟨-, received⟩ := runs_of_run_stepSelect reached
    exact owned _ (mem_frontFrames_of_run received forwards) forwards.2.2

/-- Both ends act on frames of the user only, exactly if they are sent no
others. -/
theorem actsForUser_iff
    (provider : Provider)
    (config : ServerConfig)
    (sealing : Sealing)
    (fromClient fromServer : Bytes) :
    (Server.ActsForUser provider config fromClient ↔
        SentOwned provider config fromClient) ∧
      (Client.ForwardsOwn sealing fromServer ↔
        FrontOwned sealing.cipher sealing.userId fromServer) :=
  ⟨⟨sentOwned_of_actsForUser, actsForUser_of_sentOwned⟩,
    forwardsOwn_iff sealing fromServer⟩

/-- Seals under the key of the default user, with another id in the frames. -/
def foreignSealing : Sealing :=
  { Server.sealingOf ServerConfig.default defaultSession with
    userId := ⟨[0, 0, 0, 0, 0, 0, 0, 0, 0, 0, 0, 0, 0, 0, 0, 2], rfl⟩ }

/-- The opening of a session of the default user with such a frame. -/
def foreignOpening : Bytes :=
  defaultSession.userId.toList ++
    match foreignSealing.sealFrame (zeroDraws _ 0)
        (.ipV4 { ip := Block.ofBytes 4 [1, 1, 1, 1], port := 443 }) [] with
    | .ok blob => frameBytes blob
    | .error _ => []

/-- The server connects to the target of a frame that carries the id of another
user. -/
theorem not_actsForUser_foreign :
    ¬ Server.ActsForUser Provider.standard ServerConfig.default
        foreignOpening := by
  intro acts
  obtain ⟨blob, sealed, fits, opened⟩ := foreignSealing.sealFrame_spec
    Provider.standard_lawful (zeroDraws _ 0)
    (show TargetAddr.IsWire
      (.ipV4 { ip := Block.ofBytes 4 [1, 1, 1, 1], port := 443 }) from trivial)
    (show ([] : Bytes).length ≤ READ_BUF_LEN from Nat.zero_le _)
  have bytes : (Stream.ofSegments [foreignOpening]).unread =
      defaultSession.userId.toList ++ (frameBytes blob ++ []) := by
    change [foreignOpening].flatten = _
    rw [foreignOpening, sealed, List.append_nil]
    exact List.append_nil _
  have same := acts.connects (openNetwork defaultSession.address)
    (Stream.ofSegments [foreignOpening]) defaultSession.userId _
    (List.append_nil _)
    ((Server.connectsFor_iff _ _ _ _ _ _).mpr
      ⟨[], _, ⟨by decide, blob, fits, opened, bytes⟩, rfl⟩)
  rw [Sealing.frame_userId] at same
  revert same
  decide

end Session
end GhostProtocol
