import GhostProtocol.Crypto.Standard
import GhostProtocol.Server.Reality
import Mathlib.Data.List.TakeWhile

/-!
# Access control

Whatever a peer sends, the server connects to a target and forwards payload
only on behalf of an admitted client: one that passed the authentication of a
disguised server, sent an allowed user id, and sealed a frame with a target
under the key of that user.  The address connected to is the one of that
frame.
-/

namespace GhostProtocol
namespace Server

open Foundation Foundation.AsyncTask Common Crypto Relay

/-- A request carries a token: the marker, white space, and the token, 64 bytes
long and ended by white space or by the end of the request. -/
def CarriesToken (token : List Char) (request : Bytes) : Prop :=
  ∃ before space after,
    Text.fromUtf8Lossy request =
        before ++ authMarker.toList ++ space ++ token ++ after ∧
      (∀ char ∈ space, Text.isWhitespace char) ∧
      (Text.charBytes token).length = 64 ∧
      ∀ char ∈ after.head?, Text.isWhitespace char

/-- What a client must have sent to have an address connected to.  On a
disguised server the tunnel starts after the first read. -/
structure Granted
    (provider : Provider)
    (network : Network)
    (config : ServerConfig)
    (client : Stream)
    (address : SocketAddr) : Prop where
  tunnel : ∃ bytes,
    (if config.enableReality then
      ∃ request next,
        client.read REQUEST_BUF_LEN = (.ok request, next) ∧
          client.unread = request ++ bytes ∧
          CarriesToken config.realityAuthKey.toList request
    else client.unread = bytes) ∧
    ∃ userId frame rest,
      Admitted provider config.allowedUsers.toFinset bytes userId frame rest ∧
        frame.version = PROTOCOL_VERSION ∧ frame.target ≠ .none ∧
        Resolves network frame.target address

/-- White space ends a token whatever its kind. -/
theorem isWhitespace_of_not_token
    {char : Char}
    (ends : (!Text.isWhitespace char && char ≠ '\r' && char ≠ '\n') = false) :
    Text.isWhitespace char := by
  by_contra other
  have carriage : char ≠ '\r' := by
    rintro rfl
    exact other (by decide)
  have newline : char ≠ '\n' := by
    rintro rfl
    exact other (by decide)
  simp [other, carriage, newline] at ends

/-- A request that is detected carries the token. -/
theorem carriesToken_of_detectGhostAuth
    {data : Bytes}
    {authKeyHex : String}
    (detected : detectGhostAuth data authKeyHex = true) :
    CarriesToken authKeyHex.toList data := by
  unfold detectGhostAuth at detected
  cases found : Text.afterFirst authMarker.toList (Text.fromUtf8Lossy data) with
  | none =>
      rw [found] at detected
      cases detected
  | some remainder =>
      rw [found] at detected
      simp only [Bool.and_eq_true, decide_eq_true_eq] at detected
      obtain ⟨length, token⟩ := detected
      obtain ⟨before, text⟩ := Text.eq_append_of_afterFirst found
      refine ⟨before, remainder.takeWhile Text.isWhitespace,
        (Text.trimStart remainder).dropWhile fun char =>
          !Text.isWhitespace char && char ≠ '\r' && char ≠ '\n', ?_, ?_, ?_, ?_⟩
      · rw [text, ← token, takeToken, List.append_assoc _ _ (List.dropWhile _ _),
          List.takeWhile_append_dropWhile, Text.trimStart, List.append_assoc,
          List.append_assoc, List.takeWhile_append_dropWhile,
          ← List.append_assoc]
      · intro char member
        exact List.mem_takeWhile_imp member
      · rw [← token]
        exact length
      · intro char isHead
        have ends := List.head?_dropWhile_not (fun char : Char =>
          !Text.isWhitespace char && char ≠ '\r' && char ≠ '\n')
          (Text.trimStart remainder)
        rw [Option.mem_def.mp isHead] at ends
        exact isWhitespace_of_not_token ends

/-- Authentication touches only the connection to the client, and succeeds only
on a request that carries the token. -/
theorem authenticate_cases (config : ServerConfig) (world : World) :
    ∃ result client,
      (authenticate config).exec world = (result, { world with client }) ∧
        (result = .ok true → ∃ request next,
          world.client.read REQUEST_BUF_LEN = (.ok request, next) ∧
            world.client.unread = request ++ client.unread ∧
            CarriesToken config.realityAuthKey.toList request) := by
  cases authenticate_outcome config world with
  | failed error next read executed =>
      refine ⟨_, next, executed, ?_⟩
      intro isTrue
      cases isTrue
  | silent next read executed =>
      refine ⟨.ok false, next, executed, ?_⟩
      intro isTrue
      cases isTrue
  | switched request next read detected accepts executed =>
      have unread := Stream.unread_of_read read
      refine ⟨.ok true, _, executed, ?_⟩
      intro _
      exact ⟨request, next, read, unread,
        carriesToken_of_detectGhostAuth detected⟩
  | unanswered request next after error read detected refused executed =>
      refine ⟨_, after, executed, ?_⟩
      intro isTrue
      cases isTrue
  | redirected request next read foreign executed =>
      refine ⟨.ok false, _, executed, ?_⟩
      intro isTrue
      cases isTrue

/-- A frame acted on has the current version and a target. -/
theorem Admitted.frame_spec
    {provider : Provider}
    {network : Network}
    {allowedUsers : Finset String}
    {bytes rest : Bytes}
    {userId : UserId}
    {frame : GhostFrame}
    {address : SocketAddr}
    (admitted : Admitted provider allowedUsers bytes userId frame rest)
    (resolves : Resolves network frame.target address) :
    frame.version = PROTOCOL_VERSION ∧ frame.target ≠ .none := by
  obtain ⟨blob, _, opened, _⟩ := admitted.opened
  obtain ⟨plaintext, _, decoded⟩ := openFrame_eq_some opened
  refine ⟨GhostFrame.version_of_decode decoded, ?_⟩
  intro isNone
  rw [isNone] at resolves
  exact resolves

/-- Handling a connection either leaves no session and touches nothing but the
client, or connects to one address for an admitted client. -/
theorem handled_cases
    (provider : Provider)
    (network : Network)
    (state : ServerState)
    (world : World) :
    (∃ result next,
        (some <$> handleConnection provider network state).exec world =
          (result, next) ∧
        (∀ session, result ≠ .ok (some session)) ∧
        next.dialed = world.dialed ∧ next.target = world.target) ∨
      ∃ userId frame rest address,
        Admitted provider state.allowedUsers world.client.unread userId frame
          rest ∧
        Resolves network frame.target address ∧
        ((some <$> handleConnection provider network state).exec
          world).2.dialed = world.dialed ++ [address] := by
  rcases handleConnection_cases provider network state world with
    ⟨fault, next, executed, dialed, target⟩ |
    ⟨userId, frame, rest, address, admitted, resolves, dialed⟩
  · left
    refine ⟨.error fault, next, ?_, ?_, dialed, target⟩
    · rw [Program.exec_map, executed]
    · intro session isSession
      cases isSession
  · right
    refine ⟨userId, frame, rest, address, admitted, resolves, ?_⟩
    rw [← dialed, Program.exec_map]
    cases (handleConnection provider network state).exec world with
    | mk result next =>
        cases result with
        | ok session => rfl
        | error fault => rfl

/-- Serving what a client has sent behind its request, if any, touches nothing
but the client, or the client was granted the one address connected to. -/
theorem served_cases
    (provider : Provider)
    (network : Network)
    (config : ServerConfig)
    {client stream : Stream}
    (tunnel : if config.enableReality then
      ∃ request next,
        client.read REQUEST_BUF_LEN = (.ok request, next) ∧
          client.unread = request ++ stream.unread ∧
          CarriesToken config.realityAuthKey.toList request
      else client.unread = stream.unread) :
    (∃ result next,
        (some <$> handleConnection provider network (.ofConfig config)).exec
            { World.start client with client := stream } = (result, next) ∧
        (∀ session, result ≠ .ok (some session)) ∧
        next.dialed = [] ∧ next.target.outgoing = []) ∨
      ∃ address, Granted provider network config client address ∧
        ((some <$> handleConnection provider network (.ofConfig config)).exec
          { World.start client with client := stream }).2.dialed =
            [address] := by
  rcases handled_cases provider network (.ofConfig config)
      { World.start client with client := stream } with
    ⟨result, final, executed, noSession, dialed, target⟩ |
    ⟨userId, frame, rest, address, admitted, resolves, dialed⟩
  · left
    refine ⟨result, final, executed, noSession, dialed, ?_⟩
    rw [target]
    rfl
  · right
    obtain ⟨version, named⟩ := admitted.frame_spec resolves
    exact ⟨address, ⟨stream.unread, tunnel, userId, frame, rest, admitted,
      version, named, resolves⟩, dialed⟩

/-- Serving a connection touches nothing but the client, or the client was
granted the one address connected to. -/
theorem run_cases
    (provider : Provider)
    (network : Network)
    (config : ServerConfig)
    (client : Stream) :
    (∃ result next,
        (run provider network config).exec (World.start client) =
          (result, next) ∧
        (∀ session, result ≠ .ok (some session)) ∧
        next.dialed = [] ∧ next.target.outgoing = []) ∨
      ∃ address, Granted provider network config client address ∧
        ((run provider network config).exec (World.start client)).2.dialed =
          [address] := by
  unfold run
  split_ifs with reality
  · rw [runWithReality]
    obtain ⟨result, next, authenticated, token⟩ :=
      authenticate_cases config (World.start client)
    cases result with
    | error fault =>
        left
        refine ⟨_, _, Program.exec_bind_of_error authenticated, ?_, rfl, rfl⟩
        intro session isSession
        cases isSession
    | ok isGhost =>
        rw [Program.exec_bind_of_ok authenticated]
        cases isGhost with
        | false =>
            left
            refine ⟨_, _, rfl, ?_, rfl, rfl⟩
            intro session isSession
            cases isSession
        | true =>
            obtain ⟨request, after, read, unread, carries⟩ := token rfl
            refine served_cases provider network config ?_
            rw [if_pos reality]
            exact ⟨request, after, read, unread, carries⟩
  · rw [runPlain]
    refine served_cases provider network config ?_
    rw [if_neg reality]

/-- The addresses connected to never change after the start. -/
theorem dialed_of_step
    {config : ServerConfig}
    {draws : Nat → Draw config.maxPaddingLen.toNat}
    {connection next : Connection}
    {event : JoinedEvent}
    (stepped : Connection.step config draws connection event = some next) :
    next.dialed = connection.dialed := by
  cases connection with
  | closed world => cases stepped
  | relaying world session relay =>
      obtain ⟨after, _, rfl⟩ := Option.map_eq_some_iff.mp stepped
      rfl

/-- A connection that is over takes no event. -/
theorem run_of_closed
    {config : ServerConfig}
    {draws : Nat → Draw config.maxPaddingLen.toNat}
    {world : World}
    {events : List JoinedEvent}
    {connection : Connection}
    (reached : Run.run (Connection.step config draws) (.closed world) events =
      some connection) :
    connection = .closed world := by
  cases events with
  | nil => exact (Option.some.inj reached).symm
  | cons event events => cases reached

/-- In every run of every connection, either nothing has left the server, or
the client was granted the one address connected to. -/
theorem dialed_or_granted
    (provider : Provider)
    (network : Network)
    (config : ServerConfig)
    (client : Stream)
    (clientClosed targetClosed : Bool)
    (draws : Nat → Draw config.maxPaddingLen.toNat)
    (events : List JoinedEvent)
    (connection : Connection)
    (reached : Run.run (Connection.step config draws)
      (Connection.start provider network config client clientClosed
        targetClosed) events = some connection) :
    (connection.dialed = [] ∧ connection.forwarded = []) ∨
      ∃ address, connection.dialed = [address] ∧
        Granted provider network config client address := by
  have dialed : connection.dialed = (Connection.start provider network config
      client clientClosed targetClosed).dialed :=
    Run.invariant_of_step
      (fun state : Connection => state.dialed = (Connection.start provider
        network config client clientClosed targetClosed).dialed)
      (fun before event after holds stepped =>
        (dialed_of_step stepped).trans holds) rfl reached
  rcases run_cases provider network config client with
    ⟨result, next, executed, noSession, nothing, silent⟩ |
    ⟨address, granted, address_eq⟩
  · left
    have start : Connection.start provider network config client clientClosed
        targetClosed = .closed next := by
      unfold Connection.start
      rw [executed]
      split
      · rename_i session world equal
        obtain ⟨isSession, -⟩ := Prod.mk.inj equal
        exact absurd isSession (noSession session)
      · rename_i equal
        rw [(Prod.mk.inj equal).2]
    rw [start] at reached
    obtain rfl := run_of_closed reached
    exact ⟨nothing, silent⟩
  · right
    refine ⟨address, ?_, granted⟩
    rw [dialed, ← address_eq]
    unfold Connection.start
    split
    · rename_i session world equal
      rw [equal]
      rfl
    · rename_i equal
      rw [equal]
      rfl

/-- A network in which every host takes connections and greets. -/
def greetingHosts : Network where
  lookupHost _ := .ok []
  connect _ := .ok { incoming := [[7]], ending := none, limit := none }

/-- The user of the default settings. -/
def defaultUser : UserId :=
  Block.ofBytes 16 [0, 0, 0, 0, 0, 0, 0, 0, 0, 0, 0, 0, 0, 0, 0, 1]

/-- The address of a web server. -/
def webAddress : SocketAddrV4 :=
  { ip := Block.ofBytes 4 [1, 1, 1, 1], port := 443 }

/-- The default user can send a frame for the web server that has a byte for
it, and then the server relays. -/
theorem exists_served :
    ∃ (client : Stream) (world : World) (session : Session),
      client.outgoing = [] ∧
        Connection.start Provider.standard greetingHosts ServerConfig.default
          client false false = .relaying world session
            (relayStart world.client.unread world.target.unread false
              false) ∧
        world.target.outgoing = [3] := by
  let sealing : Sealing := {
    cipher := cipherOf Provider.standard defaultUser
    userId := defaultUser
    enablePadding := false
    maxPaddingLen := 0 }
  let draw : Draw 0 := {
    nonce := Block.ofBytes 12 []
    padding := ⟨[], Nat.zero_le _⟩ }
  obtain ⟨encrypted, -, short, opens⟩ := sealing.sealFrame_spec
    Provider.standard_lawful draw
    (show TargetAddr.IsWire (.ipV4 webAddress) from trivial)
    (show ([3] : Bytes).length ≤ READ_BUF_LEN by decide)
  let client := Stream.ofSegments [defaultUser.toList ++ frameBytes encrypted]
  have allowed : hexEncode defaultUser.toList ∈
      (ServerState.ofConfig ServerConfig.default).allowedUsers := by
    decide
  have admitted : Admitted Provider.standard
      (ServerState.ofConfig ServerConfig.default).allowedUsers
      (World.start client).client.unread defaultUser
      (sealing.frame draw (.ipV4 webAddress) [3]) [] := by
    refine ⟨allowed, encrypted, short, opens, ?_⟩
    change [defaultUser.toList ++ frameBytes encrypted].flatten = _
    rw [List.flatten_cons, List.flatten_nil, List.append_assoc]
  have resolves : Resolves greetingHosts
      (sealing.frame draw (.ipV4 webAddress) [3]).target (.v4 webAddress) :=
    rfl
  obtain ⟨after, lookups, handled, -⟩ := handleConnection_of_admitted admitted
    resolves (show greetingHosts.connect (.v4 webAddress) = .ok _ from rfl)
    (.inr rfl)
  exact ⟨client, _, _, rfl,
    Connection.start_of_handled rfl handled false false, rfl⟩

/-- The client of the default user was granted the web server. -/
theorem dialed_or_granted_web :
    ∃ client : Stream,
      let connection := Connection.start Provider.standard greetingHosts
        ServerConfig.default client false false
      connection.forwarded = [3] ∧
        ∃ address, connection.dialed = [address] ∧
          Granted Provider.standard greetingHosts ServerConfig.default client
            address := by
  obtain ⟨client, world, session, -, serves, payload⟩ := exists_served
  have forwarded : (Connection.start Provider.standard greetingHosts
      ServerConfig.default client false false).forwarded = [3] := by
    rw [serves]
    exact congrArg (· ++ []) payload
  refine ⟨client, forwarded, ?_⟩
  rcases dialed_or_granted Provider.standard greetingHosts
    ServerConfig.default client false false
    (fun _ => { nonce := Block.ofBytes 12 [], padding := ⟨[], Nat.zero_le _⟩ })
    [] _ rfl with ⟨-, silent⟩ | granted
  · rw [forwarded] at silent
    cases silent
  · exact granted

end Server
end GhostProtocol
