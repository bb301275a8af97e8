import GhostProtocol.Reality.Ja4
import GhostProtocol.Session.Segmentation

/-!
# The fingerprint check of the server

The settings of the server name the client fingerprints it allows, and say
whether they are checked in addition to the user id.  A disguised server accepts
the TLS connection, reads the authentication request and calls the handler; it
consults neither setting.
-/

namespace GhostProtocol

open Foundation Common Reality

namespace Server

/-! ## Accepting a connection -/

/-- The TLS library of the server: the handshake on a new connection ends with
an error, or with the decrypted connection. -/
abbrev TlsAcceptor := Stream → Except IoError Stream

/-- What becomes of a new connection before it is relayed. -/
inductive Accepted
  /-- The TLS handshake failed. -/
  | refused (error : IoError)
  /-- The connection was dropped without calling the handler. -/
  | dropped (world : World)
  /-- The handler is called. -/
  | handled (world : World)

/-- Accept a connection of a disguised server. -/
def acceptWithReality
    (acceptor : TlsAcceptor)
    (config : ServerConfig)
    (peer : Stream) : Accepted :=
  match acceptor peer with
  | .error error => .refused error
  | .ok tlsStream =>
      match (authenticate config).exec (World.start tlsStream) with
      | (.ok true, world) => .handled world
      | (_, world) => .dropped world

/-- Accept a connection, as the settings say. -/
def accept
    (acceptor : TlsAcceptor)
    (config : ServerConfig)
    (peer : Stream) : Accepted :=
  if config.enableReality then acceptWithReality acceptor config peer
  else .handled (World.start peer)

/-- A connection is served by calling the handler or by dropping it. -/
theorem exec_runWithReality
    (provider : Crypto.Provider)
    (network : Network)
    {config : ServerConfig}
    (reality : config.enableReality = true)
    {acceptor : TlsAcceptor}
    {peer tlsStream : Stream}
    (handshake : acceptor peer = .ok tlsStream) :
    (∃ world, accept acceptor config peer = .handled world ∧
        (run provider network config).exec (World.start tlsStream) =
          (some <$> handleConnection provider network
            (.ofConfig config)).exec world) ∨
      ∃ world, accept acceptor config peer = .dropped world ∧
        ((run provider network config).exec (World.start tlsStream)).2 =
          world := by
  rw [accept, if_pos reality, acceptWithReality, handshake, run, if_pos reality,
    runWithReality]
  simp only
  cases executed : (authenticate config).exec (World.start tlsStream) with
  | mk result world =>
      cases result with
      | error fault =>
          refine .inr ⟨world, rfl, ?_⟩
          rw [Program.exec_bind_of_error executed]
      | ok isGhost =>
          cases isGhost with
          | false =>
              refine .inr ⟨world, rfl, ?_⟩
              rw [Program.exec_bind_of_ok executed]
              rfl
          | true =>
              refine .inl ⟨world, rfl, ?_⟩
              rw [Program.exec_bind_of_ok executed]
              rfl

/-! ## Who is authenticated -/

/-- The first read of the connection returns a request with the token, and the
client accepts the answer. -/
def Authenticates (config : ServerConfig) (client : Stream) : Prop :=
  ∃ request next, client.read REQUEST_BUF_LEN = (.ok request, next) ∧
    detectGhostAuth request config.realityAuthKey = true ∧
    next.Accepts (Text.utf8Bytes switchingResponse).length

/-- Authentication succeeds exactly for such a client. -/
theorem authenticate_eq_true_iff
    (config : ServerConfig)
    (client : Stream) :
    (∃ world, (authenticate config).exec (World.start client) =
        (.ok true, world)) ↔
      Authenticates config client := by
  constructor
  · rintro ⟨world, isTrue⟩
    cases authenticate_outcome config (World.start client) with
    | failed error next read executed => cases executed.symm.trans isTrue
    | silent next read executed => cases executed.symm.trans isTrue
    | switched request next read detected accepts executed =>
        exact ⟨request, next, read, detected, accepts⟩
    | unanswered request next after error read detected refused executed =>
        cases executed.symm.trans isTrue
    | redirected request next read foreign executed =>
        cases executed.symm.trans isTrue
  · rintro ⟨request, next, read, detected, accepts⟩
    cases authenticate_outcome config (World.start client) with
    | failed error other failed executed => cases read.symm.trans failed
    | silent other ended executed =>
        obtain ⟨same, -⟩ := Prod.mk.inj (read.symm.trans ended)
        obtain rfl := Except.ok.inj same
        cases detected
    | switched taken other taking known ready executed => exact ⟨_, executed⟩
    | unanswered taken other after error taking known refused executed =>
        obtain ⟨-, rfl⟩ := Prod.mk.inj (read.symm.trans taking)
        exact absurd accepts refused
    | redirected taken other taking foreign executed =>
        obtain ⟨same, -⟩ := Prod.mk.inj (read.symm.trans taking)
        obtain rfl := Except.ok.inj same
        rw [detected] at foreign
        cases foreign

end Server

namespace Session

open Server

/-! ## What the settings promise -/

/-- The fingerprint of the ClientHello in front of the bytes of the peer is one
of those allowed. -/
def HasAllowedJa4
    (parser : TlsParser)
    (config : ServerConfig)
    (peer : Stream) : Prop :=
  ∃ fingerprint,
    extractJa4FromClientHello parser peer.unread = some fingerprint ∧
      verifyJa4 fingerprint config.allowedJa4 = true

/-- A disguised server that is told to check fingerprints calls the handler
only for a peer with an allowed one. -/
def EnforcesJa4
    (parser : TlsParser)
    (acceptor : TlsAcceptor)
    (config : ServerConfig)
    (peer : Stream) : Prop :=
  config.enableReality = true → config.verifyJa4 = true →
    ∀ world, accept acceptor config peer = .handled world →
      HasAllowedJa4 parser config peer

/-- The handler of a disguised server is called exactly for the clients that
are authenticated. -/
theorem accept_eq_handled_iff
    {acceptor : TlsAcceptor}
    {config : ServerConfig}
    (reality : config.enableReality = true)
    {peer : Stream} :
    (∃ world, accept acceptor config peer = .handled world) ↔
      ∃ client, acceptor peer = .ok client ∧ Authenticates config client := by
  rw [accept, if_pos reality, acceptWithReality]
  cases handshake : acceptor peer with
  | error error =>
      refine iff_of_false ?_ ?_
      · rintro ⟨world, handled⟩
        cases handled
      · rintro ⟨client, same, -⟩
        cases same
  | ok client =>
      have only : (∃ other, (Except.ok client : Except IoError Stream) =
          .ok other ∧ Authenticates config other) ↔
            Authenticates config client := by
        constructor
        · rintro ⟨other, same, authenticates⟩
          obtain rfl := Except.ok.inj same
          exact authenticates
        · exact fun authenticates => ⟨client, rfl, authenticates⟩
      rw [only, ← authenticate_eq_true_iff]
      simp only
      cases (authenticate config).exec (World.start client) with
      | mk result world =>
          constructor
          · rintro ⟨other, handled⟩
            split at handled
            · rename_i equal
              exact ⟨_, equal⟩
            · cases handled
          · rintro ⟨other, isTrue⟩
            rw [isTrue]
            exact ⟨other, rfl⟩

/-- The check is enforced exactly on the connections on which it makes no
difference: it is not asked for, the client is not authenticated, or its
fingerprint is allowed. -/
theorem enforcesJa4_iff
    (parser : TlsParser)
    (acceptor : TlsAcceptor)
    (config : ServerConfig)
    (peer : Stream) :
    EnforcesJa4 parser acceptor config peer ↔
      ¬(config.enableReality = true ∧ config.verifyJa4 = true ∧
          ∃ client, acceptor peer = .ok client ∧
            Authenticates config client) ∨
        HasAllowedJa4 parser config peer := by
  constructor
  · intro enforces
    by_cases allowed : HasAllowedJa4 parser config peer
    · exact .inr allowed
    · refine .inl ?_
      rintro ⟨reality, verified, authenticated⟩
      obtain ⟨world, handled⟩ :=
        (accept_eq_handled_iff reality).mpr authenticated
      exact allowed (enforces reality verified world handled)
  · rintro (unaffected | allowed) reality verified world handled
    · exact absurd ⟨reality, verified,
        (accept_eq_handled_iff reality).mp ⟨world, handled⟩⟩ unaffected
    · exact allowed

/-- Settings that allow the fingerprint of one browser only. -/
def chromeOnly : ServerConfig :=
  { ServerConfig.default with
    enableReality := true
    verifyJa4 := true
    allowedJa4 := [chromeJa4Fingerprint] }

/-- A peer with another fingerprint that knows the token is handled. -/
theorem not_enforcesJa4_chromeOnly :
    ¬EnforcesJa4 smallParser (fun _ => .ok (Stream.ofSegments [tokenRequest]))
      chromeOnly (Stream.ofSegments [smallRecord]) := by
  have nonempty : [tokenRequest].flatten ≠ [] := by decide
  have whole : (Stream.readSegments REQUEST_BUF_LEN [tokenRequest]).1 =
      [tokenRequest].flatten :=
    (Stream.readSegments_eq_flatten_iff REQUEST_BUF_LEN nonempty).mpr
      ⟨rfl, by decide⟩
  obtain ⟨world, authenticated, -⟩ := authenticate_of_detected chromeOnly
    nonempty [] (by
      rw [whole, List.flatten_singleton]
      exact detectGhostAuth_tokenRequest)
  have foreign : (extractJa4FromClientHello smallParser
      (Stream.ofSegments [smallRecord]).unread).all
        (fun fingerprint => !verifyJa4 fingerprint chromeOnly.allowedJa4) =
          true := by
    decide +kernel
  have handled : accept (fun _ => .ok (Stream.ofSegments [tokenRequest]))
      chromeOnly (Stream.ofSegments [smallRecord]) = .handled world := by
    rw [accept, if_pos (show chromeOnly.enableReality = true from rfl),
      acceptWithReality]
    simp only
    rw [show Stream.ofSegments [tokenRequest] =
      Stream.ofSegments ([tokenRequest] ++ []) from rfl, authenticated]
  intro enforces
  obtain ⟨fingerprint, extracted, allowed⟩ := enforces rfl rfl world handled
  rw [extracted, Option.all_some, allowed] at foreign
  cases foreign

end Session
end GhostProtocol
