import GhostProtocol.Client.Tunnel
import GhostProtocol.Crypto.Standard

/-!
# What a client in disguise gives away

A client in disguise first asks the server for a tunnel and reads its answer
once.  It sends its user id and the name of the target only behind an answer
that grants the tunnel; in every other case the connection ends with an error,
and the server has seen nothing but the request.
-/

namespace GhostProtocol
namespace Client

open Foundation Common Crypto Relay

/-- Bytes of the buffer for the answer to the request. -/
def ANSWER_BUF_LEN : Nat := 1024

/-- The request for a tunnel as it is sent. -/
def requestBytes (maskDomain : String) : Bytes :=
  Text.utf8Bytes (authRequest maskDomain)

/-- A stream on which the request has been written. -/
def asked (maskDomain : String) (stream : Stream) : Stream :=
  { stream with outgoing := stream.outgoing ++ requestBytes maskDomain }

/-- The answer that one read returns grants the tunnel. -/
def Grants (answer : Bytes) : Prop :=
  answer ≠ [] ∧ isAccepted (Text.fromUtf8Lossy answer) = true

/-- What a client in disguise does once its TLS connection stands: it asks for
a tunnel and reads the answer. -/
def askForTunnel (maskDomain : String) : Handler Stream Unit := do
  onSocket (Stream.writeAll (requestBytes maskDomain))
  let buf ← onSocket (Stream.read ANSWER_BUF_LEN)
  if buf = [] then
    bail "Reality auth failed: server closed connection"
  else
    let response := Text.fromUtf8Lossy buf
    if ¬isAccepted response then
      bail ("Reality auth failed: unexpected response: " ++
        firstLine response)
    else return ()

/-- A client in disguise fails before it has written anything, or asks for a
tunnel. -/
theorem exec_connectReality_cases
    (tls : TlsConnector)
    (maskDomain serverAddr realityAuthKey : String)
    (stream : Stream) :
    (∃ fault, (connectReality tls maskDomain serverAddr
        realityAuthKey).exec stream = (.error fault, stream)) ∨
      (connectReality tls maskDomain serverAddr realityAuthKey).exec stream =
        (askForTunnel maskDomain).exec stream := by
  cases parsed : parseHex32 realityAuthKey with
  | error fault =>
      left
      rw [connectReality, parsed]
      cases fault with
      | panic => exact ⟨_, rfl⟩
      | error error =>
          cases error with
          | message text => exact ⟨_, rfl⟩
          | _ => exact ⟨_, rfl⟩
  | ok fingerprint =>
      by_cases valid : tls.serverName maskDomain = true
      swap
      · left
        refine ⟨.error (.message "Invalid SNI domain: InvalidDnsNameError"), ?_⟩
        simp only [connectReality, parsed, Program.exec_bind,
          exec_liftOutcome, if_pos valid, exec_bail]
      cases handshake : tls.handshake maskDomain fingerprint with
      | error error =>
          left
          refine ⟨.error (.context ("TLS handshake failed to " ++ serverAddr ++
            " (SNI=" ++ maskDomain ++ ")") (.io error)), ?_⟩
          simp only [connectReality, parsed, Program.exec_bind,
            exec_liftOutcome, valid, handshake, not_true_eq_false, if_false]
      | ok done =>
          right
          simp only [connectReality, askForTunnel, requestBytes, ANSWER_BUF_LEN,
            parsed, Program.exec_bind, exec_liftOutcome, valid, handshake,
            not_true_eq_false, if_false]

/-- How asking for a tunnel ends: without a tunnel, with at most the request
written, or with an answer that grants it. -/
inductive Asked (maskDomain : String) (stream : Stream) : Prop
  | refused (fault : Fault AnyError) (next : Stream)
      (executed : (askForTunnel maskDomain).exec stream = (.error fault, next))
      (written : next.outgoing <+:
        stream.outgoing ++ requestBytes maskDomain)
  | granted (answer : Bytes) (next : Stream)
      (read : (asked maskDomain stream).read ANSWER_BUF_LEN =
        (.ok answer, next))
      (grants : Grants answer)
      (executed : (askForTunnel maskDomain).exec stream = (.ok (), next))

/-- Every way asking for a tunnel can end. -/
theorem askForTunnel_outcome (maskDomain : String) (stream : Stream) :
    Asked maskDomain stream := by
  have whole := stream.outgoing_writeAll_prefix (requestBytes maskDomain)
  rcases stream.writeAll_cases (requestBytes maskDomain) with
    ⟨-, written⟩ | ⟨-, error, next, failed⟩
  swap
  · rw [failed] at whole
    refine .refused (.error (.io error)) next (Program.exec_bind_of_error ?_)
      whole
    rw [onSocket, Program.exec_onStream, id, failed]
    rfl
  have write : (onSocket (Stream.writeAll (requestBytes maskDomain))).exec
      stream = (.ok (), asked maskDomain stream) := by
    rw [onSocket, Program.exec_onStream, id, written]
    rfl
  have kept := (asked maskDomain stream).outgoing_read ANSWER_BUF_LEN
  cases read : (asked maskDomain stream).read ANSWER_BUF_LEN with
  | mk outcome next =>
      rw [read] at kept
      have atMost : next.outgoing <+:
          stream.outgoing ++ requestBytes maskDomain :=
        kept ▸ List.prefix_rfl
      cases outcome with
      | error error =>
          refine .refused (.error (.io error)) next
            ((Program.exec_bind_of_ok write).trans
              (Program.exec_bind_of_error ?_)) atMost
          rw [onSocket, Program.exec_onStream, id, read]
          rfl
      | ok answer =>
          have answered : (onSocket (Stream.read ANSWER_BUF_LEN)).exec
              (asked maskDomain stream) = (.ok answer, next) := by
            rw [onSocket, Program.exec_onStream, id, read]
            rfl
          have continues := (show (askForTunnel maskDomain).exec stream = _ from
            (Program.exec_bind_of_ok write).trans
              (Program.exec_bind_of_ok answered))
          by_cases empty : answer = []
          · rw [if_pos empty] at continues
            exact .refused _ next continues atMost
          rw [if_neg empty] at continues
          by_cases accepted : isAccepted (Text.fromUtf8Lossy answer) = true
          · simp only [accepted, not_true_eq_false, if_false] at continues
            exact .granted answer next read ⟨empty, accepted⟩ continues
          · simp only [if_pos accepted] at continues
            exact .refused _ next continues atMost

/-! ## The opening of a tunnel -/

/-- What a client sends once it may: its user id and the frame that names the
target. -/
def sendOpening
    (provider : Provider)
    (config : ClientConfig)
    (target : TargetAddr)
    (draw : Draw config.maxPaddingLen.toNat)
    (userId : UserId) : Handler Stream Sealing := do
  let key := deriveKey provider userId secret
  let cipher ← liftCrypto (GhostCipher.new provider.aead key.toList)
  onSocket (Stream.writeAll userId.toList)
  let sealing := sealingOf config userId cipher
  let encrypted ← liftOutcome (match sealing.sealFrame draw target [] with
    | .error .panic => .error .panic
    | .error (.error error) => .error (.error (.crypto error))
    | .ok encrypted => .ok encrypted)
  onSocket (Stream.writeAll (u16Be (UInt16.ofNat encrypted.length)))
  onSocket (Stream.writeAll encrypted)
  return sealing

/-- A client with a user id and a connection asks for a tunnel if it is in
disguise, and sends its opening. -/
theorem exec_proxyThroughGhost_of_parsed
    (provider : Provider)
    (tls : TlsConnector)
    {config : ClientConfig}
    {userId : UserId}
    (parsed : parseUserId config.userId = .ok userId)
    (target : TargetAddr)
    (draw : Draw config.maxPaddingLen.toNat)
    (stream : Stream) :
    (proxyThroughGhost provider tls (.ok ()) config target draw).exec stream =
      ((if isDisguised config then
          connectReality tls config.maskDomain config.serverAddr
            config.realityAuthKey
        else pure ()) >>= fun _ =>
          sendOpening provider config target draw userId).exec stream := by
  have known : (liftOutcome (parseUserId config.userId) :
      Handler Stream UserId).exec stream = (.ok userId, stream) := by
    rw [exec_liftOutcome, parsed]
  have connects : (liftOutcome (.ok ()) : Handler Stream Unit).exec stream =
      (.ok (), stream) := rfl
  exact (Program.exec_bind_of_ok known).trans (Program.exec_bind_of_ok connects)

/-- A client in disguise fails with at most its request written, or is granted
the tunnel and sends its opening. -/
theorem exec_proxyThroughGhost_cases
    (provider : Provider)
    (tls : TlsConnector)
    (connected : Except IoError Unit)
    {config : ClientConfig}
    (disguised : isDisguised config = true)
    (target : TargetAddr)
    (draw : Draw config.maxPaddingLen.toNat)
    (stream : Stream) :
    (∃ fault next,
        (proxyThroughGhost provider tls connected config target draw).exec
            stream = (.error fault, next) ∧
          next.outgoing <+:
            stream.outgoing ++ requestBytes config.maskDomain) ∨
      ∃ userId answer next,
        parseUserId config.userId = .ok userId ∧
          (asked config.maskDomain stream).read ANSWER_BUF_LEN =
            (.ok answer, next) ∧
          Grants answer ∧
          (proxyThroughGhost provider tls connected config target draw).exec
              stream =
            (sendOpening provider config target draw userId).exec next := by
  have unwritten : stream.outgoing <+:
      stream.outgoing ++ requestBytes config.maskDomain :=
    List.prefix_append _ _
  cases parsed : parseUserId config.userId with
  | error fault =>
      left
      refine ⟨fault, stream, ?_, unwritten⟩
      simp only [proxyThroughGhost, parsed, Program.exec_bind,
        exec_liftOutcome]
  | ok userId =>
      cases connected with
      | error error =>
          left
          refine ⟨.error (.context ("Failed to connect to Ghost server at " ++
            config.serverAddr) (.io error)), stream, ?_, unwritten⟩
          simp only [proxyThroughGhost, parsed, Program.exec_bind,
            exec_liftOutcome]
      | ok done =>
          have continues := exec_proxyThroughGhost_of_parsed provider tls parsed
            target draw stream
          rw [if_pos disguised] at continues
          rw [continues, Program.exec_bind]
          rcases exec_connectReality_cases tls config.maskDomain
              config.serverAddr config.realityAuthKey stream with
            ⟨fault, failed⟩ | asks
          · left
            exact ⟨fault, stream, by rw [failed], unwritten⟩
          · rw [asks]
            cases askForTunnel_outcome config.maskDomain stream with
            | refused fault next executed written =>
                left
                exact ⟨fault, next, by rw [executed], written⟩
            | granted answer next read grants executed =>
                right
                exact ⟨userId, answer, next, rfl, read, grants,
                  by rw [executed]⟩

/-- The opening is the user id and a frame behind its length, or part of
that. -/
theorem writes_sendOpening
    (provider : Provider)
    (config : ClientConfig)
    (target : TargetAddr)
    (draw : Draw config.maxPaddingLen.toNat)
    (userId : UserId) :
    ∃ encrypted, Writes (sendOpening provider config target draw userId)
      (userId.toList ++ frameBytes encrypted) := by
  have cipher : GhostCipher.new provider.aead
      (deriveKey provider userId secret).toList =
        .ok (cipherOf provider userId) :=
    GhostCipher.new_toList _ _
  cases sealed : (sealingOf config userId (cipherOf provider userId)).sealFrame
      draw target [] with
  | error fault =>
      obtain ⟨other, opening⟩ : ∃ other,
          sendOpening provider config target draw userId = (do
            onSocket (Stream.writeAll userId.toList)
            liftOutcome (.error other)) := by
        cases fault with
        | panic =>
            refine ⟨.panic, funext fun stream => ?_⟩
            change Program.exec _ stream = Program.exec _ stream
            simp only [Program.exec_bind, cipher, exec_liftCrypto_ok,
              exec_liftOutcome, sealed]
        | error error =>
            refine ⟨.error (.crypto error), funext fun stream => ?_⟩
            change Program.exec _ stream = Program.exec _ stream
            simp only [Program.exec_bind, cipher, exec_liftCrypto_ok,
              exec_liftOutcome, sealed]
      refine ⟨[], ?_⟩
      rw [opening]
      exact (writes_writeAll _).bind fun _ => writes_liftOutcome_error _ _
  | ok encrypted =>
      have opening : sendOpening provider config target draw userId = (do
          onSocket (Stream.writeAll userId.toList)
          onSocket (Stream.writeAll
            (u16Be (UInt16.ofNat encrypted.length)))
          onSocket (Stream.writeAll encrypted)
          pure (sealingOf config userId (cipherOf provider userId))) := by
        funext stream
        change Program.exec _ stream = Program.exec _ stream
        simp only [Program.exec_bind, cipher, exec_liftCrypto_ok,
          exec_liftOutcome, sealed]
      refine ⟨encrypted, ?_⟩
      rw [opening]
      have rest := (writes_writeAll encrypted).bind fun _ =>
        writes_pure (sealingOf config userId (cipherOf provider userId))
      rw [List.append_nil] at rest
      exact (writes_writeAll _).bind fun _ => (writes_writeAll _).bind fun _ =>
        rest

/-- Whatever the server answers, a client in disguise has written at most its
request, unless the answer grants the tunnel; then it has written its request
and at most the user id and a frame. -/
theorem discloses_of_granted
    (provider : Provider)
    (tls : TlsConnector)
    (connected : Except IoError Unit)
    {config : ClientConfig}
    (disguised : isDisguised config = true)
    (target : TargetAddr)
    (draw : Draw config.maxPaddingLen.toNat)
    (stream : Stream) :
    (∃ fault next,
        (proxyThroughGhost provider tls connected config target draw).exec
            stream = (.error fault, next) ∧
          next.outgoing <+:
            stream.outgoing ++ requestBytes config.maskDomain) ∨
      ∃ userId answer next encrypted,
        parseUserId config.userId = .ok userId ∧
          (asked config.maskDomain stream).read ANSWER_BUF_LEN =
            (.ok answer, next) ∧
          Grants answer ∧
          ((proxyThroughGhost provider tls connected config target draw).exec
              stream).2.outgoing <+:
            stream.outgoing ++ requestBytes config.maskDomain ++
              (userId.toList ++ frameBytes encrypted) := by
  rcases exec_proxyThroughGhost_cases provider tls connected disguised target
      draw stream with
    failed | ⟨userId, answer, next, parsed, read, grants, executed⟩
  · exact .inl failed
  · right
    obtain ⟨encrypted, writes⟩ :=
      writes_sendOpening provider config target draw userId
    have kept := (asked config.maskDomain stream).outgoing_read ANSWER_BUF_LEN
    rw [read] at kept
    refine ⟨userId, answer, next, encrypted, parsed, read, grants, ?_⟩
    have part := writes.part next
    rw [executed]
    rw [kept] at part
    exact part

/-- A server that closes the connection is sent no more than a request. -/
theorem discloses_of_granted_closed :
    ∃ fault next,
      (proxyThroughGhost Provider.standard
        { serverName := fun _ => true, handshake := fun _ _ => .ok () } (.ok ())
        ClientConfig.default .none {
          nonce := ⟨List.replicate 12 0, rfl⟩
          padding := ⟨[], Nat.zero_le _⟩ }).exec (Stream.ofSegments []) =
        (.error fault, next) ∧
      next.outgoing <+: requestBytes ClientConfig.default.maskDomain := by
  rcases discloses_of_granted Provider.standard
      { serverName := fun _ => true, handshake := fun _ _ => .ok () } (.ok ())
      (show isDisguised ClientConfig.default = true by decide) .none
      { nonce := ⟨List.replicate 12 0, rfl⟩, padding := ⟨[], Nat.zero_le _⟩ }
      (Stream.ofSegments []) with
    ⟨fault, next, executed, written⟩ |
    ⟨userId, answer, next, encrypted, parsed, read, grants, written⟩
  · have atMost : next.outgoing <+:
        [] ++ requestBytes ClientConfig.default.maskDomain := written
    rw [List.nil_append] at atMost
    exact ⟨fault, next, executed, atMost⟩
  · have front : [] = answer ++ next.unread := Stream.unread_of_read read
    exact absurd (List.append_eq_nil_iff.mp front.symm).1 grants.1

end Client
end GhostProtocol
