import GhostProtocol.Client.Tunnel
import GhostProtocol.Foundation.Utf8
import GhostProtocol.Server.Reality

/-!
# Authentication of a disguised tunnel

The client derives its token from the built-in secret of 18 bytes, and the
server expects the configured key of 64 digits.  No request of a client is
therefore recognised, whatever the domain and the key are and in whatever
segments it arrives, and the server answers it with the redirect.
-/

namespace GhostProtocol
namespace Session

open Foundation Common

/-- Whether a character can occur in a DNS name. -/
def isDnsChar (char : Char) : Bool :=
  char.toNat < 128 &&
    (char.isAlphanum || char = '-' || char = '_' || char = '.')

/-- Whether a character can occur in an IP address. -/
def isIpChar (char : Char) : Bool :=
  Text.isHexDigit char || char = ':' || char = '.'

/-- The TLS library accepts only DNS names and IP addresses as server
names. -/
def AcceptsServerNames (tls : Client.TlsConnector) : Prop :=
  ∀ name, tls.serverName name = true →
    (∀ char ∈ name.toList, isDnsChar char = true) ∨
      ∀ char ∈ name.toList, isIpChar char = true

/-- What follows the marker in a request of the client. -/
def authRemainder : List Char :=
  ' ' :: ((Client.hexEncode Client.secret).toList ++ "\r\n".toList ++
    "Connection: upgrade\r\n".toList ++ "Upgrade: ghost-tunnel\r\n\r\n".toList)

/-- The request of the client, cut after the name of the host header, after
the domain and its line end, and after the marker. -/
theorem toList_authRequest (maskDomain : String) :
    (Client.authRequest maskDomain).toList =
      "GET /ghost HTTP/1.1\r\nHost:".toList ++
        ' ' :: (maskDomain.toList ++
          '\r' :: ([] ++ '\n' :: (Server.authMarker.toList ++
            authRemainder))) := by
  have host : "Host: ".toList = "Host:".toList ++ [' '] := by decide
  have start : "GET /ghost HTTP/1.1\r\n".toList ++ "Host:".toList =
      "GET /ghost HTTP/1.1\r\nHost:".toList := by decide
  have lineEnd : "\r\n".toList = ['\r', '\n'] := by decide
  have marker : "X-Ghost-Auth: ".toList = Server.authMarker.toList ++ [' '] := by
    decide
  unfold Client.authRequest authRemainder
  simp only [String.toList_append]
  generalize (Client.hexEncode Client.secret).toList = token
  generalize "Connection: upgrade\r\n".toList = connection
  generalize "Upgrade: ghost-tunnel\r\n\r\n".toList = upgrade
  simp only [host, ← start, marker, lineEnd, List.append_assoc,
    List.cons_append, List.nil_append]

/-- A DNS name or an IP address lacks a character of the marker. -/
theorem exists_absent_of_serverName
    {tls : Client.TlsConnector}
    (names : AcceptsServerNames tls)
    {maskDomain : String}
    (valid : tls.serverName maskDomain = true) :
    (∃ char ∈ Server.authMarker.toList, char ∉ maskDomain.toList) ∧
      ∀ char ∈ maskDomain.toList, Text.IsAscii char := by
  rcases names maskDomain valid with dns | ip
  · refine ⟨⟨':', by decide, fun member => ?_⟩, fun char member => ?_⟩
    · exact absurd (dns ':' member) (by decide)
    · have isDns := dns char member
      simp only [isDnsChar, Bool.and_eq_true, decide_eq_true_eq] at isDns
      exact isDns.1
  · refine ⟨⟨'X', by decide, fun member => ?_⟩, fun char member => ?_⟩
    · exact absurd (ip 'X' member) (by decide)
    · have isIp := ip char member
      simp only [isIpChar, Bool.or_eq_true, decide_eq_true_eq] at isIp
      rcases isIp with (digit | rfl) | rfl
      · exact (Text.hexDigitValue_of_isHexDigit digit).1
      · decide
      · decide

/-- The first marker in a request is the one of the authentication header. -/
theorem afterFirst_authRequest
    {tls : Client.TlsConnector}
    (names : AcceptsServerNames tls)
    {maskDomain : String}
    (valid : tls.serverName maskDomain = true) :
    Text.afterFirst Server.authMarker.toList
        (Client.authRequest maskDomain).toList =
      some authRemainder := by
  have absent := (exists_absent_of_serverName names valid).1
  rw [toList_authRequest,
    Text.afterFirst_skip (by decide) ⟨'X', by decide, by decide⟩,
    Text.afterFirst_skip (by decide) absent,
    Text.afterFirst_skip (by decide) ⟨'X', by decide, by decide⟩,
    Text.afterFirst_self_append (by decide)]

/-- The token in front of part of a text is part of the token in front of the
whole. -/
theorem takeToken_trimStart_prefix
    {text longer : List Char}
    (isPrefix : text <+: longer) :
    Server.takeToken (Text.trimStart text) <+:
      Server.takeToken (Text.trimStart longer) := by
  obtain ⟨more, rfl⟩ := isPrefix
  rw [Text.trimStart, Text.trimStart, List.dropWhile_append]
  split_ifs with blank
  · rw [List.isEmpty_iff.mp blank]
    exact List.nil_prefix
  · rw [Server.takeToken, Server.takeToken, List.takeWhile_append]
    split_ifs with whole
    · exact (List.takeWhile_prefix _).trans (List.prefix_append _ _)
    · exact List.prefix_rfl

/-- The token of the client has 36 bytes. -/
theorem length_authRemainder_token :
    (Text.charBytes (Server.takeToken (Text.trimStart authRemainder))).length =
      36 := by
  decide

/-- A request of the client is ASCII. -/
theorem ascii_authRequest
    {maskDomain : String}
    (ascii : ∀ char ∈ maskDomain.toList, Text.IsAscii char) :
    ∀ char ∈ (Client.authRequest maskDomain).toList, Text.IsAscii char := by
  have before := Text.ascii_of_all (show
    "GET /ghost HTTP/1.1\r\nHost:".toList.all _ = true from by decide +kernel)
  have behind := Text.ascii_of_all (show
    (Server.authMarker.toList ++ authRemainder).all _ = true from by
      decide +kernel)
  intro char member
  rw [toList_authRequest] at member
  rcases List.mem_append.mp member with inFront | member
  · exact before char inFront
  rcases List.mem_cons.mp member with rfl | member
  · decide
  rcases List.mem_append.mp member with inDomain | member
  · exact ascii char inDomain
  rcases List.mem_cons.mp member with rfl | member
  · decide
  rcases List.mem_cons.mp member with rfl | member
  · decide
  · exact behind char member

/-- No part of a request of the client that is read first is recognised,
whatever the key. -/
theorem detectGhostAuth_authRequest
    {tls : Client.TlsConnector}
    (names : AcceptsServerNames tls)
    {maskDomain : String}
    (valid : tls.serverName maskDomain = true)
    {request : Bytes}
    (read : request <+: Text.utf8Bytes (Client.authRequest maskDomain))
    (authKeyHex : String) :
    Server.detectGhostAuth request authKeyHex = false := by
  have ascii := ascii_authRequest (exists_absent_of_serverName names valid).2
  obtain ⟨text, isPrefix, rfl⟩ : ∃ text,
      text <+: (Client.authRequest maskDomain).toList ∧
        request = Text.charBytes text := by
    rw [Text.utf8Bytes, Text.charBytes_of_ascii ascii, List.prefix_map_iff]
      at read
    obtain ⟨text, isPrefix, equal⟩ := read
    refine ⟨text, isPrefix, equal.trans (Text.charBytes_of_ascii ?_).symm⟩
    exact fun char member => ascii char (isPrefix.subset member)
  unfold Server.detectGhostAuth
  rw [Text.fromUtf8Lossy_charBytes]
  cases found : Text.afterFirst Server.authMarker.toList text with
  | none => rfl
  | some remainder =>
      have remainderPrefix : remainder <+: authRemainder := by
        obtain ⟨more, equal⟩ := isPrefix
        have whole := Text.afterFirst_append found more
        rw [equal, afterFirst_authRequest names valid] at whole
        exact ⟨more, (Option.some.inj whole).symm⟩
      have short : (Text.charBytes
          (Server.takeToken (Text.trimStart remainder))).length ≤ 36 := by
        obtain ⟨rest, equal⟩ := takeToken_trimStart_prefix remainderPrefix
        rw [← length_authRemainder_token, ← equal, Text.charBytes_append,
          List.length_append]
        exact Nat.le_add_right _ _
      simp only [Bool.and_eq_false_iff, decide_eq_false_iff_not]
      left
      omega

/-- With a valid domain and key, the client writes its request once the TLS
handshake is done. -/
theorem outgoing_connectReality
    {tls : Client.TlsConnector}
    {maskDomain : String}
    (valid : tls.serverName maskDomain = true)
    (serverAddr : String)
    {realityAuthKey : String}
    (isKey : Client.IsHexKey realityAuthKey)
    (handshake : ∀ fingerprint,
      tls.handshake maskDomain fingerprint = .ok ())
    {stream : Stream}
    (unlimited : stream.limit = none) :
    ((Client.connectReality tls maskDomain serverAddr realityAuthKey).exec
        stream).2.outgoing =
      stream.outgoing ++ Text.utf8Bytes (Client.authRequest maskDomain) := by
  obtain ⟨fingerprint, parsed⟩ := Client.parseHex32_of_isHexKey isKey
  simp only [Client.connectReality, parsed, valid, handshake,
    not_true_eq_false, if_false, Program.exec_bind, exec_liftOutcome,
    exec_writeAll unlimited]
  generalize request : stream.outgoing ++ _ = outgoing
  have kept := Stream.outgoing_read { stream with outgoing } 1024
  cases answer : (onSocket (Stream.read 1024)).exec
      { stream with outgoing } with
  | mk outcome next =>
      have same : next.outgoing = outgoing :=
        (congrArg (fun result => result.2.outgoing) answer.symm).trans kept
      cases outcome with
      | error fault => exact same
      | ok response =>
          simp only
          split_ifs <;> exact same

/-- What a disguised server does with a first request that is not recognised:
it answers with the redirect and is done with the connection. -/
theorem authenticate_of_not_detected
    (config : ServerConfig)
    {segments : List Bytes}
    (nonempty : segments.flatten ≠ [])
    (foreign : ∀ request, request <+: segments.flatten →
      Server.detectGhostAuth request config.realityAuthKey = false) :
    ∃ client, (Server.authenticate config).exec
        (.start (Stream.ofSegments segments)) =
          (.ok false,
            { Server.World.start (Stream.ofSegments segments) with client }) ∧
      client.outgoing =
        Text.utf8Bytes (Server.redirectResponse config.maskDomain) := by
  obtain ⟨request, incoming, read, something, isPrefix⟩ :=
    Stream.read_of_ne_nil
      (show 0 < Server.REQUEST_BUF_LEN from Nat.zero_lt_succ _)
      (show (Stream.ofSegments segments).unread ≠ [] from nonempty)
  cases Server.authenticate_outcome config
      (.start (Stream.ofSegments segments)) with
  | failed error next failed executed => cases read.symm.trans failed
  | silent next ended executed =>
      obtain ⟨same, -⟩ := Prod.mk.inj (read.symm.trans ended)
      exact absurd (Except.ok.inj same) something
  | switched taken next taking detected accepts executed =>
      obtain ⟨same, -⟩ := Prod.mk.inj (read.symm.trans taking)
      obtain rfl := Except.ok.inj same
      rw [foreign request isPrefix] at detected
      cases detected
  | unanswered taken next after error taking detected refused executed =>
      obtain ⟨same, -⟩ := Prod.mk.inj (read.symm.trans taking)
      obtain rfl := Except.ok.inj same
      rw [foreign request isPrefix] at detected
      cases detected
  | redirected taken next taking notDetected executed =>
      obtain ⟨-, rfl⟩ := Prod.mk.inj (read.symm.trans taking)
      generalize Text.utf8Bytes (Server.redirectResponse config.maskDomain) =
        response at executed ⊢
      exact ⟨_, executed, rfl⟩

/-- No client of a disguised server is recognised, whatever the valid domain
and the shared key are: the request the client writes is not detected, and
however it is cut into segments the server answers it with the redirect. -/
theorem authRequest_redirected
    {tls : Client.TlsConnector}
    (names : AcceptsServerNames tls)
    {maskDomain : String}
    (valid : tls.serverName maskDomain = true)
    (serverAddr : String)
    (config : ServerConfig)
    (isKey : Client.IsHexKey config.realityAuthKey)
    (handshake : ∀ fingerprint,
      tls.handshake maskDomain fingerprint = .ok ())
    {stream : Stream}
    (unlimited : stream.limit = none)
    {segments : List Bytes}
    (sent : ((Client.connectReality tls maskDomain serverAddr
        config.realityAuthKey).exec stream).2.outgoing =
      stream.outgoing ++ segments.flatten) :
    Server.detectGhostAuth segments.flatten config.realityAuthKey = false ∧
      ∃ client, (Server.authenticate config).exec
          (.start (Stream.ofSegments segments)) =
            (.ok false,
              { Server.World.start (Stream.ofSegments segments) with client }) ∧
        client.outgoing =
          Text.utf8Bytes (Server.redirectResponse config.maskDomain) := by
  have request : segments.flatten =
      Text.utf8Bytes (Client.authRequest maskDomain) := by
    rw [outgoing_connectReality valid serverAddr isKey handshake unlimited]
      at sent
    exact (List.append_cancel_left sent).symm
  have foreign : ∀ part, part <+: segments.flatten →
      Server.detectGhostAuth part config.realityAuthKey = false := by
    intro part isPrefix
    rw [request] at isPrefix
    exact detectGhostAuth_authRequest names valid isPrefix _
  refine ⟨foreign _ List.prefix_rfl, authenticate_of_not_detected config ?_
    foreign⟩
  rw [request, Text.utf8Bytes, toList_authRequest]
  exact List.cons_ne_nil _ _

/-- A TLS library that accepts DNS names, and every certificate. -/
def dnsConnector : Client.TlsConnector where
  serverName name := name.toList.all isDnsChar
  handshake _ _ := .ok ()

theorem dnsConnector_acceptsServerNames :
    AcceptsServerNames dnsConnector := by
  intro name accepted
  exact .inl (List.all_eq_true.mp accepted)

/-- The default domain and key. -/
theorem authRequest_redirected_default :
    let segments := [Text.utf8Bytes (Client.authRequest "www.apple.com")]
    Server.detectGhostAuth segments.flatten
        ServerConfig.default.realityAuthKey = false ∧
      ∃ client, (Server.authenticate ServerConfig.default).exec
          (.start (Stream.ofSegments segments)) =
            (.ok false,
              { Server.World.start (Stream.ofSegments segments) with client }) ∧
        client.outgoing =
          Text.utf8Bytes (Server.redirectResponse "www.apple.com") := by
  have valid : dnsConnector.serverName "www.apple.com" = true := by decide
  have handshake : ∀ fingerprint,
      dnsConnector.handshake "www.apple.com" fingerprint = .ok () :=
    fun _ => rfl
  refine authRequest_redirected dnsConnector_acceptsServerNames valid
    "127.0.0.1:443" ServerConfig.default Client.isHexKey_default handshake
    (rfl : (Stream.ofSegments []).limit = none) ?_
  rw [outgoing_connectReality valid "127.0.0.1:443" Client.isHexKey_default
    handshake rfl, List.flatten_singleton]

/-- A client with the default domain and key is not recognised. -/
theorem not_authRequest_detected :
    ¬ ∀ (tls : Client.TlsConnector) (maskDomain authKeyHex : String),
      AcceptsServerNames tls → tls.serverName maskDomain = true →
      Client.IsHexKey authKeyHex →
      Server.detectGhostAuth (Text.utf8Bytes (Client.authRequest maskDomain))
        authKeyHex = true := by
  intro complete
  have valid : dnsConnector.serverName "www.apple.com" = true := by decide
  have detected := complete dnsConnector "www.apple.com"
    ServerConfig.default.realityAuthKey dnsConnector_acceptsServerNames valid
    Client.isHexKey_default
  rw [detectGhostAuth_authRequest dnsConnector_acceptsServerNames valid
    List.prefix_rfl] at detected
  cases detected

end Session
end GhostProtocol
