import GhostProtocol.Client.Disguise
import GhostProtocol.Server.Listener
import GhostProtocol.Session.RealityAuth

/-!
# A disguised client and a disguised server

The two ends of a disguised tunnel never agree.  Before any answer the client
has written at most its request; on any part of that request the server turns
it away; and on any part of the redirect the client gives up.  Neither the user
id nor the name of the target ever leaves the client.
-/

namespace GhostProtocol
namespace Session

open Foundation Foundation.AsyncTask Common Crypto Relay

/-! ## What the client makes of the redirect -/

/-- The redirect, cut at its colons and line ends. -/
theorem redirect_split (maskDomain : String) :
    (Server.redirectResponse maskDomain).toList =
      "HTTP/1.1 301 Moved Permanently\r".toList ++
        '\n' :: ("Location".toList ++
        ':' :: (" https".toList ++
        ':' :: (("//".toList ++ maskDomain.toList) ++
        '\r' :: ([] ++
        '\n' :: ("Content-Length".toList ++
        ':' :: (" 0\r".toList ++
        '\n' :: ("Connection".toList ++
        ':' :: (" close\r\n\r\n".toList)))))))) := by
  have status : "HTTP/1.1 301 Moved Permanently\r\n".toList =
      "HTTP/1.1 301 Moved Permanently\r".toList ++ ['\n'] := by decide
  have location : "Location: https://".toList =
      "Location".toList ++ ':' :: (" https".toList ++
        ':' :: "//".toList) := by decide
  have lineEnd : "\r\n".toList = ['\r', '\n'] := by decide
  have length : "Content-Length: 0\r\n".toList =
      "Content-Length".toList ++ ':' :: (" 0\r".toList ++ ['\n']) := by decide
  have connection : "Connection: close\r\n\r\n".toList =
      "Connection".toList ++ ':' :: " close\r\n\r\n".toList := by decide
  unfold Server.redirectResponse
  simp only [String.toList_append]
  generalize "HTTP/1.1 301 Moved Permanently\r\n".toList = first at status ⊢
  generalize "Location: https://".toList = second at location ⊢
  generalize "Content-Length: 0\r\n".toList = third at length ⊢
  generalize "Connection: close\r\n\r\n".toList = fourth at connection ⊢
  simp only [status, location, lineEnd, length, connection, List.append_assoc,
    List.cons_append, List.nil_append]

/-- A text is not found where one of its characters is missing. -/
theorem afterFirst_of_absent
    {pattern text : List Char}
    {needed : Char}
    (inPattern : needed ∈ pattern)
    (absent : needed ∉ text) :
    Text.afterFirst pattern text = none := by
  cases found : Text.afterFirst pattern text with
  | none => rfl
  | some rest =>
      obtain ⟨before, rfl⟩ := Text.eq_append_of_afterFirst found
      simp [inPattern] at absent

/-- A text with a blank and with a character foreign to the redirect is not
found in it. -/
theorem afterFirst_redirect
    {pattern : List Char}
    (needed : Char)
    (blank : ' ' ∈ pattern)
    (inPattern : needed ∈ pattern)
    (delimiters : '\n' ∉ pattern ∧ ':' ∉ pattern ∧ '\r' ∉ pattern)
    (foreign : needed ∉ "HTTP/1.1 301 Moved Permanently\r".toList ∧
      needed ∉ " https".toList ∧ needed ∉ " 0\r".toList ∧
      needed ∉ " close\r\n\r\n".toList)
    {maskDomain : String}
    (noBlank : ' ' ∉ maskDomain.toList) :
    Text.afterFirst pattern (Server.redirectResponse maskDomain).toList =
      none := by
  obtain ⟨noFeed, noColon, noReturn⟩ := delimiters
  obtain ⟨status, scheme, zero, close⟩ := foreign
  have url : ' ' ∉ "//".toList ++ maskDomain.toList := by
    rw [List.mem_append, not_or]
    exact ⟨by decide, noBlank⟩
  rw [redirect_split, Text.afterFirst_skip noFeed ⟨needed, inPattern, status⟩,
    Text.afterFirst_skip noColon ⟨' ', blank, by decide⟩,
    Text.afterFirst_skip noColon ⟨needed, inPattern, scheme⟩,
    Text.afterFirst_skip noReturn ⟨' ', blank, url⟩,
    Text.afterFirst_skip noFeed ⟨' ', blank, by decide⟩,
    Text.afterFirst_skip noColon ⟨' ', blank, by decide⟩,
    Text.afterFirst_skip noFeed ⟨needed, inPattern, zero⟩,
    Text.afterFirst_skip noColon ⟨' ', blank, by decide⟩]
  exact afterFirst_of_absent inPattern close

/-- What is not found in a text is not found in a front of it. -/
theorem afterFirst_of_prefix
    {pattern text whole : List Char}
    (isPrefix : text <+: whole)
    (absent : Text.afterFirst pattern whole = none) :
    Text.afterFirst pattern text = none := by
  cases found : Text.afterFirst pattern text with
  | none => rfl
  | some rest =>
      obtain ⟨more, rfl⟩ := isPrefix
      rw [Text.afterFirst_append found] at absent
      cases absent

/-- A server name has no blank. -/
theorem noBlank_of_serverName
    {tls : Client.TlsConnector}
    (names : AcceptsServerNames tls)
    {maskDomain : String}
    (valid : tls.serverName maskDomain = true) :
    ' ' ∉ maskDomain.toList := by
  intro member
  rcases names maskDomain valid with dns | ip
  · exact absurd (dns ' ' member) (by decide)
  · exact absurd (ip ' ' member) (by decide)

/-- The redirect to an ASCII domain is ASCII. -/
theorem ascii_redirect
    {maskDomain : String}
    (domain : ∀ char ∈ maskDomain.toList, Text.IsAscii char) :
    ∀ char ∈ (Server.redirectResponse maskDomain).toList,
      Text.IsAscii char := by
  have front := Text.ascii_of_all (show
    ("HTTP/1.1 301 Moved Permanently\r\n".toList ++
      "Location: https://".toList).all _ = true from by decide +kernel)
  have behind := Text.ascii_of_all (show
    ("\r\n".toList ++ ("Content-Length: 0\r\n".toList ++
      "Connection: close\r\n\r\n".toList)).all _ = true from by
        decide +kernel)
  intro char member
  unfold Server.redirectResponse at member
  simp only [String.toList_append, List.append_assoc] at member
  rw [← List.append_assoc] at member
  rcases List.mem_append.mp member with inFront | member
  · exact front char inFront
  rcases List.mem_append.mp member with inDomain | inBehind
  · exact domain char inDomain
  · exact behind char inBehind

/-- The first bytes of an ASCII text are those of its first characters. -/
theorem exists_front_of_ascii
    {text : List Char}
    (ascii : ∀ char ∈ text, Text.IsAscii char)
    {bytes : Bytes}
    (part : bytes <+: Text.charBytes text) :
    ∃ front, front <+: text ∧ bytes = Text.charBytes front := by
  rw [Text.charBytes_of_ascii ascii, List.prefix_map_iff] at part
  obtain ⟨front, isPrefix, equal⟩ := part
  refine ⟨front, isPrefix, equal.trans (Text.charBytes_of_ascii ?_).symm⟩
  exact fun char member => ascii char (isPrefix.subset member)

/-- No part of the redirect grants a tunnel. -/
theorem not_grants_redirect
    {tls : Client.TlsConnector}
    (names : AcceptsServerNames tls)
    {maskDomain : String}
    (valid : tls.serverName maskDomain = true)
    {answer : Bytes}
    (part : answer <+: Text.utf8Bytes (Server.redirectResponse maskDomain)) :
    ¬Client.Grants answer := by
  rintro ⟨-, accepted⟩
  have noBlank := noBlank_of_serverName names valid
  obtain ⟨front, isPrefix, rfl⟩ :=
    exists_front_of_ascii
      (ascii_redirect (exists_absent_of_serverName names valid).2) part
  have nowhere : ∀ pattern : String, Text.afterFirst pattern.toList
      (Server.redirectResponse maskDomain).toList = none →
        Client.contains front pattern = false := by
    intro pattern absent
    rw [Client.contains, afterFirst_of_prefix isPrefix absent]
    rfl
  have ok := nowhere "200 OK" (afterFirst_redirect 'K' (by decide) (by decide)
    (by decide) (by decide) noBlank)
  have page := nowhere "Ghost Proxy" (afterFirst_redirect 'G' (by decide)
    (by decide) (by decide) (by decide) noBlank)
  have switching := nowhere "101 Switching Protocols" (afterFirst_redirect 'S'
    (by decide) (by decide) (by decide) (by decide) noBlank)
  rw [Text.fromUtf8Lossy_charBytes, Client.isAccepted, ok, page, switching]
    at accepted
  cases accepted

/-! ## The turns of both ends -/

/-- A client with a part of the request is a stranger, whatever the key is. -/
theorem stranger_of_request
    {tls : Client.TlsConnector}
    (names : AcceptsServerNames tls)
    {maskDomain : String}
    (valid : tls.serverName maskDomain = true)
    (config : ServerConfig)
    {client : Stream}
    (part : client.unread <+: Client.requestBytes maskDomain) :
    Server.Stranger config client := by
  intro request next read
  refine detectGhostAuth_authRequest names valid (List.IsPrefix.trans ?_ part)
    config.realityAuthKey
  rw [Stream.unread_of_read read]
  exact List.prefix_append _ _

/-- What is written to a client that is turned away is part of the redirect. -/
theorem outgoing_turnedAway
    (maskDomain : String)
    {client : Stream}
    (fresh : client.outgoing = []) :
    (Server.turnedAway maskDomain client).outgoing <+:
      Text.utf8Bytes (Server.redirectResponse maskDomain) := by
  have kept := client.outgoing_read Server.REQUEST_BUF_LEN
  unfold Server.turnedAway
  cases read : client.read Server.REQUEST_BUF_LEN with
  | mk outcome next =>
      rw [read, fresh] at kept
      have silent : next.outgoing = [] := kept
      cases outcome with
      | error error =>
          change next.outgoing <+: _
          rw [silent]
          exact List.nil_prefix
      | ok request =>
          simp only
          split_ifs
          · rw [silent]
            exact List.nil_prefix
          · have written := next.outgoing_writeAll_prefix
              (Text.utf8Bytes (Server.redirectResponse maskDomain))
            rw [silent] at written
            exact written

/-- The turns of a disguised client and a disguised server: the client asks
with at most its request, the server turns any part of that away and connects
to nothing, and the client gives up on any part of the redirect. -/
structure NeverOpens
    (provider : Provider)
    (tls : Client.TlsConnector)
    (network : Server.Network)
    (clientConfig : ClientConfig)
    (serverConfig : ServerConfig) : Prop where
  asks : ∀ connected target draw (stream : Stream), stream.unread = [] →
    ((Client.proxyThroughGhost provider tls connected clientConfig target
      draw).exec stream).2.outgoing <+:
        stream.outgoing ++ Client.requestBytes clientConfig.maskDomain
  refuses : ∀ moment : Server.Moment provider network serverConfig,
    moment.peer.client.unread <+:
        Client.requestBytes clientConfig.maskDomain →
      ∃ world, moment.connection = .closed world ∧ world.dialed = [] ∧
        world.lookups = [] ∧
        world.client.outgoing <+: Text.utf8Bytes
          (Server.redirectResponse serverConfig.maskDomain)
  givesUp : ∀ connected target draw (stream : Stream),
    stream.unread <+: Text.utf8Bytes
        (Server.redirectResponse serverConfig.maskDomain) →
      ∃ fault next,
        (Client.proxyThroughGhost provider tls connected clientConfig target
            draw).exec stream = (.error fault, next) ∧
          next.outgoing <+:
            stream.outgoing ++ Client.requestBytes clientConfig.maskDomain

/-- A client whose answer grants nothing has failed. -/
theorem exec_of_not_grants
    {provider : Provider}
    {tls : Client.TlsConnector}
    {config : ClientConfig}
    (disguised : Client.isDisguised config = true)
    (connected : Except IoError Unit)
    (target : TargetAddr)
    (draw : Draw config.maxPaddingLen.toNat)
    {stream : Stream}
    (useless : ∀ answer, answer <+: stream.unread → ¬Client.Grants answer) :
    ∃ fault next,
      (Client.proxyThroughGhost provider tls connected config target
          draw).exec stream = (.error fault, next) ∧
        next.outgoing <+:
          stream.outgoing ++ Client.requestBytes config.maskDomain := by
  rcases Client.exec_proxyThroughGhost_cases provider tls connected disguised
      target draw stream with
    failed | ⟨userId, answer, next, -, read, grants, -⟩
  · exact failed
  · have unread := Stream.unread_of_read read
    exact absurd grants (useless answer ⟨next.unread, unread.symm⟩)

/-- A disguised client never gets a tunnel from a disguised server with its
domain, whatever the keys, the users and the other clients are and however the
messages are cut. -/
theorem disguised_neverOpens
    (provider : Provider)
    {tls : Client.TlsConnector}
    (names : AcceptsServerNames tls)
    (network : Server.Network)
    {clientConfig : ClientConfig}
    (disguisedClient : Client.isDisguised clientConfig = true)
    (valid : tls.serverName clientConfig.maskDomain = true)
    {serverConfig : ServerConfig}
    (disguisedServer : serverConfig.enableReality = true)
    (sameDomain : serverConfig.maskDomain = clientConfig.maskDomain) :
    NeverOpens provider tls network clientConfig serverConfig where
  asks connected target draw stream unanswered := by
    have useless : ∀ answer, answer <+: stream.unread →
        ¬Client.Grants answer := by
      intro answer part grants
      rw [unanswered] at part
      exact grants.1 (List.prefix_nil.mp part)
    obtain ⟨fault, next, executed, written⟩ :=
      exec_of_not_grants disguisedClient connected target draw useless
    rw [executed]
    exact written
  refuses moment part :=
    ⟨_, moment.turnedAway disguisedServer
      (stranger_of_request names valid serverConfig part), rfl, rfl,
      outgoing_turnedAway serverConfig.maskDomain moment.peer.fresh⟩
  givesUp connected target draw stream part :=
    exec_of_not_grants disguisedClient connected target draw
      fun answer isPart => not_grants_redirect names
        (by rw [sameDomain]; exact valid) (isPart.trans part)

/-- The default client and a disguised server with the default domain. -/
theorem disguised_neverOpens_default :
    NeverOpens Provider.standard dnsConnector Server.noHosts
      ClientConfig.default (Server.disguised ["01"] "ab") :=
  disguised_neverOpens Provider.standard dnsConnector_acceptsServerNames
    Server.noHosts (by decide) (by decide) rfl rfl

end Session
end GhostProtocol
