import GhostProtocol.Reality.Exchange
import GhostProtocol.Session.Disguise
import GhostProtocol.Session.TokenDetection

/-!
# Who recognises whom

Both ends of the exchange read once, whatever the network delivers until then.
A client is recognised exactly if it shares the key of the server and the first
read of the request reaches the end of the token, and it learns so exactly if
its own read reaches the status of the answer.  It gets a tunnel in no case.
-/

namespace GhostProtocol
namespace Session

open Foundation Reality

/-! ## The part of a request that is read first -/

/-- Characters of a request up to the token, and the marker among them. -/
def requestHead (maskDomain : String) : List Char :=
  "GET /ghost HTTP/1.1\r\nHost:".toList ++
    ' ' :: (maskDomain.toList ++ '\r' :: ([] ++ '\n' :: authMarker.toList))

/-- Where the token ends in a request. -/
def tokenEnd (maskDomain : String) : Nat :=
  (requestHead maskDomain).length + 65

/-- The head of a request in front of a text. -/
theorem requestHead_append (maskDomain : String) (rest : List Char) :
    requestHead maskDomain ++ rest =
      "GET /ghost HTTP/1.1\r\nHost:".toList ++
        ' ' :: (maskDomain.toList ++
          '\r' :: ([] ++ '\n' :: (authMarker.toList ++ rest))) := by
  unfold requestHead
  generalize "GET /ghost HTTP/1.1\r\nHost:".toList = start
  generalize authMarker.toList = marker
  simp only [List.append_assoc, List.cons_append]

/-- The request of a client, cut behind the marker. -/
theorem exists_behindMarker (config : RealityConfig) :
    ∃ rest, (authRequest config).toList = requestHead config.maskDomain ++
      ' ' :: ((createAuthToken config.authKey).toList ++ '\r' :: rest) := by
  obtain ⟨rest, request⟩ := toList_realityRequest config
  exact ⟨rest, request.trans (requestHead_append _ _).symm⟩

/-- The first marker behind the head of a request is the one in it. -/
theorem afterFirst_requestHead
    {maskDomain : String}
    (absent : ¬authMarker.toList <:+: maskDomain.toList)
    (rest : List Char) :
    Text.afterFirst authMarker.toList (requestHead maskDomain ++ rest) =
      some rest := by
  rw [requestHead_append,
    Text.afterFirst_skip (by decide) ⟨'X', by decide, by decide⟩,
    Text.afterFirst_skip_of_not_infix (by decide) absent,
    Text.afterFirst_skip (by decide) ⟨'X', by decide, by decide⟩,
    Text.afterFirst_self_append (by decide)]

/-- What follows the marker in a part of a request that is read first. -/
theorem afterFirst_front
    {config : RealityConfig}
    (absent : ¬authMarker.toList <:+: config.maskDomain.toList)
    {front : List Char}
    (part : front <+: (authRequest config).toList) :
    Text.afterFirst authMarker.toList front =
      if (requestHead config.maskDomain).length ≤ front.length then
        some (front.drop (requestHead config.maskDomain).length)
      else none := by
  obtain ⟨rest, request⟩ := exists_behindMarker config
  rw [request] at part
  split_ifs with reaches
  · obtain ⟨behind, rfl⟩ := List.prefix_of_prefix_length_le
      (List.prefix_append _ _) part reaches
    rw [afterFirst_requestHead absent, List.drop_left]
  · cases found : Text.afterFirst authMarker.toList front with
    | none => rfl
    | some behind =>
        obtain ⟨more, whole⟩ := part
        have inWhole := Text.afterFirst_append found more
        rw [whole, afterFirst_requestHead absent] at inWhole
        obtain ⟨before, rfl⟩ := Text.eq_append_of_afterFirst found
        have lengths := congrArg List.length whole
        have behindLengths := congrArg List.length (Option.some.inj inWhole)
        simp only [List.length_append] at lengths behindLengths reaches
        omega

/-- The token in front of a text of digits behind a blank. -/
theorem takeToken_digits
    {token : List Char}
    (digits : ∀ char ∈ token, Text.isHexDigit char = true) :
    Server.takeToken (Text.trimStart (' ' :: token)) = token := by
  have visible : ∀ char ∈ token, Text.isWhitespace char = false :=
    fun char member => (isTokenChar_of_isHexDigit (digits char member)).1
  have trimmed : Text.trimStart (' ' :: token) = token := by
    rw [Text.trimStart, List.dropWhile_cons_of_pos (by decide)]
    cases token with
    | nil => rfl
    | cons first others =>
        rw [List.dropWhile_cons_of_neg]
        rw [visible first List.mem_cons_self]
        decide
  rw [trimmed, Server.takeToken, List.takeWhile_eq_self_iff]
  intro char member
  obtain ⟨shown, notReturn, notFeed⟩ :=
    isTokenChar_of_isHexDigit (digits char member)
  simp [shown, notReturn, notFeed]

/-- A part of what follows the marker shows the token if it reaches its end,
and less than that otherwise. -/
theorem takeToken_front
    {token : List Char}
    (digits : ∀ char ∈ token, Text.isHexDigit char = true)
    (nonempty : token ≠ [])
    {rest behind : List Char}
    (part : behind <+: ' ' :: (token ++ '\r' :: rest)) :
    if token.length + 1 ≤ behind.length then
      Server.takeToken (Text.trimStart behind) = token
    else (Server.takeToken (Text.trimStart behind)).length < token.length := by
  have whole := takeToken_trimStart_prefix part
  rw [takeToken_of_digits digits nonempty rest] at whole
  split_ifs with reaches
  · have front : ' ' :: token <+: behind :=
      List.prefix_of_prefix_length_le
        (List.prefix_append (' ' :: token) ('\r' :: rest)) part reaches
    have shown := takeToken_trimStart_prefix front
    rw [takeToken_digits digits] at shown
    exact whole.eq_of_length_le shown.length_le
  · cases behind with
    | nil => exact List.length_pos_of_ne_nil nonempty
    | cons first others =>
        obtain ⟨rfl, -⟩ := List.cons_prefix_cons.mp part
        have taken : Server.takeToken (Text.trimStart (' ' :: others)) <:+:
            others := by
          rw [Text.trimStart, List.dropWhile_cons_of_pos (by decide)]
          exact (List.takeWhile_prefix _).isInfix.trans
            (List.dropWhile_suffix _).isInfix
        have short := taken.length_le
        rw [List.length_cons] at reaches
        omega

/-- A part of a request that is read first is recognised exactly by the server
with the key of the client, and only if it reaches the end of the token. -/
theorem detectGhostAuth_front
    {config : RealityConfig}
    (absent : ¬authMarker.toList <:+: config.maskDomain.toList)
    {front : List Char}
    (part : front <+: (authRequest config).toList)
    (authKey : Block 32) :
    detectGhostAuth (Text.charBytes front) authKey = true ↔
      config.authKey = authKey ∧ tokenEnd config.maskDomain ≤ front.length := by
  obtain ⟨length, digits⟩ := createAuthToken_digits config.authKey
  have nonempty : (createAuthToken config.authKey).toList ≠ [] :=
    List.ne_nil_of_length_pos (by omega)
  have found : Text.afterFirst Server.authMarker.toList front = _ :=
    afterFirst_front absent part
  obtain ⟨rest, request⟩ := exists_behindMarker config
  rw [request] at part
  rw [← detectGhostAuth_hexEncode, Server.detectGhostAuth,
    Text.fromUtf8Lossy_charBytes, found]
  split_ifs with marked
  swap
  · refine iff_of_false (fun impossible => by cases impossible) fun both =>
      marked ?_
    exact (Nat.le_add_right _ 65).trans both.2
  obtain ⟨behind, rfl⟩ := List.prefix_of_prefix_length_le
    (List.prefix_append _ _) part marked
  have shown := takeToken_front digits nonempty
    ((List.prefix_append_right_inj _).mp part)
  have equal : Reality.hexEncode authKey.toList = createAuthToken authKey := rfl
  have expected := (createAuthToken_digits authKey).1
  simp only [List.drop_left, equal, Bool.and_eq_true, decide_eq_true_eq,
    tokenEnd, List.length_append]
  split_ifs at shown with reaches
  · rw [shown, length_charBytes_of_digits digits, String.toList_inj]
    constructor
    · rintro ⟨-, same⟩
      exact ⟨Subtype.ext (hexEncode_injective same), by omega⟩
    · rintro ⟨rfl, -⟩
      exact ⟨length, rfl⟩
  · refine iff_of_false ?_ ?_
    · rintro ⟨-, same⟩
      rw [same] at shown
      omega
    · rintro ⟨-, enough⟩
      omega

/-! ## The part of an answer that is read first -/

/-- Bytes of the page up to the end of its status. -/
def statusEnd : Nat := 15

/-- A part of the page is recognised if it reaches the end of the status. -/
theorem errorOf_proxyResponse
    {answer : Bytes}
    (part : answer <+: Text.utf8Bytes proxyResponse) :
    errorOf answer = notSupported ↔ statusEnd ≤ answer.length := by
  have all : ∀ count < 52,
      errorOf ((Text.utf8Bytes proxyResponse).take count) = notSupported ↔
        statusEnd ≤ count := by
    decide +kernel
  have bound := part.length_le
  have length : (Text.utf8Bytes proxyResponse).length = 51 := by decide +kernel
  have cut := all answer.length (by omega)
  rw [← List.prefix_iff_eq_take.mp part] at cut
  exact cut

/-- A part of the redirect is not recognised. -/
theorem errorOf_maskResponse
    {maskDomain : String}
    (ascii : ∀ char ∈ maskDomain.toList, Text.IsAscii char)
    (noBlank : ' ' ∉ maskDomain.toList)
    {answer : Bytes}
    (part : answer <+: Text.utf8Bytes (maskResponse maskDomain)) :
    errorOf answer = .authFailed := by
  obtain ⟨front, isPrefix, rfl⟩ :=
    exists_front_of_ascii (ascii_redirect ascii) part
  have nowhere : ∀ pattern : String, Text.afterFirst pattern.toList
      (Server.redirectResponse maskDomain).toList = none →
        Text.afterFirst pattern.toList front = none :=
    fun pattern absent => afterFirst_of_prefix isPrefix absent
  have ok := nowhere "200 OK" (afterFirst_redirect 'K' (by decide) (by decide)
    (by decide) (by decide) noBlank)
  have page := nowhere "Ghost Proxy" (afterFirst_redirect 'G' (by decide)
    (by decide) (by decide) (by decide) noBlank)
  unfold errorOf
  rw [Text.fromUtf8Lossy_charBytes, if_neg]
  rintro ⟨-, recognised⟩
  rw [isRecognised, ok, page] at recognised
  cases recognised

/-! ## The exchange -/

/-- Only DNS names and IP addresses are accepted as server names. -/
def OnlyServerNames (serverName : String → Bool) : Prop :=
  ∀ name, serverName name = true →
    (∀ char ∈ name.toList, isDnsChar char = true) ∨
      ∀ char ∈ name.toList, isIpChar char = true

/-- The first read of the server reaches the end of the token of a client with
its key. -/
structure Detected (client server : RealityConfig) (atServer : Stream) :
    Prop where
  sameKey : client.authKey = server.authKey
  token : ReadsAtLeast atServer TLS_REQUEST_LEN
    (tokenEnd client.maskDomain)

/-- The client is recognised: its connection stands and its request is written,
the server detects it, and its own read reaches the end of the status. -/
structure Recognised
    (tls : TlsConnector)
    (connected : Except IoError Unit)
    (client server : RealityConfig)
    (atServer atClient : Stream) : Prop where
  connects : Connects tls connected client
  accepts : atClient.Accepts (Text.utf8Bytes (authRequest client)).length
  detected : Detected client server atServer
  status : ReadsAtLeast (asked client atClient) TLS_ANSWER_LEN statusEnd

/-- How an exchange ends: the server shows its mask to every client that it
does not detect, and the client gets an error, which tells whether it has been
recognised. -/
structure Exchanged
    (tls : TlsConnector)
    (connected : Except IoError Unit)
    (client server : RealityConfig)
    (atServer atClient : Stream) : Prop where
  masks : ¬Detected client server atServer →
    ((handleTlsConnection server).exec atServer).2.outgoing <+:
      Text.utf8Bytes (maskResponse server.maskDomain)
  fails : ∃ error next,
    (openTunnel tls connected client).exec atClient = (.error error, next) ∧
      next.outgoing <+: Text.utf8Bytes (authRequest client) ∧
      (error = notSupported ↔
        Recognised tls connected client server atServer atClient)

/-- A request is ASCII if its domain is. -/
theorem ascii_realityRequest
    {config : RealityConfig}
    (ascii : ∀ char ∈ config.maskDomain.toList, Text.IsAscii char) :
    ∀ char ∈ (authRequest config).toList, Text.IsAscii char := by
  have digits := (createAuthToken_digits config.authKey).2
  have before := Text.ascii_of_all (show
    ("GET /ghost HTTP/1.1\r\n".toList ++ "Host: ".toList).all _ = true from by
      decide +kernel)
  have middle := Text.ascii_of_all (show
    ("\r\n".toList ++ "X-Ghost-Auth: ".toList).all _ = true from by
      decide +kernel)
  have behind := Text.ascii_of_all (show
    ("\r\n".toList ++ ("Connection: upgrade\r\n".toList ++
      "Upgrade: ghost-tunnel\r\n\r\n".toList)).all _ = true from by
        decide +kernel)
  intro char member
  unfold authRequest at member
  simp only [String.toList_append, List.append_assoc] at member
  rw [← List.append_assoc] at member
  rcases List.mem_append.mp member with inFront | member
  · exact before char inFront
  rcases List.mem_append.mp member with inDomain | member
  · exact ascii char inDomain
  rw [← List.append_assoc] at member
  rcases List.mem_append.mp member with inMiddle | member
  · exact middle char inMiddle
  rcases List.mem_append.mp member with inToken | inBehind
  · exact (Text.hexDigitValue_of_isHexDigit (digits char inToken)).1
  · exact behind char inBehind

/-- The server answers a request of a client as one with the token exactly if
it detects the client. -/
theorem detectGhostAuth_iff_detected
    {client : RealityConfig}
    (server : RealityConfig)
    (ascii : ∀ char ∈ client.maskDomain.toList, Text.IsAscii char)
    (absent : ¬authMarker.toList <:+: client.maskDomain.toList)
    {atServer next : Stream}
    {request : Bytes}
    (part : atServer.unread <+: Text.utf8Bytes (authRequest client))
    (read : atServer.read TLS_REQUEST_LEN = (.ok request, next)) :
    detectGhostAuth request server.authKey = true ↔
      Detected client server atServer := by
  have inRequest : request <+: Text.charBytes (authRequest client).toList := by
    refine List.IsPrefix.trans ?_ part
    rw [Stream.unread_of_read read]
    exact List.prefix_append _ _
  have asciiRequest := ascii_realityRequest ascii
  obtain ⟨front, isPrefix, rfl⟩ := exists_front_of_ascii asciiRequest inRequest
  have length : (Text.charBytes front).length = front.length := by
    rw [Text.charBytes_of_ascii fun char member =>
      asciiRequest char (isPrefix.subset member), List.length_map]
  rw [detectGhostAuth_front absent isPrefix, ← length]
  constructor
  · rintro ⟨sameKey, reaches⟩
    exact ⟨sameKey, _, next, read, reaches⟩
  · rintro ⟨sameKey, bytes, after, other, reaches⟩
    obtain ⟨same, -⟩ := Prod.mk.inj (read.symm.trans other)
    obtain rfl := Except.ok.inj same
    exact ⟨sameKey, reaches⟩

/-- What the server has written, as the client has been detected or not. -/
theorem outgoing_of_detected
    {client : RealityConfig}
    (server : RealityConfig)
    (ascii : ∀ char ∈ client.maskDomain.toList, Text.IsAscii char)
    (absent : ¬authMarker.toList <:+: client.maskDomain.toList)
    {atServer : Stream}
    (fresh : atServer.outgoing = [])
    (part : atServer.unread <+: Text.utf8Bytes (authRequest client)) :
    (Detected client server atServer →
        ((handleTlsConnection server).exec atServer).2.outgoing <+:
          Text.utf8Bytes proxyResponse) ∧
      (¬Detected client server atServer →
        ((handleTlsConnection server).exec atServer).2.outgoing <+:
          Text.utf8Bytes (maskResponse server.maskDomain)) := by
  rcases outgoing_handleTlsConnection server fresh with
    silent | ⟨request, next, -, read, written⟩
  · rw [silent]
    exact ⟨fun _ => List.nil_prefix, fun _ => List.nil_prefix⟩
  · have known := detectGhostAuth_iff_detected server ascii absent part read
    constructor
    · intro detected
      rw [if_pos (known.mpr detected)] at written
      exact written
    · intro undetected
      rw [if_neg fun detects => undetected (known.mp detects)] at written
      exact written

/-- A client that has read an answer knows whether it has been recognised. -/
theorem errorOf_iff_detected
    {client server : RealityConfig}
    (asciiClient : ∀ char ∈ client.maskDomain.toList, Text.IsAscii char)
    (absent : ¬authMarker.toList <:+: client.maskDomain.toList)
    (asciiServer : ∀ char ∈ server.maskDomain.toList, Text.IsAscii char)
    (noBlank : ' ' ∉ server.maskDomain.toList)
    {atServer : Stream}
    (fresh : atServer.outgoing = [])
    (asks : atServer.unread <+: Text.utf8Bytes (authRequest client))
    {answer : Bytes}
    (answers : answer <+:
      ((handleTlsConnection server).exec atServer).2.outgoing) :
    errorOf answer = notSupported ↔
      Detected client server atServer ∧ statusEnd ≤ answer.length := by
  obtain ⟨grants, masks⟩ :=
    outgoing_of_detected server asciiClient absent fresh asks
  by_cases detected : Detected client server atServer
  · rw [errorOf_proxyResponse (answers.trans (grants detected))]
    exact (and_iff_right detected).symm
  · rw [errorOf_maskResponse asciiServer noBlank
      (answers.trans (masks detected))]
    exact iff_of_false RealityError.noConfusion fun both => detected both.1

/-- A server name is ASCII and does not contain the marker. -/
theorem noMarker_of_serverName
    {tls : TlsConnector}
    (names : OnlyServerNames tls.serverName)
    {maskDomain : String}
    (valid : tls.serverName maskDomain = true) :
    (∀ char ∈ maskDomain.toList, Text.IsAscii char) ∧
      ¬authMarker.toList <:+: maskDomain.toList := by
  obtain ⟨⟨char, inMarker, missing⟩, ascii⟩ :=
    @exists_absent_of_serverName ⟨tls.serverName, fun _ _ => .ok ()⟩ names
      maskDomain valid
  exact ⟨ascii, fun inside => missing (inside.subset inMarker)⟩

/-- A client that can tell from its answer whether it is detected ends with an
error, which says whether it is recognised. -/
theorem openTunnel_fails
    {tls : TlsConnector}
    {connected : Except IoError Unit}
    {client server : RealityConfig}
    {atServer atClient : Stream}
    (tells : Connects tls connected client →
      ∀ answer, answer <+: atClient.unread →
        (errorOf answer = notSupported ↔
          Detected client server atServer ∧ statusEnd ≤ answer.length)) :
    ∃ error next,
      (openTunnel tls connected client).exec atClient = (.error error, next) ∧
        (error = notSupported ↔
          Recognised tls connected client server atServer atClient) := by
  cases opened tls connected client atClient with
  | unconnected error other stands executed =>
      exact ⟨error, atClient, executed,
        iff_of_false other fun recognised => stands recognised.connects⟩
  | unwritten error next refused failed executed =>
      exact ⟨.io error, next, executed, iff_of_false RealityError.noConfusion
        fun recognised => refused recognised.accepts⟩
  | unanswered error next read executed =>
      refine ⟨.io error, next, executed, iff_of_false RealityError.noConfusion
        fun recognised => ?_⟩
      obtain ⟨bytes, after, other, -⟩ := recognised.status
      cases read.symm.trans other
  | answered answer next connects accepts read executed =>
      have unread : (asked client atClient).unread = answer ++ next.unread :=
        Stream.unread_of_read read
      have known := tells connects answer ⟨next.unread, unread.symm⟩
      refine ⟨errorOf answer, next, executed, known.trans ?_⟩
      constructor
      · rintro ⟨detected, reaches⟩
        exact ⟨connects, accepts, detected, answer, next, read, reaches⟩
      · rintro ⟨-, -, detected, bytes, after, other, reaches⟩
        obtain ⟨same, -⟩ := Prod.mk.inj (read.symm.trans other)
        obtain rfl := Except.ok.inj same
        exact ⟨detected, reaches⟩

/-- Nothing is written to a client that has sent nothing. -/
theorem outgoing_of_unasked
    (server : RealityConfig)
    {atServer : Stream}
    (fresh : atServer.outgoing = [])
    (unasked : atServer.unread = []) :
    ((handleTlsConnection server).exec atServer).2.outgoing = [] := by
  rcases outgoing_handleTlsConnection server fresh with
    silent | ⟨request, next, something, read, -⟩
  · exact silent
  · have unread := Stream.unread_of_read read
    rw [unasked] at unread
    exact absurd (List.append_eq_nil_iff.mp unread.symm).1 something

/-- In every exchange, whatever the network delivers until an end reads, the
client is recognised exactly if it shares the key of the server and both reads
reach far enough, and it never gets a tunnel. -/
theorem exchanged
    {tls : TlsConnector}
    (names : OnlyServerNames tls.serverName)
    (connected : Except IoError Unit)
    (client : RealityConfig)
    {server : RealityConfig}
    (asciiServer : ∀ char ∈ server.maskDomain.toList, Text.IsAscii char)
    (noBlank : ' ' ∉ server.maskDomain.toList)
    {atServer atClient : Stream}
    (freshServer : atServer.outgoing = [])
    (freshClient : atClient.outgoing = [])
    (asks : atServer.unread <+:
      ((openTunnel tls connected client).exec atClient).2.outgoing)
    (answers : atClient.unread <+:
      ((handleTlsConnection server).exec atServer).2.outgoing) :
    Exchanged tls connected client server atServer atClient := by
  have written := outgoing_openTunnel tls connected client atClient
  rw [freshClient, List.nil_append] at written
  have part := asks.trans written
  constructor
  · intro undetected
    by_cases valid : tls.serverName client.maskDomain = true
    · obtain ⟨ascii, absent⟩ := noMarker_of_serverName names valid
      exact (outgoing_of_detected server ascii absent freshServer part).2
        undetected
    · -- A client that does not connect has written nothing to be answered.
      obtain ⟨error, -, executed⟩ := exec_openTunnel_of_not_connects
        (fun connects => valid connects.serverName) atClient
      rw [executed, freshClient] at asks
      rw [outgoing_of_unasked server freshServer (List.prefix_nil.mp asks)]
      exact List.nil_prefix
  · obtain ⟨error, next, executed, known⟩ := openTunnel_fails
      (show Connects tls connected client → ∀ answer, _ from
        fun connects answer inAnswer => by
          obtain ⟨ascii, absent⟩ :=
            noMarker_of_serverName names connects.serverName
          exact errorOf_iff_detected ascii absent asciiServer noBlank
            freshServer part (inAnswer.trans answers))
    rw [executed] at written
    exact ⟨error, next, executed, written, known⟩

/-- A client and a server of the default domain that share a key. -/
def appleConfig : RealityConfig where
  maskDomain := "www.apple.com"
  authKey := Block.ofBytes 32 [0xAB]

/-- The library of such a client. -/
def dnsNames : TlsConnector where
  serverName name := name.toList.all isDnsChar
  handshake _ := .ok ()

/-- They exchange the whole request and the whole page. -/
theorem exchanged_apple :
    Exchanged dnsNames (.ok ()) appleConfig appleConfig
      (Stream.ofSegments [Text.utf8Bytes (authRequest appleConfig)])
      (Stream.ofSegments [Text.utf8Bytes proxyResponse]) := by
  have ascii : ∀ char ∈ "www.apple.com".toList, Text.IsAscii char :=
    Text.ascii_of_all (show "www.apple.com".toList.all _ = true from by
      decide +kernel)
  refine exchanged (fun name accepted => .inl (List.all_eq_true.mp accepted))
    (.ok ()) appleConfig ascii (by decide) rfl rfl ?_ ?_
  · exact List.isPrefixOf_iff_prefix.mp (by decide +kernel)
  · exact List.isPrefixOf_iff_prefix.mp (by decide +kernel)

end Session
end GhostProtocol
