import GhostProtocol.Client.HexText
import GhostProtocol.Foundation.Utf8
import GhostProtocol.Reality.Auth
import GhostProtocol.Server.Reality

/-!
# Token detection in both servers

Two servers look for the token, one with the text of the key in its settings
and one with the key itself, and both find it in the same requests.  The
request of a client shows the token of its key behind the first marker, so it
is recognised by the servers with the same key and by no others.
-/

namespace GhostProtocol
namespace Session

open Foundation

/-! ## Hexadecimal texts -/

/-- Different bytes have different texts. -/
theorem hexEncode_injective : Function.Injective Text.hexEncode := by
  intro first second equal
  have digits := String.ofList_injective equal
  rw [← (Client.denotedBytes_hexByte first).2, digits,
    (Client.denotedBytes_hexByte second).2]

set_option maxRecDepth 8000 in
/-- A hexadecimal digit goes on a token. -/
theorem isTokenChar_of_isHexDigit
    {char : Char}
    (digit : Text.isHexDigit char = true) :
    Text.isWhitespace char = false ∧ char ≠ '\r' ∧ char ≠ '\n' := by
  have all : ∀ value : Fin 128, Text.isHexDigit (Char.ofNat value) = true →
      Text.isWhitespace (Char.ofNat value) = false ∧
        Char.ofNat value ≠ '\r' ∧ Char.ofNat value ≠ '\n' := by
    decide
  have holds :=
    all ⟨char.toNat, (Text.hexDigitValue_of_isHexDigit digit).1⟩
  rw [Char.ofNat_toNat] at holds
  exact holds digit

/-- The token of a key consists of 64 digits. -/
theorem createAuthToken_digits (authKey : Block 32) :
    (Reality.createAuthToken authKey).toList.length = 64 ∧
      ∀ char ∈ (Reality.createAuthToken authKey).toList,
        Text.isHexDigit char = true := by
  obtain ⟨length, digits⟩ :=
    (Client.denotedBytes_hexByte authKey.toList).1
  rw [Block.length_toList] at length
  rw [Reality.createAuthToken, Reality.hexEncode, Text.hexEncode,
    String.toList_ofList]
  exact ⟨length, digits⟩

/-- A text of digits has as many bytes as characters. -/
theorem length_charBytes_of_digits
    {chars : List Char}
    (digits : ∀ char ∈ chars, Text.isHexDigit char = true) :
    (Text.charBytes chars).length = chars.length := by
  rw [Text.charBytes_of_ascii fun char member =>
    (Text.hexDigitValue_of_isHexDigit (digits char member)).1,
    List.length_map]

/-! ## The token in a request -/

/-- The token in front of a line end, behind a blank. -/
theorem takeToken_of_digits
    {token : List Char}
    (digits : ∀ char ∈ token, Text.isHexDigit char = true)
    (nonempty : token ≠ [])
    (rest : List Char) :
    Server.takeToken (Text.trimStart (' ' :: (token ++ '\r' :: rest))) =
      token := by
  have trimmed : Text.trimStart (' ' :: (token ++ '\r' :: rest)) =
      token ++ '\r' :: rest := by
    obtain ⟨first, others, rfl⟩ := List.exists_cons_of_ne_nil nonempty
    have visible :=
      (isTokenChar_of_isHexDigit (digits first List.mem_cons_self)).1
    rw [Text.trimStart, List.dropWhile_cons_of_pos (by decide),
      List.cons_append, List.dropWhile_cons_of_neg (by rw [visible]; decide)]
  rw [trimmed, Server.takeToken, List.takeWhile_append_of_pos]
  · rw [List.takeWhile_cons_of_neg (by decide), List.append_nil]
  · intro char member
    obtain ⟨visible, notReturn, notFeed⟩ :=
      isTokenChar_of_isHexDigit (digits char member)
    simp [visible, notReturn, notFeed]

/-- The request of a client, cut after the name of the host header, after the
domain and its line end, and after the marker and its token. -/
theorem toList_realityRequest (config : Reality.RealityConfig) :
    ∃ rest, (Reality.authRequest config).toList =
      "GET /ghost HTTP/1.1\r\nHost:".toList ++
        ' ' :: (config.maskDomain.toList ++
          '\r' :: ([] ++ '\n' :: (Reality.authMarker.toList ++
            ' ' :: ((Reality.createAuthToken config.authKey).toList ++
              '\r' :: rest)))) := by
  have host : "Host: ".toList = "Host:".toList ++ [' '] := by decide
  have start : "GET /ghost HTTP/1.1\r\n".toList ++ "Host:".toList =
      "GET /ghost HTTP/1.1\r\nHost:".toList := by decide
  have lineEnd : "\r\n".toList = ['\r', '\n'] := by decide
  have marker : "X-Ghost-Auth: ".toList =
      Reality.authMarker.toList ++ [' '] := by
    decide
  refine ⟨'\n' :: ("Connection: upgrade\r\n".toList ++
    "Upgrade: ghost-tunnel\r\n\r\n".toList), ?_⟩
  unfold Reality.authRequest
  simp only [String.toList_append]
  generalize (Reality.createAuthToken config.authKey).toList = token
  generalize "Connection: upgrade\r\n".toList = connection
  generalize "Upgrade: ghost-tunnel\r\n\r\n".toList = upgrade
  simp only [host, ← start, marker, lineEnd, List.append_assoc,
    List.cons_append, List.nil_append]

/-- The first marker in the request of a client is the one in front of its
token, unless the domain contains a marker. -/
theorem afterFirst_realityRequest
    {config : Reality.RealityConfig}
    (absent : ¬Reality.authMarker.toList <:+: config.maskDomain.toList) :
    ∃ rest, Text.afterFirst Reality.authMarker.toList
        (Reality.authRequest config).toList =
      some (' ' :: ((Reality.createAuthToken config.authKey).toList ++
        '\r' :: rest)) := by
  obtain ⟨rest, request⟩ := toList_realityRequest config
  refine ⟨rest, ?_⟩
  rw [request, Text.afterFirst_skip (by decide) ⟨'X', by decide, by decide⟩,
    Text.afterFirst_skip_of_not_infix (by decide) absent,
    Text.afterFirst_skip (by decide) ⟨'X', by decide, by decide⟩,
    Text.afterFirst_self_append (by decide)]

/-- The server with the key itself finds what the one with the text of the key
finds. -/
theorem detectGhostAuth_hexEncode (data : Bytes) (authKey : Block 32) :
    Server.detectGhostAuth data (Reality.hexEncode authKey.toList) =
      Reality.detectGhostAuth data authKey := by
  have marker : Reality.authMarker = Server.authMarker := rfl
  unfold Server.detectGhostAuth Reality.detectGhostAuth
  rw [marker]
  cases Text.afterFirst Server.authMarker.toList (Text.fromUtf8Lossy data) with
  | none => rfl
  | some remainder =>
      simp only
      change (decide ((Text.charBytes (Server.takeToken
          (Text.trimStart remainder))).length = 64) && decide (Server.takeToken
          (Text.trimStart remainder) = _)) =
        if (Text.charBytes (Server.takeToken
          (Text.trimStart remainder))).length = 64 then
            decide (Server.takeToken (Text.trimStart remainder) = _) else false
      split_ifs with whole
      · rw [decide_eq_true whole, Bool.true_and]
        rfl
      · rw [decide_eq_false whole, Bool.false_and]

/-- The request of a client is recognised by the server with its key, and by no
other one. -/
theorem detectGhostAuth_realityRequest
    {config : Reality.RealityConfig}
    (absent : ¬Reality.authMarker.toList <:+: config.maskDomain.toList)
    (authKey : Block 32) :
    Reality.detectGhostAuth
        (Text.utf8Bytes (Reality.authRequest config)) authKey = true ↔
      config.authKey = authKey := by
  obtain ⟨length, digits⟩ := createAuthToken_digits config.authKey
  have nonempty : (Reality.createAuthToken config.authKey).toList ≠ [] :=
    List.ne_nil_of_length_pos (by omega)
  obtain ⟨rest, found⟩ := afterFirst_realityRequest absent
  have token := takeToken_of_digits digits nonempty rest
  have bytes := length_charBytes_of_digits digits
  have foundByServer : Text.afterFirst Server.authMarker.toList
      (Reality.authRequest config).toList = _ := found
  rw [← detectGhostAuth_hexEncode, Server.detectGhostAuth, Text.utf8Bytes,
    Text.fromUtf8Lossy_charBytes, foundByServer]
  simp only [token, bytes, length, decide_true, Bool.true_and,
    decide_eq_true_eq, String.toList_inj]
  constructor
  · intro equal
    exact Subtype.ext (hexEncode_injective equal)
  · rintro rfl
    rfl

/-- Both servers find the same tokens, and a client is recognised exactly by
the servers that share its key. -/
theorem tokenDetection :
    (∀ data (authKey : Block 32),
      Server.detectGhostAuth data (Reality.hexEncode authKey.toList) =
        Reality.detectGhostAuth data authKey) ∧
      ∀ maskDomain : String,
        ¬Reality.authMarker.toList <:+: maskDomain.toList →
        ∀ clientKey serverKey : Block 32,
          Reality.detectGhostAuth (Text.utf8Bytes
              (Reality.authRequest { maskDomain, authKey := clientKey }))
            serverKey = true ↔
          clientKey = serverKey :=
  ⟨detectGhostAuth_hexEncode, fun _ absent _ serverKey =>
    detectGhostAuth_realityRequest absent serverKey⟩

/-- A client of the default domain whose key is the one of the server. -/
theorem tokenDetection_apple :
    Reality.detectGhostAuth (Text.utf8Bytes (Reality.authRequest {
        maskDomain := "www.apple.com"
        authKey := Block.ofBytes 32 [0xAB] }))
      (Block.ofBytes 32 [0xAB]) = true :=
  (tokenDetection.2 "www.apple.com" (by decide) _ _).mpr rfl

end Session
end GhostProtocol
