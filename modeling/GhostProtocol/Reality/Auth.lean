import GhostProtocol.Foundation.Text

/-!
# The authentication token

A client of the disguise puts the hexadecimal text of the shared key into a
header of its request, and the server looks for it behind the first marker of
what it has read.
-/

namespace GhostProtocol
namespace Reality

open Foundation

/-- What the authentication uses of the settings of the disguise. -/
structure RealityConfig where
  /-- Domain named in the request. -/
  maskDomain : String
  /-- The secret that client and server share. -/
  authKey : Block 32

/-- Lower-case hexadecimal text. -/
def hexEncode (data : Bytes) : String :=
  Text.hexEncode data

/-- The marker in front of a token. -/
def authMarker : String := "X-Ghost-Auth:"

/-- The token of a key. -/
def createAuthToken (authKey : Block 32) : String :=
  hexEncode authKey.toList

/-- Whether a request carries the token of a key. -/
def detectGhostAuth (data : Bytes) (authKey : Block 32) : Bool :=
  match Text.afterFirst authMarker.toList (Text.fromUtf8Lossy data) with
  | none => false
  | some remainder =>
      let trimmed := Text.trimStart remainder
      let token := trimmed.takeWhile fun char =>
        !Text.isWhitespace char && char ≠ '\r' && char ≠ '\n'
      if (Text.charBytes token).length = 64 then
        let expected := hexEncode authKey.toList
        token = expected.toList
      else false

/-- The request of a client. -/
def authRequest (config : RealityConfig) : String :=
  "GET /ghost HTTP/1.1\r\n" ++ "Host: " ++ config.maskDomain ++ "\r\n" ++
    "X-Ghost-Auth: " ++ createAuthToken config.authKey ++ "\r\n" ++
    "Connection: upgrade\r\n" ++ "Upgrade: ghost-tunnel\r\n\r\n"

end Reality
end GhostProtocol
