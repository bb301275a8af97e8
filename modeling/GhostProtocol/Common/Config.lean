import GhostProtocol.Foundation.Bytes

/-!
# Configuration

The settings of the client and of the server, with their defaults.
-/

namespace GhostProtocol
namespace Common

/-- Settings of the client. -/
structure ClientConfig where
  /-- Address of the local SOCKS5 proxy. -/
  socks5Listen : String
  /-- Address of the server. -/
  serverAddr : String
  /-- User id as 32 hexadecimal digits. -/
  userId : String
  enablePadding : Bool
  enableFragmentation : Bool
  /-- Largest padding of a frame. -/
  maxPaddingLen : UInt8
  /-- Domain named in the TLS handshake.  Empty or `none` turns TLS off. -/
  maskDomain : String
  /-- Fingerprint of the server certificate as 64 hexadecimal digits. -/
  realityAuthKey : String
  deriving DecidableEq, Repr

/-- Default settings of the client. -/
def ClientConfig.default : ClientConfig where
  socks5Listen := "127.0.0.1:10808"
  serverAddr := "127.0.0.1:443"
  userId := "00000000000000000000000000000001"
  enablePadding := true
  enableFragmentation := false
  maxPaddingLen := 64
  maskDomain := "www.apple.com"
  realityAuthKey :=
    "0000000000000000000000000000000000000000000000000000000000000000"

/-- Settings of the server. -/
structure ServerConfig where
  /-- Address on which the server accepts connections. -/
  listenAddr : String
  /-- User ids as hexadecimal text. -/
  allowedUsers : List String
  enablePadding : Bool
  /-- Largest padding of a frame. -/
  maxPaddingLen : UInt8
  /-- Whether connections are TLS behind an authentication request. -/
  enableReality : Bool
  /-- Domain the server presents itself as. -/
  maskDomain : String
  /-- Token of the authentication request, 64 hexadecimal digits. -/
  realityAuthKey : String
  /-- Whether client fingerprints are checked. -/
  verifyJa4 : Bool
  allowedJa4 : List String
  deriving DecidableEq, Repr

/-- Default settings of the server. -/
def ServerConfig.default : ServerConfig where
  listenAddr := "0.0.0.0:443"
  allowedUsers := ["00000000000000000000000000000001"]
  enablePadding := true
  maxPaddingLen := 64
  enableReality := false
  maskDomain := "www.apple.com"
  realityAuthKey :=
    "0000000000000000000000000000000000000000000000000000000000000000"
  verifyJa4 := false
  allowedJa4 := []

end Common
end GhostProtocol
