import GhostProtocol.Crypto.Cipher
import GhostProtocol.Foundation.ChaCha20Poly1305
import GhostProtocol.Foundation.HkdfSha256

/-!
# The primitives in use

The program is built with ChaCha20-Poly1305 and with HKDF over SHA-256.
-/

namespace GhostProtocol
namespace Crypto

open Foundation

/-- ChaCha20-Poly1305 with HKDF over SHA-256. -/
def Provider.standard : Provider where
  aead := ChaCha20Poly1305.scheme
  hkdf := HkdfSha256.hkdf

/-- The standard primitives meet the contract of an AEAD scheme. -/
theorem Provider.standard_lawful : Provider.standard.aead.Lawful :=
  ChaCha20Poly1305.lawful_scheme

end Crypto
end GhostProtocol
