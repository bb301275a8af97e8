import GhostProtocol.Foundation.Aead
import GhostProtocol.Foundation.Text

/-!
# The frame cipher

A cipher seals a plaintext under a fresh nonce and puts the nonce in front of
the ciphertext.  The AEAD scheme and the key derivation function are
parameters of the development.
-/

namespace GhostProtocol
namespace Crypto

open Foundation

/-- Bytes of a key. -/
abbrev KEY_SIZE : Nat := 32

/-- Bytes of a nonce. -/
abbrev NONCE_SIZE : Nat := 12

/-- Bytes of a tag. -/
abbrev TAG_SIZE : Nat := 16

/-- The cryptographic primitives: an AEAD scheme, and a key derivation
function of a salt, an input key and an info string. -/
structure Provider where
  aead : Aead
  hkdf : Bytes → Bytes → Bytes → Block KEY_SIZE

/-- Errors of cryptographic operations. -/
inductive CryptoError
  | encryptionFailed (reason : String)
  | decryptionFailed (reason : String)
  | invalidKeyLength (length : Nat)
  deriving DecidableEq, Repr

/-- The text of an error. -/
def CryptoError.message : CryptoError → String
  | .encryptionFailed reason => "encryption failed: " ++ reason
  | .decryptionFailed reason => "decryption failed: " ++ reason
  | .invalidKeyLength length =>
      "invalid key length: " ++ toString length ++ " (expected " ++
        toString KEY_SIZE ++ ")"

/-- The text the AEAD implementation gives to its failures. -/
def aeadError : String := "aead::Error"

/-- A scheme with a key. -/
structure GhostCipher where
  aead : Aead
  key : Block KEY_SIZE

namespace GhostCipher

/-- A cipher from key bytes of the right length. -/
def new (aead : Aead) (key : Bytes) : Except CryptoError GhostCipher :=
  if length : key.length = KEY_SIZE then
    .ok { aead, key := ⟨key, length⟩ }
  else
    .error (.invalidKeyLength key.length)

/-- Seal a plaintext under the nonce drawn for it. -/
def encrypt
    (cipher : GhostCipher)
    (nonceBytes : Block NONCE_SIZE)
    (plaintext : Bytes) : Except CryptoError Bytes :=
  match cipher.aead.encrypt cipher.key nonceBytes plaintext with
  | none => .error (.encryptionFailed aeadError)
  | some ciphertext => .ok (nonceBytes.toList ++ ciphertext)

/-- Open a nonce followed by a ciphertext. -/
def decrypt
    (cipher : GhostCipher)
    (data : Bytes) : Except CryptoError Bytes :=
  if short : data.length < NONCE_SIZE + TAG_SIZE then
    .error (.decryptionFailed "data too short")
  else
    let nonce : Block NONCE_SIZE :=
      ⟨data.take NONCE_SIZE, List.length_take_of_le (by omega)⟩
    let ciphertext := data.drop NONCE_SIZE
    match cipher.aead.decrypt cipher.key nonce ciphertext with
    | none => .error (.decryptionFailed aeadError)
    | some plaintext => .ok plaintext

theorem new_toList (aead : Aead) (key : Block KEY_SIZE) :
    new aead key.toList = .ok { aead, key } := by
  rw [new, dif_pos (Block.length_toList key)]
  rfl

/-- Opening a nonce followed by a tagged ciphertext is the scheme's
decryption. -/
theorem decrypt_append
    (cipher : GhostCipher)
    (nonce : Block NONCE_SIZE)
    {ciphertext : Bytes}
    (tagged : TAG_SIZE ≤ ciphertext.length) :
    cipher.decrypt (nonce.toList ++ ciphertext) =
      match cipher.aead.decrypt cipher.key nonce ciphertext with
      | none => .error (.decryptionFailed aeadError)
      | some plaintext => .ok plaintext := by
  have long : ¬(nonce.toList ++ ciphertext).length < NONCE_SIZE + TAG_SIZE := by
    rw [List.length_append, Block.length_toList]
    omega
  have front : (nonce.toList ++ ciphertext).take NONCE_SIZE = nonce.toList :=
    List.take_left' (Block.length_toList nonce)
  have back : (nonce.toList ++ ciphertext).drop NONCE_SIZE = ciphertext :=
    List.drop_left' (Block.length_toList nonce)
  rw [decrypt, dif_neg long]
  simp only [front, back]
  rfl

/-- Sealing succeeds below the limit of the scheme. -/
theorem encrypt_of_lawful
    {cipher : GhostCipher}
    (lawful : cipher.aead.Lawful)
    (nonce : Block NONCE_SIZE)
    {plaintext : Bytes}
    (bound : plaintext.length < Aead.plaintextLimit) :
    ∃ blob, cipher.encrypt nonce plaintext = .ok blob := by
  obtain ⟨ciphertext, encrypted⟩ :=
    lawful.encrypts cipher.key nonce plaintext bound
  exact ⟨nonce.toList ++ ciphertext, by rw [encrypt, encrypted]⟩

/-- A blob is a nonce with what the AEAD made of the plaintext. -/
theorem encrypt_eq_ok
    {cipher : GhostCipher}
    {nonce : Block NONCE_SIZE}
    {plaintext blob : Bytes}
    (encrypted : cipher.encrypt nonce plaintext = .ok blob) :
    ∃ ciphertext,
      cipher.aead.encrypt cipher.key nonce plaintext = some ciphertext ∧
      blob = nonce.toList ++ ciphertext := by
  unfold encrypt at encrypted
  cases result : cipher.aead.encrypt cipher.key nonce plaintext with
  | none =>
      rw [result] at encrypted
      cases encrypted
  | some ciphertext =>
      rw [result] at encrypted
      exact ⟨ciphertext, rfl, (Except.ok.inj encrypted).symm⟩

/-- A sealed plaintext grows by the nonce and the tag. -/
theorem length_of_encrypt
    {cipher : GhostCipher}
    (lawful : cipher.aead.Lawful)
    {nonce : Block NONCE_SIZE}
    {plaintext blob : Bytes}
    (encrypted : cipher.encrypt nonce plaintext = .ok blob) :
    blob.length = NONCE_SIZE + plaintext.length + TAG_SIZE := by
  obtain ⟨ciphertext, result, rfl⟩ := encrypt_eq_ok encrypted
  rw [List.length_append, Block.length_toList, lawful.length_encrypt result]
  rfl

/-- Opening undoes sealing. -/
theorem decrypt_of_encrypt
    {cipher : GhostCipher}
    (lawful : cipher.aead.Lawful)
    {nonce : Block NONCE_SIZE}
    {plaintext blob : Bytes}
    (encrypted : cipher.encrypt nonce plaintext = .ok blob) :
    cipher.decrypt blob = .ok plaintext := by
  obtain ⟨ciphertext, result, rfl⟩ := encrypt_eq_ok encrypted
  have tagged : TAG_SIZE ≤ ciphertext.length := by
    rw [lawful.length_encrypt result]
    exact Nat.le_add_left _ _
  rw [decrypt_append cipher nonce tagged, lawful.decrypt_encrypt result]

end GhostCipher

/-- The key of a user: HKDF with the shared secret as salt. -/
def deriveKey
    (provider : Provider)
    (userId : Block 16)
    (secret : Bytes) : Block KEY_SIZE :=
  provider.hkdf secret userId.toList (Text.utf8Bytes "ghost-v1")

end Crypto
end GhostProtocol
