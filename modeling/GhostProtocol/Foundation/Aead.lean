import GhostProtocol.Foundation.Bytes
import Mathlib.Data.List.Zip

/-!
# Authenticated encryption

An AEAD scheme without associated data, with 32-byte keys, 12-byte nonces and
16-byte tags appended to the ciphertext.  Its functional contract is the
`Lawful` predicate.  Encrypting with a keystream and authenticating the
ciphertext with a tag meets the contract whatever the keystream and the tag
are.
-/

namespace Foundation

/-- An AEAD scheme.  Both operations may report a failure. -/
structure Aead where
  encrypt : Block 32 → Block 12 → Bytes → Option Bytes
  decrypt : Block 32 → Block 12 → Bytes → Option Bytes

namespace Aead

/-- Bytes a tag adds to the plaintext. -/
def tagLength : Nat := 16

/-- Plaintexts below this length are always encrypted: 64-byte blocks are
numbered by a 32-bit counter. -/
def plaintextLimit : Nat := 64 * (2 ^ 32 - 1)

/-- What a caller may rely on: encryption succeeds on every plaintext below the
limit, adds the tag length, and is undone by decryption. -/
structure Lawful (aead : Aead) : Prop where
  encrypts : ∀ key nonce plaintext, plaintext.length < plaintextLimit →
    ∃ ciphertext, aead.encrypt key nonce plaintext = some ciphertext
  length_encrypt : ∀ {key nonce plaintext ciphertext},
    aead.encrypt key nonce plaintext = some ciphertext →
      ciphertext.length = plaintext.length + tagLength
  decrypt_encrypt : ∀ {key nonce plaintext ciphertext},
    aead.encrypt key nonce plaintext = some ciphertext →
      aead.decrypt key nonce ciphertext = some plaintext

/-! ## Encryption with a keystream, followed by a tag -/

/-- Exclusive or of a byte string with a keystream. -/
def applyKeystream (keystream bytes : Bytes) : Bytes :=
  List.zipWith (· ^^^ ·) bytes keystream

theorem length_applyKeystream
    {keystream bytes : Bytes}
    (enough : bytes.length ≤ keystream.length) :
    (applyKeystream keystream bytes).length = bytes.length := by
  rw [applyKeystream, List.length_zipWith]
  omega

/-- Applying a keystream twice returns the bytes. -/
theorem applyKeystream_applyKeystream
    {keystream bytes : Bytes}
    (enough : bytes.length ≤ keystream.length) :
    applyKeystream keystream (applyKeystream keystream bytes) = bytes := by
  unfold applyKeystream
  induction bytes generalizing keystream with
  | nil => rfl
  | cons byte bytes inductionHypothesis =>
      cases keystream with
      | nil => simp at enough
      | cons mask keystream =>
          simp only [List.zipWith_cons_cons]
          rw [inductionHypothesis (Nat.le_of_succ_le_succ enough),
            UInt8.xor_assoc, UInt8.xor_self, UInt8.xor_zero]

/-- Encrypt with a keystream of the plaintext's length and append the tag of
the ciphertext. -/
def ofKeystreamAndTag
    (keystream : Block 32 → Block 12 → Nat → Bytes)
    (tag : Block 32 → Block 12 → Bytes → Block tagLength) : Aead where
  encrypt key nonce plaintext :=
    if plaintext.length < plaintextLimit then
      let ciphertext :=
        applyKeystream (keystream key nonce plaintext.length) plaintext
      some (ciphertext ++ (tag key nonce ciphertext).toList)
    else none
  decrypt key nonce sealed :=
    let ciphertext := sealed.take (sealed.length - tagLength)
    if tagLength ≤ sealed.length ∧ ciphertext.length < plaintextLimit ∧
        sealed.drop (sealed.length - tagLength) =
          (tag key nonce ciphertext).toList then
      some (applyKeystream (keystream key nonce ciphertext.length) ciphertext)
    else none

theorem take_append_tag
    (ciphertext : Bytes)
    (tag : Block tagLength) :
    (ciphertext ++ tag.toList).take
        ((ciphertext ++ tag.toList).length - tagLength) = ciphertext := by
  rw [List.length_append, Block.length_toList, Nat.add_sub_cancel,
    List.take_left]

theorem drop_append_tag
    (ciphertext : Bytes)
    (tag : Block tagLength) :
    (ciphertext ++ tag.toList).drop
        ((ciphertext ++ tag.toList).length - tagLength) = tag.toList := by
  rw [List.length_append, Block.length_toList, Nat.add_sub_cancel,
    List.drop_left]

/-- A keystream that is long enough and any tag make a lawful scheme. -/
theorem lawful_ofKeystreamAndTag
    {keystream : Block 32 → Block 12 → Nat → Bytes}
    (tag : Block 32 → Block 12 → Bytes → Block tagLength)
    (enough : ∀ key nonce length, length ≤ (keystream key nonce length).length) :
    (ofKeystreamAndTag keystream tag).Lawful where
  encrypts key nonce plaintext bound := by
    exact ⟨_, if_pos bound⟩
  length_encrypt {key nonce plaintext sealed} encrypted := by
    simp only [ofKeystreamAndTag] at encrypted
    split_ifs at encrypted with bound
    obtain rfl := Option.some.inj encrypted
    rw [List.length_append, Block.length_toList,
      length_applyKeystream (enough _ _ _)]
  decrypt_encrypt {key nonce plaintext sealed} encrypted := by
    simp only [ofKeystreamAndTag] at encrypted
    split_ifs at encrypted with bound
    obtain rfl := Option.some.inj encrypted
    have length :
        (applyKeystream (keystream key nonce plaintext.length)
          plaintext).length = plaintext.length :=
      length_applyKeystream (enough _ _ _)
    have tagged : tagLength ≤
        (applyKeystream (keystream key nonce plaintext.length) plaintext ++
          (tag key nonce (applyKeystream
            (keystream key nonce plaintext.length) plaintext)).toList).length := by
      rw [List.length_append, Block.length_toList]
      exact Nat.le_add_left _ _
    simp only [ofKeystreamAndTag, take_append_tag, drop_append_tag, length,
      tagged, bound, and_self, if_true]
    rw [applyKeystream_applyKeystream (enough _ _ _)]

end Aead
end Foundation
