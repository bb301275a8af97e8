import GhostProtocol.Foundation.Aead

/-!
# ChaCha20-Poly1305

The AEAD construction of RFC 8439 without associated data: ChaCha20 from block
one as the keystream, and Poly1305 under a key from block zero as the tag.
-/

namespace Foundation
namespace ChaCha20Poly1305

/-- The word with four little-endian bytes. -/
def u32OfLe (bytes : Bytes) : UInt32 :=
  UInt32.ofNat (bytes.foldr (fun byte value => byte.toNat + 256 * value) 0)

/-- Little-endian bytes of a word. -/
def u32Le (word : UInt32) : Bytes :=
  [word.toUInt8, (word >>> 8).toUInt8, (word >>> 16).toUInt8,
    (word >>> 24).toUInt8]

/-- The words stored little-endian in a byte string. -/
def wordsLe (count : Nat) (bytes : Bytes) : List UInt32 :=
  (List.range count).map fun index => u32OfLe ((bytes.drop (4 * index)).take 4)

/-- Rotation to the left. -/
def rotl (word : UInt32) (count : UInt32) : UInt32 :=
  (word <<< count) ||| (word >>> (32 - count))

/-- The sixteen words of the block function. -/
abbrev State := Vector UInt32 16

/-- The quarter round on four words of the state. -/
def quarterRound (state : State) (a b c d : Fin 16) : State :=
  let state := state.set a (state[a] + state[b])
  let state := state.set d (rotl (state[d] ^^^ state[a]) 16)
  let state := state.set c (state[c] + state[d])
  let state := state.set b (rotl (state[b] ^^^ state[c]) 12)
  let state := state.set a (state[a] + state[b])
  let state := state.set d (rotl (state[d] ^^^ state[a]) 8)
  let state := state.set c (state[c] + state[d])
  state.set b (rotl (state[b] ^^^ state[c]) 7)

/-- A column round followed by a diagonal round. -/
def doubleRound (state : State) : State :=
  let state := quarterRound state 0 4 8 12
  let state := quarterRound state 1 5 9 13
  let state := quarterRound state 2 6 10 14
  let state := quarterRound state 3 7 11 15
  let state := quarterRound state 0 5 10 15
  let state := quarterRound state 1 6 11 12
  let state := quarterRound state 2 7 8 13
  quarterRound state 3 4 9 14

/-- The initial state: constants, key, block counter and nonce. -/
def initialState
    (key : Block 32)
    (nonce : Block 12)
    (counter : UInt32) : State :=
  let words := [0x61707865, 0x3320646e, 0x79622d32, 0x6b206574] ++
    wordsLe 8 key.toList ++ [counter] ++ wordsLe 3 nonce.toList
  Vector.ofFn fun index => words.getD index 0

/-- The 64 keystream bytes with the given block counter. -/
def chacha20Block
    (key : Block 32)
    (nonce : Block 12)
    (counter : UInt32) : Bytes :=
  let initial := initialState key nonce counter
  let final := Nat.repeat doubleRound 10 initial
  (List.finRange 16).flatMap fun index => u32Le (initial[index] + final[index])

/-- At least `length` bytes of keystream, from block one on. -/
def keystream
    (key : Block 32)
    (nonce : Block 12)
    (length : Nat) : Bytes :=
  (List.range (length / 64 + 1)).flatMap fun block =>
    chacha20Block key nonce (UInt32.ofNat (block + 1))

/-- The number with the given little-endian bytes. -/
def natOfLe (bytes : Bytes) : Nat :=
  bytes.foldr (fun byte value => byte.toNat + 256 * value) 0

/-- The lowest `count` little-endian bytes of a number. -/
def natLe (count value : Nat) : Bytes :=
  (List.range count).map fun index => UInt8.ofNat (value / 256 ^ index)

/-- The Poly1305 accumulator over a message of at most `fuel` blocks. -/
def poly1305Accumulate (r : Nat) : Nat → Nat → Bytes → Nat
  | 0, accumulator, _ => accumulator
  | _ + 1, accumulator, [] => accumulator
  | fuel + 1, accumulator, byte :: message =>
      let block := (byte :: message).take 16
      poly1305Accumulate r fuel
        ((accumulator + natOfLe (block ++ [1])) * r % (2 ^ 130 - 5))
        ((byte :: message).drop 16)

/-- Poly1305 under a 32-byte one-time key. -/
def poly1305 (oneTimeKey message : Bytes) : Block Aead.tagLength :=
  let r := natOfLe (oneTimeKey.take 16) &&& 0x0ffffffc0ffffffc0ffffffc0fffffff
  let s := natOfLe ((oneTimeKey.drop 16).take 16)
  ⟨natLe 16 (poly1305Accumulate r message.length 0 message + s), by
    simp [natLe, Aead.tagLength]⟩

/-- The tag of a ciphertext: Poly1305 of the zero-padded ciphertext and of the
lengths of the empty associated data and of the ciphertext. -/
def tag
    (key : Block 32)
    (nonce : Block 12)
    (ciphertext : Bytes) : Block Aead.tagLength :=
  poly1305 ((chacha20Block key nonce 0).take 32)
    (ciphertext ++ List.replicate ((16 - ciphertext.length % 16) % 16) 0 ++
      natLe 8 0 ++ natLe 8 ciphertext.length)

theorem length_chacha20Block
    (key : Block 32)
    (nonce : Block 12)
    (counter : UInt32) :
    (chacha20Block key nonce counter).length = 64 := by
  simp [chacha20Block, List.length_flatMap, u32Le]

theorem le_length_keystream
    (key : Block 32)
    (nonce : Block 12)
    (length : Nat) :
    length ≤ (keystream key nonce length).length := by
  simp only [keystream, List.length_flatMap, length_chacha20Block,
    List.map_const', List.length_range, List.sum_replicate_nat]
  omega

/-- The ChaCha20-Poly1305 scheme. -/
def scheme : Aead :=
  Aead.ofKeystreamAndTag keystream tag

/-- ChaCha20-Poly1305 meets the contract of an AEAD scheme. -/
theorem lawful_scheme : scheme.Lawful :=
  Aead.lawful_ofKeystreamAndTag tag le_length_keystream

end ChaCha20Poly1305
end Foundation
