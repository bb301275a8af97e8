import GhostProtocol.Foundation.Bytes
import Mathlib.Data.List.FinRange

/-!
# HKDF with SHA-256

SHA-256 of FIPS 180-4, HMAC of RFC 2104 and the first output block of HKDF of
RFC 5869, which is all that a 32-byte key takes.
-/

namespace Foundation
namespace HkdfSha256

/-- Rotation to the right. -/
def rotr (word : UInt32) (count : UInt32) : UInt32 :=
  (word >>> count) ||| (word <<< (32 - count))

/-- The round constants. -/
def roundConstants : List UInt32 :=
  [0x428a2f98, 0x71374491, 0xb5c0fbcf, 0xe9b5dba5, 0x3956c25b, 0x59f111f1,
    0x923f82a4, 0xab1c5ed5, 0xd807aa98, 0x12835b01, 0x243185be, 0x550c7dc3,
    0x72be5d74, 0x80deb1fe, 0x9bdc06a7, 0xc19bf174, 0xe49b69c1, 0xefbe4786,
    0x0fc19dc6, 0x240ca1cc, 0x2de92c6f, 0x4a7484aa, 0x5cb0a9dc, 0x76f988da,
    0x983e5152, 0xa831c66d, 0xb00327c8, 0xbf597fc7, 0xc6e00bf3, 0xd5a79147,
    0x06ca6351, 0x14292967, 0x27b70a85, 0x2e1b2138, 0x4d2c6dfc, 0x53380d13,
    0x650a7354, 0x766a0abb, 0x81c2c92e, 0x92722c85, 0xa2bfe8a1, 0xa81a664b,
    0xc24b8b70, 0xc76c51a3, 0xd192e819, 0xd6990624, 0xf40e3585, 0x106aa070,
    0x19a4c116, 0x1e376c08, 0x2748774c, 0x34b0bcb5, 0x391c0cb3, 0x4ed8aa4a,
    0x5b9cca4f, 0x682e6ff3, 0x748f82ee, 0x78a5636f, 0x84c87814, 0x8cc70208,
    0x90befffa, 0xa4506ceb, 0xbef9a3f7, 0xc67178f2]

/-- The eight words of the chaining state. -/
structure Digest where
  a : UInt32
  b : UInt32
  c : UInt32
  d : UInt32
  e : UInt32
  f : UInt32
  g : UInt32
  h : UInt32

/-- The initial chaining state. -/
def initialDigest : Digest where
  a := 0x6a09e667
  b := 0xbb67ae85
  c := 0x3c6ef372
  d := 0xa54ff53a
  e := 0x510e527f
  f := 0x9b05688c
  g := 0x1f83d9ab
  h := 0x5be0cd19

/-- The word with four big-endian bytes. -/
def u32OfBe (bytes : Bytes) : UInt32 :=
  UInt32.ofNat (bytes.foldl (fun value byte => 256 * value + byte.toNat) 0)

/-- Big-endian bytes of a word. -/
def u32Be (word : UInt32) : Bytes :=
  [(word >>> 24).toUInt8, (word >>> 16).toUInt8, (word >>> 8).toUInt8,
    word.toUInt8]

/-- Extend the message schedule, kept newest first, by `count` words. -/
def extendSchedule : Nat → List UInt32 → List UInt32
  | 0, words => words
  | count + 1, words =>
      let first := words.getD 14 0
      let second := words.getD 1 0
      let sigma0 := rotr first 7 ^^^ rotr first 18 ^^^ (first >>> 3)
      let sigma1 := rotr second 17 ^^^ rotr second 19 ^^^ (second >>> 10)
      extendSchedule count
        ((words.getD 15 0 + sigma0 + words.getD 6 0 + sigma1) :: words)

/-- The 64 words scheduled for a block of 64 bytes. -/
def schedule (block : Bytes) : List UInt32 :=
  (extendSchedule 48 ((List.range 16).map fun index =>
    u32OfBe ((block.drop (4 * index)).take 4)).reverse).reverse

/-- One round with its constant and its scheduled word. -/
def compressionRound (digest : Digest) (words : UInt32 × UInt32) : Digest :=
  let sum1 := rotr digest.e 6 ^^^ rotr digest.e 11 ^^^ rotr digest.e 25
  let choice := (digest.e &&& digest.f) ^^^ (~~~digest.e &&& digest.g)
  let first := digest.h + sum1 + choice + words.1 + words.2
  let sum0 := rotr digest.a 2 ^^^ rotr digest.a 13 ^^^ rotr digest.a 22
  let majority := (digest.a &&& digest.b) ^^^ (digest.a &&& digest.c) ^^^
    (digest.b &&& digest.c)
  { a := first + (sum0 + majority), b := digest.a, c := digest.b,
    d := digest.c, e := digest.d + first, f := digest.e, g := digest.f,
    h := digest.g }

/-- Process one block of 64 bytes. -/
def compress (digest : Digest) (block : Bytes) : Digest :=
  let final :=
    (roundConstants.zip (schedule block)).foldl compressionRound digest
  { a := digest.a + final.a, b := digest.b + final.b, c := digest.c + final.c,
    d := digest.d + final.d, e := digest.e + final.e, f := digest.f + final.f,
    g := digest.g + final.g, h := digest.h + final.h }

/-- The message followed by its padding to whole blocks. -/
def padded (message : Bytes) : Bytes :=
  message ++ [0x80] ++
    List.replicate ((119 - message.length % 64) % 64) 0 ++
    ((List.range 8).map fun index =>
      UInt8.ofNat (8 * message.length / 256 ^ (7 - index)))

/-- SHA-256. -/
def sha256 (message : Bytes) : Block 32 :=
  let bytes := padded message
  let digest := (List.range (bytes.length / 64)).foldl
    (fun digest index => compress digest ((bytes.drop (64 * index)).take 64))
    initialDigest
  ⟨u32Be digest.a ++ u32Be digest.b ++ u32Be digest.c ++ u32Be digest.d ++
    u32Be digest.e ++ u32Be digest.f ++ u32Be digest.g ++ u32Be digest.h, rfl⟩

/-- The HMAC key as a 64-byte block. -/
def hmacBlock (key : Bytes) : Bytes :=
  let short := if key.length ≤ 64 then key else (sha256 key).toList
  short ++ List.replicate (64 - short.length) 0

/-- HMAC with SHA-256. -/
def hmac (key message : Bytes) : Block 32 :=
  let block := hmacBlock key
  sha256 (block.map (· ^^^ 0x5c) ++
    (sha256 (block.map (· ^^^ 0x36) ++ message)).toList)

/-- The first 32 bytes of HKDF output: extract with the salt, then expand with
the info string. -/
def hkdf (salt inputKey info : Bytes) : Block 32 :=
  hmac (hmac salt inputKey).toList (info ++ [1])

end HkdfSha256
end Foundation
