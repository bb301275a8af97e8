import GhostProtocol.Foundation.Bytes
import GhostProtocol.Foundation.Hex
import Mathlib.Data.List.Sort

/-!
# JA4 fingerprints

The fingerprint of a browser profile counts its extensions and hashes their
sorted types.  The fingerprint of a ClientHello uses the length of the encoded
extension block in the place of both, so the two never agree.
-/

namespace GhostProtocol
namespace Reality

open Foundation

/-- What the fingerprint uses of a browser profile. -/
structure Ja4Profile where
  cipherSuites : List UInt16
  extensions : List UInt16
  tlsVersion : UInt16

/-- The profile of Chrome 131. -/
def chrome131Profile : Ja4Profile where
  tlsVersion := 0x0304
  cipherSuites := [
    0x1301, 0x1302, 0x1303, 0xC02B, 0xC02F, 0xC02C, 0xC030, 0xCCA9, 0xCCA8,
    0xC013, 0xC014, 0x009C, 0x009D, 0x002F, 0x0035]
  extensions := [
    0x0000, 0x0010, 0x0017, 0x001B, 0x0033, 0x002B, 0x002D, 0x0039, 0x000D,
    0x000B, 0x000A, 0x0015, 0xFF01, 0x0012]

/-- The profile of Firefox 133. -/
def firefox133Profile : Ja4Profile where
  tlsVersion := 0x0304
  cipherSuites := [
    0x1301, 0x1303, 0x1302, 0xC02B, 0xCCA9, 0xC02F, 0xCCA8, 0xC02C, 0xC030,
    0xC013, 0xC014]
  extensions := [
    0x0000, 0x0010, 0x0005, 0x0017, 0x002B, 0x000D, 0x000A, 0x0033, 0x002D,
    0x0015, 0x0012]

/-- The class of a TLS version. -/
def tlsVer (version : UInt16) : List Char :=
  if version = 0x0304 then "t13".toList
  else if version = 0x0303 then "t12".toList
  else "txx".toList

/-- The fingerprint with the given parts. -/
def formatJa4
    (version : UInt16)
    (cipherCount extCount : Nat)
    (firstCipher lastCipher : UInt16)
    (hash : UInt32) : String :=
  String.ofList (tlsVer version ++ Hex.format 2 cipherCount ++
    Hex.format 2 extCount ++ Hex.format 4 firstCipher.toNat ++
    Hex.format 4 lastCipher.toNat ++ Hex.format 8 hash.toNat)

/-- The hash of a text of ASCII characters, before it is printed. -/
def simpleHash (text : List Char) : UInt32 :=
  text.foldl (fun hash char =>
    (hash ^^^ UInt32.ofNat char.toNat) * 0x01000193) 0x811c9dc5

/-- The fingerprint of a profile. -/
def calculateJa4 (profile : Ja4Profile) : String :=
  let sortedExts := profile.extensions.insertionSort (· ≤ ·)
  let extHex := sortedExts.flatMap fun ext => Hex.format 4 ext.toNat
  formatJa4 profile.tlsVersion profile.cipherSuites.length
    profile.extensions.length (profile.cipherSuites.head?.getD 0)
    (profile.cipherSuites.getLast?.getD 0) (simpleHash extHex)

/-- Whether a fingerprint is in the list of allowed ones. -/
def verifyJa4 (clientJa4 : String) (allowed : List String) : Bool :=
  allowed.any (· == clientJa4)

/-- What the TLS parser gives of a ClientHello: `ext` is the raw extension
block. -/
structure ClientHello where
  version : UInt16
  ciphers : List UInt16
  ext : Option Bytes

/-- A message in a TLS record. -/
inductive TlsMessage
  | clientHello (hello : ClientHello)
  | other

/-- The TLS parser: the messages in a record, if it is valid. -/
abbrev TlsParser := Bytes → Option (List TlsMessage)

/-- The fingerprint of the first ClientHello among some messages. -/
def extractFromMessages : List TlsMessage → Option String
  | [] => none
  | .other :: messages => extractFromMessages messages
  | .clientHello hello :: _ =>
      let extLength := (hello.ext.map List.length).getD 0
      some (formatJa4 hello.version hello.ciphers.length extLength
        (hello.ciphers.head?.getD 0) (hello.ciphers.getLast?.getD 0)
        (UInt32.ofNat extLength * 0x01000193))

/-- The fingerprint of the ClientHello in a record. -/
def extractJa4FromClientHello
    (parser : TlsParser)
    (data : Bytes) : Option String :=
  match parser data with
  | none => none
  | some messages => extractFromMessages messages

/-- The fingerprint of the Chrome profile. -/
def chromeJa4Fingerprint : String :=
  calculateJa4 chrome131Profile

/-- The fingerprint of the Firefox profile. -/
def firefoxJa4Fingerprint : String :=
  calculateJa4 firefox133Profile

/-! ## ClientHello records of a profile -/

/-- An extension of a ClientHello. -/
structure Extension where
  type : UInt16
  body : Bytes

/-- The bytes of an extension: its type, the length of its body and its
body. -/
def Extension.encode (extension : Extension) : Bytes :=
  u16Be extension.type ++ u16Be (UInt16.ofNat extension.body.length) ++
    extension.body

/-- A ClientHello has the version and the ciphers of a profile, and its
extension block consists of extensions of exactly the types of the profile, in
any order and with any bodies.  A profile without extensions may have no
block. -/
structure ClientHello.Matches
    (hello : ClientHello)
    (profile : Ja4Profile)
    (extensions : List Extension) : Prop where
  version : hello.version = profile.tlsVersion
  ciphers : hello.ciphers = profile.cipherSuites
  types : (extensions.map Extension.type).Perm profile.extensions
  block : hello.ext = some (extensions.flatMap Extension.encode) ∨
    hello.ext = none ∧ extensions = []

/-- An extension has at least the four bytes of its type and length. -/
theorem length_encode (extension : Extension) :
    4 ≤ extension.encode.length := by
  simp [Extension.encode]
  omega

/-- An extension block has at least four bytes for each extension. -/
theorem length_flatMap_encode (extensions : List Extension) :
    4 * extensions.length ≤ (extensions.flatMap Extension.encode).length := by
  induction extensions with
  | nil => exact Nat.le_refl 0
  | cons extension extensions inductionHypothesis =>
      have four := length_encode extension
      rw [List.flatMap_cons, List.length_append, List.length_cons]
      omega

/-- A hash is printed with eight digits. -/
theorem length_format_hash (hash : UInt32) :
    (Hex.format 8 hash.toNat).length = 8 :=
  Hex.length_format (by decide) hash.toNat_lt

/-- A cipher is printed with four digits. -/
theorem length_format_cipher (cipher : UInt16) :
    (Hex.format 4 cipher.toNat).length = 4 :=
  Hex.length_format (by decide) cipher.toNat_lt

/-- The class of a version is printed with three characters. -/
theorem length_tlsVer (version : UInt16) :
    (tlsVer version).length = 3 := by
  unfold tlsVer
  split_ifs <;> decide

/-- Equal fingerprints agree in the parts of fixed width, and in the digits of
both counts taken together. -/
theorem formatJa4_parts
    {version otherVersion first otherFirst last otherLast : UInt16}
    {ciphers otherCiphers extCount otherCount : Nat}
    {hash otherHash : UInt32}
    (equal : formatJa4 version ciphers extCount first last hash =
      formatJa4 otherVersion otherCiphers otherCount otherFirst otherLast
        otherHash) :
    tlsVer version = tlsVer otherVersion ∧
      Hex.format 2 ciphers ++ Hex.format 2 extCount =
        Hex.format 2 otherCiphers ++ Hex.format 2 otherCount ∧
      first = otherFirst ∧ last = otherLast ∧ hash = otherHash := by
  have chars := String.ofList_injective equal
  obtain ⟨chars, hashes⟩ := List.append_inj' chars
    (by rw [length_format_hash, length_format_hash])
  obtain ⟨chars, lasts⟩ := List.append_inj' chars
    (by rw [length_format_cipher, length_format_cipher])
  obtain ⟨chars, firsts⟩ := List.append_inj' chars
    (by rw [length_format_cipher, length_format_cipher])
  rw [List.append_assoc, List.append_assoc] at chars
  obtain ⟨versions, counts⟩ := List.append_inj chars
    (by rw [length_tlsVer, length_tlsVer])
  exact ⟨versions, counts,
    UInt16.toNat_inj.mp (Hex.format_injective 4 firsts),
    UInt16.toNat_inj.mp (Hex.format_injective 4 lasts),
    UInt32.toNat_inj.mp (Hex.format_injective 8 hashes)⟩

/-- Fingerprints that agree in version, ciphers and cipher count are equal only
if the extension counts and the hashes are. -/
theorem formatJa4_inj
    {version first last : UInt16}
    {ciphers extCount otherCount : Nat}
    {hash otherHash : UInt32}
    (equal : formatJa4 version ciphers extCount first last hash =
      formatJa4 version ciphers otherCount first last otherHash) :
    extCount = otherCount ∧ hash = otherHash := by
  obtain ⟨-, counts, -, -, hashes⟩ := formatJa4_parts equal
  exact ⟨Hex.format_injective 2 (List.append_cancel_left counts), hashes⟩

/-- No ClientHello of a profile has the fingerprint of that profile, so it is
refused when only that fingerprint is allowed. -/
theorem extractJa4_ne_calculateJa4
    (parser : TlsParser)
    (data : Bytes)
    (profile : Ja4Profile)
    (hello : ClientHello)
    (extensions : List Extension)
    (parsed : parser data = some [.clientHello hello])
    (hasProfile : hello.Matches profile extensions) :
    extractJa4FromClientHello parser data ≠ some (calculateJa4 profile) ∧
      ∃ fingerprint,
        extractJa4FromClientHello parser data = some fingerprint ∧
        verifyJa4 fingerprint [calculateJa4 profile] = false := by
  have extracted : extractJa4FromClientHello parser data =
      some (formatJa4 profile.tlsVersion profile.cipherSuites.length
        (extensions.flatMap Extension.encode).length
        (profile.cipherSuites.head?.getD 0)
        (profile.cipherSuites.getLast?.getD 0)
        (UInt32.ofNat (extensions.flatMap Extension.encode).length *
          0x01000193)) := by
    rw [extractJa4FromClientHello, parsed]
    simp only [extractFromMessages, hasProfile.version, hasProfile.ciphers]
    rcases hasProfile.block with block | ⟨noBlock, rfl⟩
    · rw [block]
      rfl
    · rw [noBlock]
      rfl
  have different : formatJa4 profile.tlsVersion profile.cipherSuites.length
      (extensions.flatMap Extension.encode).length
      (profile.cipherSuites.head?.getD 0)
      (profile.cipherSuites.getLast?.getD 0)
      (UInt32.ofNat (extensions.flatMap Extension.encode).length *
        0x01000193) ≠ calculateJa4 profile := by
    intro equal
    obtain ⟨counts, hashes⟩ := formatJa4_inj equal
    have long := length_flatMap_encode extensions
    have types := hasProfile.types.length_eq
    rw [List.length_map] at types
    have none : profile.extensions = [] :=
      List.eq_nil_of_length_eq_zero (by omega)
    have empty : (extensions.flatMap Extension.encode).length = 0 := by
      rw [counts, none]
      rfl
    rw [empty, none] at hashes
    exact absurd hashes (by decide)
  refine ⟨fun agree => ?_, _, extracted, ?_⟩
  · exact different (Option.some.inj (extracted.symm.trans agree))
  · simpa [verifyJa4] using different.symm

/-- A profile with one cipher and one extension. -/
def smallProfile : Ja4Profile where
  tlsVersion := 0x0303
  cipherSuites := [0x1301]
  extensions := [0x0017]

/-- The record of a ClientHello of that profile. -/
def smallRecord : Bytes :=
  [0x16, 0x03, 0x01, 0x00, 0x33, 0x01, 0x00, 0x00, 0x2F, 0x03, 0x03] ++
    List.replicate 32 0 ++
    [0x00, 0x00, 0x02, 0x13, 0x01, 0x01, 0x00, 0x00, 0x04, 0x00, 0x17, 0x00,
      0x00]

/-- The ClientHello in that record. -/
def smallHello : ClientHello where
  version := 0x0303
  ciphers := [0x1301]
  ext := some [0x00, 0x17, 0x00, 0x00]

/-- A parser of that record. -/
def smallParser : TlsParser := fun data =>
  if data = smallRecord then some [.clientHello smallHello] else none

/-- The ClientHello of that record has the profile. -/
theorem smallHello_matches :
    smallHello.Matches smallProfile [{ type := 0x0017, body := [] }] where
  version := rfl
  ciphers := rfl
  types := List.Perm.refl _
  block := .inl rfl

/-- The ClientHello of the small profile is refused. -/
theorem extractJa4_ne_calculateJa4_small :
    extractJa4FromClientHello smallParser smallRecord ≠
      some (calculateJa4 smallProfile) :=
  (extractJa4_ne_calculateJa4 smallParser smallRecord smallProfile smallHello
    [{ type := 0x0017, body := [] }] (if_pos rfl) smallHello_matches).1

/-- The two fingerprints do not agree for every profile and ClientHello. -/
theorem not_extractJa4_eq_calculateJa4 :
    ¬ ∀ (parser : TlsParser) data profile (hello : ClientHello) extensions,
      parser data = some [.clientHello hello] →
      hello.Matches profile extensions →
      extractJa4FromClientHello parser data = some (calculateJa4 profile) := by
  intro agree
  have parsed : smallParser smallRecord = some [.clientHello smallHello] :=
    if_pos rfl
  have equal := agree smallParser smallRecord smallProfile smallHello _ parsed
    smallHello_matches
  rw [extractJa4FromClientHello, parsed] at equal
  exact absurd (formatJa4_inj (Option.some.inj equal)).1 (by decide)

end Reality
end GhostProtocol
