import GhostProtocol.Reality.Ja4
import Mathlib.Data.List.Sort

/-!
# What fingerprints identify

The fingerprint of a ClientHello tells apart all that it is made of: the two
counts are printed next to each other with varying widths, but the hash behind
them says how long the extension block is.  The fingerprint of a profile does
not depend on the order of its extensions, nor on that of the ciphers between
the first and the last.
-/

namespace GhostProtocol
namespace Reality

open Foundation

/-! ## ClientHello messages -/

/-- Bytes of the extension block. -/
def ClientHello.extLength (hello : ClientHello) : Nat :=
  (hello.ext.map List.length).getD 0

/-- What the fingerprint of a ClientHello shows is the same for both. -/
structure ClientHello.SameFields (hello other : ClientHello) : Prop where
  version : tlsVer hello.version = tlsVer other.version
  cipherCount : hello.ciphers.length = other.ciphers.length
  extLength : hello.extLength = other.extLength
  firstCipher : hello.ciphers.head? = other.ciphers.head?
  lastCipher : hello.ciphers.getLast? = other.ciphers.getLast?

/-- The parser finds a ClientHello in a record, behind no other one. -/
def Carries
    (parser : TlsParser)
    (data : Bytes)
    (hello : ClientHello) : Prop :=
  ∃ count later,
    parser data =
      some (List.replicate count .other ++ .clientHello hello :: later)

/-- The fingerprint of a record is that of its first ClientHello. -/
theorem extractJa4_of_carries
    {parser : TlsParser}
    {data : Bytes}
    {hello : ClientHello}
    (carries : Carries parser data hello) :
    extractJa4FromClientHello parser data =
      some (formatJa4 hello.version hello.ciphers.length hello.extLength
        (hello.ciphers.head?.getD 0) (hello.ciphers.getLast?.getD 0)
        (UInt32.ofNat hello.extLength * 0x01000193)) := by
  obtain ⟨count, later, parsed⟩ := carries
  rw [extractJa4FromClientHello, parsed]
  simp only
  clear parsed
  induction count with
  | zero => rfl
  | succ count inductionHypothesis =>
      rw [List.replicate_succ, List.cons_append, extractFromMessages,
        inductionHypothesis]

/-- The factor of the hash is odd, so it can be divided out. -/
theorem hash_injective
    {length otherLength : UInt32}
    (equal : length * 0x01000193 = otherLength * 0x01000193) :
    length = otherLength := by
  have inverse : (0x01000193 : UInt32) * 0x359c449b = 1 := by decide
  calc length
      = length * (0x01000193 * 0x359c449b) := by rw [inverse, UInt32.mul_one]
    _ = otherLength * (0x01000193 * 0x359c449b) := by
        rw [← UInt32.mul_assoc, equal, UInt32.mul_assoc]
    _ = otherLength := by rw [inverse, UInt32.mul_one]

/-- The end of a list of known length is told by a default value. -/
theorem eq_of_getD_of_length
    {ciphers others : List UInt16}
    {pick : List UInt16 → Option UInt16}
    (empty : ∀ list, pick list = none ↔ list = [])
    (lengths : ciphers.length = others.length)
    (picked : (pick ciphers).getD 0 = (pick others).getD 0) :
    pick ciphers = pick others := by
  cases ours : pick ciphers with
  | none =>
      have nothing := (empty ciphers).mp ours
      rw [nothing] at lengths
      exact ((empty others).mpr
        (List.eq_nil_of_length_eq_zero lengths.symm)).symm
  | some cipher =>
      cases theirs : pick others with
      | none =>
          have nothing := (empty others).mp theirs
          rw [nothing] at lengths
          have same := (empty ciphers).mpr (List.eq_nil_of_length_eq_zero lengths)
          rw [ours] at same
          cases same
      | some other =>
          rw [ours, theirs] at picked
          exact congrArg some picked

/-- Records with the same fingerprint carry the same fields. -/
theorem ClientHello.SameFields.of_formatJa4
    {hello other : ClientHello}
    (short : hello.extLength ≤ 65535)
    (otherShort : other.extLength ≤ 65535)
    (equal : formatJa4 hello.version hello.ciphers.length hello.extLength
        (hello.ciphers.head?.getD 0) (hello.ciphers.getLast?.getD 0)
        (UInt32.ofNat hello.extLength * 0x01000193) =
      formatJa4 other.version other.ciphers.length other.extLength
        (other.ciphers.head?.getD 0) (other.ciphers.getLast?.getD 0)
        (UInt32.ofNat other.extLength * 0x01000193)) :
    hello.SameFields other := by
  obtain ⟨versions, counts, firsts, lasts, hashes⟩ := formatJa4_parts equal
  have extLengths : hello.extLength = other.extLength := by
    have same := congrArg UInt32.toNat (hash_injective hashes)
    rwa [UInt32.toNat_ofNat_of_lt' (Nat.lt_of_le_of_lt short (by decide)),
      UInt32.toNat_ofNat_of_lt' (Nat.lt_of_le_of_lt otherShort (by decide))]
      at same
  rw [extLengths] at counts
  have lengths : hello.ciphers.length = other.ciphers.length :=
    Hex.format_injective 2 (List.append_cancel_right counts)
  exact {
    version := versions
    cipherCount := lengths
    extLength := extLengths
    firstCipher := eq_of_getD_of_length (fun _ => List.head?_eq_none_iff)
      lengths firsts
    lastCipher := eq_of_getD_of_length (fun _ => List.getLast?_eq_none_iff)
      lengths lasts }

/-- Two ClientHello messages have the same fingerprint exactly if they agree in
what it shows.  Allowing the fingerprint of one therefore admits the other
exactly then. -/
theorem extractJa4_eq_iff
    {parser : TlsParser}
    {data otherData : Bytes}
    {hello other : ClientHello}
    (carries : Carries parser data hello)
    (otherCarries : Carries parser otherData other)
    (short : hello.extLength ≤ 65535)
    (otherShort : other.extLength ≤ 65535) :
    (extractJa4FromClientHello parser data =
        extractJa4FromClientHello parser otherData ↔
      hello.SameFields other) ∧
      ∃ fingerprint otherFingerprint,
        extractJa4FromClientHello parser data = some fingerprint ∧
        extractJa4FromClientHello parser otherData = some otherFingerprint ∧
        (verifyJa4 otherFingerprint [fingerprint] = true ↔
          hello.SameFields other) := by
  have extracted := extractJa4_of_carries carries
  have otherExtracted := extractJa4_of_carries otherCarries
  have agree : extractJa4FromClientHello parser data =
      extractJa4FromClientHello parser otherData ↔
        hello.SameFields other := by
    rw [extracted, otherExtracted]
    constructor
    · intro equal
      exact .of_formatJa4 short otherShort (Option.some.inj equal)
    · intro same
      rw [formatJa4, formatJa4, same.version, same.cipherCount, same.extLength,
        same.firstCipher, same.lastCipher]
  refine ⟨agree, _, _, extracted, otherExtracted, ?_⟩
  rw [← agree, extracted, otherExtracted, Option.some.injEq]
  simp [verifyJa4]

/-- The record of the small profile with another cipher suite. -/
def otherRecord : Bytes :=
  [0x16, 0x03, 0x01, 0x00, 0x33, 0x01, 0x00, 0x00, 0x2F, 0x03, 0x03] ++
    List.replicate 32 0 ++
    [0x00, 0x00, 0x02, 0x13, 0x02, 0x01, 0x00, 0x00, 0x04, 0x00, 0x17, 0x00,
      0x00]

/-- The ClientHello in that record. -/
def otherHello : ClientHello :=
  { smallHello with ciphers := [0x1302] }

/-- A parser of both records. -/
def bothParser : TlsParser := fun data =>
  if data = smallRecord then some [.clientHello smallHello]
  else if data = otherRecord then some [.clientHello otherHello]
  else none

/-- The ClientHello with one cipher suite does not admit that with the
other. -/
theorem extractJa4_eq_iff_small :
    ∃ fingerprint otherFingerprint,
      extractJa4FromClientHello bothParser smallRecord = some fingerprint ∧
        extractJa4FromClientHello bothParser otherRecord =
          some otherFingerprint ∧
        ¬verifyJa4 otherFingerprint [fingerprint] = true := by
  have carries : Carries bothParser smallRecord smallHello :=
    ⟨0, [], if_pos rfl⟩
  have otherCarries : Carries bothParser otherRecord otherHello :=
    ⟨0, [], (if_neg (show ¬otherRecord = smallRecord by decide +kernel)).trans
      (if_pos rfl)⟩
  obtain ⟨-, fingerprint, other, extracted, otherExtracted, allowed⟩ :=
    extractJa4_eq_iff carries otherCarries (by decide) (by decide)
  refine ⟨fingerprint, other, extracted, otherExtracted, fun verified => ?_⟩
  have first := (allowed.mp verified).firstCipher
  revert first
  decide

/-! ## Profiles -/

instance totalUInt16Le : Std.Total (fun first second : UInt16 => first ≤ second) :=
  ⟨UInt16.le_total⟩

instance transUInt16Le : IsTrans UInt16 (fun first second => first ≤ second) :=
  ⟨fun _ _ _ => UInt16.le_trans⟩

/-- Sorting forgets the order of the extensions. -/
theorem insertionSort_of_perm
    {extensions others : List UInt16}
    (shuffled : extensions.Perm others) :
    extensions.insertionSort (· ≤ ·) = others.insertionSort (· ≤ ·) := by
  have sameMembers := ((List.perm_insertionSort (· ≤ ·) extensions).trans
    shuffled).trans (List.perm_insertionSort (· ≤ ·) others).symm
  refine sameMembers.eq_of_pairwise ?_ (List.pairwise_insertionSort _ _)
    (List.pairwise_insertionSort _ _)
  intro first second _ _ below above
  exact UInt16.le_antisymm below above

/-- The fingerprint of a profile stays the same when its extensions are
reordered, and its ciphers so that the first and the last stay in place. -/
theorem calculateJa4_of_perm
    (profile : Ja4Profile)
    {cipherSuites extensions : List UInt16}
    (shuffled : extensions.Perm profile.extensions)
    (reordered : cipherSuites.Perm profile.cipherSuites)
    (first : cipherSuites.head? = profile.cipherSuites.head?)
    (last : cipherSuites.getLast? = profile.cipherSuites.getLast?) :
    calculateJa4 { profile with cipherSuites, extensions } =
      calculateJa4 profile := by
  rw [calculateJa4, calculateJa4, insertionSort_of_perm shuffled,
    shuffled.length_eq, reordered.length_eq, first, last]

/-- The profile of Firefox with its extensions reversed. -/
theorem calculateJa4_of_perm_firefox :
    calculateJa4 { firefox133Profile with
        extensions := firefox133Profile.extensions.reverse } =
      firefoxJa4Fingerprint :=
  calculateJa4_of_perm firefox133Profile
    (List.reverse_perm firefox133Profile.extensions) (List.Perm.refl _) rfl rfl

end Reality
end GhostProtocol
