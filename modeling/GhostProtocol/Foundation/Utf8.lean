import GhostProtocol.Foundation.Text
import Mathlib.Tactic.SplitIfs

/-!
# Lossy decoding of valid text

Lossy decoding replaces what is not UTF-8.  The bytes of a character are read
back one width at a time, from the numbers that stand in them, so decoding
leaves the bytes of every text as they are.
-/

namespace Foundation
namespace Text

/-! ## Bytes as numbers -/

/-- A small number is the value of its byte. -/
theorem toNat_byte {number : Nat} (small : number < 256) :
    (UInt8.ofNat number).toNat = number :=
  UInt8.toNat_ofNat_of_lt small

/-- Bytes are ordered like their numbers. -/
theorem byte_lt_iff
    {number other : Nat}
    (small : number < 256)
    (otherSmall : other < 256) :
    UInt8.ofNat number < UInt8.ofNat other ↔ number < other := by
  rw [UInt8.lt_iff_toNat_lt, toNat_byte small, toNat_byte otherSmall]

/-- A byte lies between two bounds if its number does. -/
theorem byte_between
    {number lower upper : Nat}
    (small : number < 256)
    (lowerSmall : lower < 256)
    (upperSmall : upper < 256) :
    (UInt8.ofNat lower ≤ UInt8.ofNat number &&
        UInt8.ofNat number ≤ UInt8.ofNat upper) =
      decide (lower ≤ number ∧ number ≤ upper) := by
  simp only [UInt8.le_iff_toNat_le, toNat_byte small, toNat_byte lowerSmall,
    toNat_byte upperSmall, Bool.decide_and]

/-- Equal bytes of small numbers come from equal numbers. -/
theorem number_of_byte_eq
    {number other : Nat}
    (small : number < 256)
    (otherSmall : other < 256)
    (equal : UInt8.ofNat number = UInt8.ofNat other) :
    number = other := by
  rw [← toNat_byte small, equal, toNat_byte otherSmall]

/-- Six bits behind the mark of a continuation byte make one. -/
theorem isContinuation_byte {bits : Nat} (small : bits < 64) :
    isContinuation (UInt8.ofNat (bits + 0x80)) = true :=
  (byte_between (show bits + 0x80 < 256 by omega)
    (show 0x80 < 256 by decide) (show 0xBF < 256 by decide)).trans
    (decide_eq_true (by omega))

/-- The payload behind a mark is read back. -/
theorem leadBits_byte
    {bits modulus mark : Nat}
    (small : bits < modulus)
    (fits : bits + mark < 256)
    (whole : modulus ∣ mark) :
    leadBits (UInt8.ofNat (bits + mark)) modulus = bits := by
  obtain ⟨count, rfl⟩ := whole
  rw [leadBits, toNat_byte fits, Nat.add_mul_mod_self_left,
    Nat.mod_eq_of_lt small]

/-- The byte behind a lead byte is in range unless the character could be
written shorter, is a surrogate or is too large. -/
theorem secondInRange_byte
    {lead bits : Nat}
    (leadSmall : lead < 256)
    (small : bits < 64)
    (notShort : lead = 0xE0 → 32 ≤ bits)
    (notSurrogate : lead = 0xED → bits < 32)
    (notShortFour : lead = 0xF0 → 16 ≤ bits)
    (notLarge : lead = 0xF4 → bits < 16) :
    secondInRange (UInt8.ofNat lead) (UInt8.ofNat (bits + 0x80)) = true := by
  have fits : bits + 0x80 < 256 := by omega
  have inside (lower upper : Nat)
      (lowerSmall : lower < 256)
      (upperSmall : upper < 256)
      (between : lower ≤ bits + 0x80 ∧ bits + 0x80 ≤ upper) :
      (UInt8.ofNat lower ≤ UInt8.ofNat (bits + 0x80) &&
        UInt8.ofNat (bits + 0x80) ≤ UInt8.ofNat upper) = true :=
    (byte_between fits lowerSmall upperSmall).trans (decide_eq_true between)
  rw [secondInRange]
  split_ifs with isE0 isED isF0 isF4
  · have lower := notShort (number_of_byte_eq leadSmall (by decide) isE0)
    exact inside 0xA0 0xBF (by decide) (by decide) (by omega)
  · have upper := notSurrogate (number_of_byte_eq leadSmall (by decide) isED)
    exact inside 0x80 0x9F (by decide) (by decide) (by omega)
  · have lower := notShortFour (number_of_byte_eq leadSmall (by decide) isF0)
    exact inside 0x90 0xBF (by decide) (by decide) (by omega)
  · have upper := notLarge (number_of_byte_eq leadSmall (by decide) isF4)
    exact inside 0x80 0x8F (by decide) (by decide) (by omega)
  · exact isContinuation_byte small

/-! ## One character -/

/-- The kind of a lead byte: how it compares with the bounds of the widths. -/
theorem leadKind
    {lead : Nat}
    (small : lead < 256) :
    (UInt8.ofNat lead < 0x80 ↔ lead < 0x80) ∧
      ((0xC2 : UInt8) ≤ UInt8.ofNat lead &&
        UInt8.ofNat lead ≤ (0xDF : UInt8)) =
          decide (0xC2 ≤ lead ∧ lead ≤ 0xDF) ∧
      ((0xE0 : UInt8) ≤ UInt8.ofNat lead &&
        UInt8.ofNat lead ≤ (0xEF : UInt8)) =
          decide (0xE0 ≤ lead ∧ lead ≤ 0xEF) ∧
      ((0xF0 : UInt8) ≤ UInt8.ofNat lead &&
        UInt8.ofNat lead ≤ (0xF4 : UInt8)) =
          decide (0xF0 ≤ lead ∧ lead ≤ 0xF4) :=
  ⟨byte_lt_iff small (show 0x80 < 256 by decide),
    byte_between small (show 0xC2 < 256 by decide)
      (show 0xDF < 256 by decide),
    byte_between small (show 0xE0 < 256 by decide)
      (show 0xEF < 256 by decide),
    byte_between small (show 0xF0 < 256 by decide)
      (show 0xF4 < 256 by decide)⟩

/-- A character of one byte. -/
theorem lossyHead_one
    {value : Nat}
    (upper : value < 0x80)
    (rest : Bytes) :
    lossyHead (UInt8.ofNat value) rest = (Char.ofNat value, rest) := by
  have fits : value < 256 := by omega
  obtain ⟨one, -⟩ := leadKind fits
  unfold lossyHead
  rw [if_pos (one.mpr upper), toNat_byte fits]

/-- A character of two bytes. -/
theorem lossyHead_two
    {value : Nat}
    (lower : 0x80 ≤ value)
    (upper : value < 0x800)
    (rest : Bytes) :
    lossyHead (UInt8.ofNat (value / 64 + 0xC0))
        (UInt8.ofNat (value % 64 + 0x80) :: rest) =
      (Char.ofNat value, rest) := by
  have fits : value / 64 + 0xC0 < 256 := by omega
  obtain ⟨one, two, -⟩ := leadKind fits
  have second := isContinuation_byte (show value % 64 < 64 by omega)
  rw [lossyHead, if_neg (one.not.mpr (by omega)),
    if_pos (two.trans (decide_eq_true (by omega)))]
  simp only [second, if_true]
  rw [leadBits_byte (by omega) fits (by decide),
    leadBits_byte (by omega) (by omega) (by decide)]
  congr 2
  omega

/-- A character of three bytes. -/
theorem lossyHead_three
    {value : Nat}
    (lower : 0x800 ≤ value)
    (upper : value < 0x10000)
    (notSurrogate : value < 0xD800 ∨ 0xDFFF < value)
    (rest : Bytes) :
    lossyHead (UInt8.ofNat (value / 4096 + 0xE0))
        (UInt8.ofNat (value / 64 % 64 + 0x80) ::
          UInt8.ofNat (value % 64 + 0x80) :: rest) =
      (Char.ofNat value, rest) := by
  have fits : value / 4096 + 0xE0 < 256 := by omega
  obtain ⟨one, two, three, -⟩ := leadKind fits
  have second := secondInRange_byte fits (show value / 64 % 64 < 64 by omega)
    (by omega) (by omega) (by omega) (by omega)
  have third := isContinuation_byte (show value % 64 < 64 by omega)
  rw [lossyHead, if_neg (one.not.mpr (by omega)),
    two.trans (decide_eq_false (by omega)),
    three.trans (decide_eq_true (by omega))]
  simp only [second, third, if_true, Bool.false_eq_true, if_false]
  rw [leadBits_byte (by omega) fits (by decide),
    leadBits_byte (by omega) (by omega) (by decide),
    leadBits_byte (by omega) (by omega) (by decide)]
  congr 2
  omega

/-- A character of four bytes. -/
theorem lossyHead_four
    {value : Nat}
    (lower : 0x10000 ≤ value)
    (upper : value < 0x110000)
    (rest : Bytes) :
    lossyHead (UInt8.ofNat (value / 262144 + 0xF0))
        (UInt8.ofNat (value / 4096 % 64 + 0x80) ::
          UInt8.ofNat (value / 64 % 64 + 0x80) ::
            UInt8.ofNat (value % 64 + 0x80) :: rest) =
      (Char.ofNat value, rest) := by
  have fits : value / 262144 + 0xF0 < 256 := by omega
  obtain ⟨one, two, three, four⟩ := leadKind fits
  have second := secondInRange_byte fits
    (show value / 4096 % 64 < 64 by omega) (by omega) (by omega) (by omega)
    (by omega)
  have third := isContinuation_byte (show value / 64 % 64 < 64 by omega)
  have fourth := isContinuation_byte (show value % 64 < 64 by omega)
  rw [lossyHead, if_neg (one.not.mpr (by omega)),
    two.trans (decide_eq_false (by omega)),
    three.trans (decide_eq_false (by omega)),
    four.trans (decide_eq_true (by omega))]
  simp only [second, third, fourth, if_true, Bool.false_eq_true, if_false]
  rw [leadBits_byte (by omega) fits (by decide),
    leadBits_byte (by omega) (by omega) (by decide),
    leadBits_byte (by omega) (by omega) (by decide),
    leadBits_byte (by omega) (by omega) (by decide)]
  congr 2
  omega

/-- The bytes of a character are read back, whatever follows them. -/
theorem lossyHead_utf8EncodeChar (char : Char) (rest : Bytes) :
    ∃ lead tail, String.utf8EncodeChar char = lead :: tail ∧
      lossyHead lead (tail ++ rest) = (char, rest) := by
  have valid : char.val.toNat < 0xD800 ∨
      0xDFFF < char.val.toNat ∧ char.val.toNat < 0x110000 := char.valid
  have read : Char.ofNat char.val.toNat = char := Char.ofNat_toNat char
  unfold String.utf8EncodeChar
  simp only
  split_ifs with one two three
  · refine ⟨_, _, rfl, ?_⟩
    exact (lossyHead_one (show char.val.toNat < 0x80 by omega) rest).trans
      (by rw [read])
  · refine ⟨_, _, rfl, ?_⟩
    have lead : char.val.toNat / 64 % 0x20 = char.val.toNat / 64 :=
      Nat.mod_eq_of_lt (show char.val.toNat / 64 < 32 by omega)
    rw [lead]
    exact (lossyHead_two (show 0x80 ≤ char.val.toNat by omega)
      (Nat.lt_succ_of_le two) rest).trans (by rw [read])
  · refine ⟨_, _, rfl, ?_⟩
    have lead : char.val.toNat / 4096 % 0x10 = char.val.toNat / 4096 :=
      Nat.mod_eq_of_lt (show char.val.toNat / 4096 < 16 by omega)
    rw [lead]
    exact (lossyHead_three (Nat.lt_of_not_le two) (Nat.lt_succ_of_le three)
      (valid.imp_right And.left) rest).trans (by rw [read])
  · refine ⟨_, _, rfl, ?_⟩
    have lead : char.val.toNat / 262144 % 0x08 = char.val.toNat / 262144 :=
      Nat.mod_eq_of_lt (show char.val.toNat / 262144 < 8 by omega)
    rw [lead]
    exact (lossyHead_four (Nat.lt_of_not_le three) (by omega) rest).trans
      (by rw [read])

/-! ## Texts -/

/-- As much fuel as characters reads a text back. -/
theorem lossyChars_charBytes
    {fuel : Nat}
    {chars : List Char}
    (enough : chars.length ≤ fuel) :
    lossyChars fuel (charBytes chars) = chars := by
  induction chars generalizing fuel with
  | nil =>
      cases fuel with
      | zero => rfl
      | succ fuel => rfl
  | cons char chars inductionHypothesis =>
      cases fuel with
      | zero => exact absurd enough (Nat.not_succ_le_zero _)
      | succ fuel =>
          obtain ⟨lead, tail, encoded, head⟩ :=
            lossyHead_utf8EncodeChar char (charBytes chars)
          rw [charBytes_cons, encoded, List.cons_append, lossyChars, head,
            inductionHypothesis (Nat.le_of_succ_le_succ enough)]

/-- Lossy decoding reads every text back exactly. -/
@[simp] theorem fromUtf8Lossy_charBytes (chars : List Char) :
    fromUtf8Lossy (charBytes chars) = chars := by
  refine lossyChars_charBytes ?_
  induction chars with
  | nil => exact Nat.le_refl 0
  | cons char chars inductionHypothesis =>
      obtain ⟨lead, tail, encoded, -⟩ := lossyHead_utf8EncodeChar char []
      rw [charBytes_cons, encoded, List.length_append, List.length_cons,
        List.length_cons]
      omega

end Text
end Foundation
