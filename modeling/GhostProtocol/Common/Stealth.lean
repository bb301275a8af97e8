import GhostProtocol.Foundation.Bytes
import Mathlib.Order.MinMax
import Mathlib.Tactic.Ring

/-!
# Padding strategies

A strategy chooses how many padding bytes to append to a buffer, from the length
of the buffer and random draws.  A marker byte in front of the padding says how
many there are.  Only the strategy of random bounds caps the number at what a
byte can say.
-/

namespace GhostProtocol
namespace Common

open Foundation

/-- How the length of the padding is chosen. -/
inductive PaddingStrategy
  | fixed (len : Nat)
  | random (min max : Nat)
  | normalizeToMultiple (multiple maxPadding : Nat)
  deriving DecidableEq, Repr

/-- The default draws between 0 and 64 bytes. -/
def PaddingStrategy.default : PaddingStrategy :=
  .random 0 64

/-- The machine: the largest value of an address-sized word, which has at least
16 bits. -/
structure Platform where
  usizeMax : Nat
  wide : 65535 ≤ usizeMax

/-- The random draws: a number in a nonempty range, and as many bytes as asked
for. -/
structure Draws where
  genRange : (low high : Nat) → low ≤ high →
    { value : Nat // low ≤ value ∧ value ≤ high }
  fill : (count : Nat) → Block count

/-- How many extra multiples are drawn for a buffer that is aligned already. -/
def Draws.extraMultiples (draws : Draws) : Nat :=
  (draws.genRange 0 2 (Nat.zero_le 2)).val

/-- How padding fails: division by zero, a product beyond the word size, or an
allocation beyond half of it.  An unchecked build goes on with a wrapped
product. -/
inductive PaddingFault
  | divisionByZero
  | overflow
  | capacityOverflow
  deriving DecidableEq, Repr

/-- Length of the padding for a buffer of `dataLen` bytes. -/
def calculatePaddingLen
    (platform : Platform)
    (draws : Draws)
    (dataLen : Nat) : PaddingStrategy → Except PaddingFault Nat
  | .fixed len => .ok len
  | .random min max =>
      let maxVal := Nat.min max 255
      let minVal := Nat.min min maxVal
      .ok (draws.genRange minVal maxVal (Nat.min_le_right min maxVal)).val
  | .normalizeToMultiple multiple maxPadding =>
      if multiple = 0 then .error .divisionByZero
      else
        let remainder := dataLen % multiple
        if remainder = 0 then
          let extra := draws.extraMultiples * multiple
          if platform.usizeMax < extra then .error .overflow
          else .ok (Nat.min extra maxPadding)
        else
          let needed := multiple - remainder
          .ok (Nat.min needed maxPadding)

/-- Append the marker and the padding.  Returns the length of the padding and
the padded buffer. -/
def applyPadding
    (platform : Platform)
    (draws : Draws)
    (buf : Bytes)
    (strategy : PaddingStrategy) : Except PaddingFault (Nat × Bytes) := do
  let padLen ← calculatePaddingLen platform draws buf.length strategy
  if padLen > 0 then
    if platform.usizeMax / 2 < padLen then
      throw .capacityOverflow
    else
      return (padLen,
        buf ++ [UInt8.ofNat padLen] ++ (draws.fill padLen).toList)
  else
    return (padLen, buf ++ [0])

/-- The padded buffer is the buffer, a marker with the length of the padding,
and that many bytes. -/
def SelfDescribing
    (buf : Bytes)
    (result : Except PaddingFault (Nat × Bytes)) : Prop :=
  ∃ padLen marker padding,
    result = .ok (padLen, buf ++ marker :: padding) ∧
      marker.toNat = padLen ∧ padding.length = padLen

/-- Whether the length the strategy chooses fits the marker: a fixed length of
at most 255 bytes, random bounds of any kind, or a multiple other than zero
where the missing bytes, or two multiples at most drawn by chance, are at most
255 or capped at 255. -/
def FitsMarker
    (platform : Platform)
    (draws : Draws)
    (dataLen : Nat) : PaddingStrategy → Prop
  | .fixed len => len ≤ 255
  | .random _ _ => True
  | .normalizeToMultiple multiple maxPadding =>
      multiple ≠ 0 ∧
        if dataLen % multiple = 0 then
          let extra := draws.extraMultiples * multiple
          extra ≤ platform.usizeMax ∧ (extra ≤ 255 ∨ maxPadding ≤ 255)
        else multiple - dataLen % multiple ≤ 255 ∨ maxPadding ≤ 255

/-- For an aligned buffer some extra multiples are chosen, up to the cap. -/
theorem calculatePaddingLen_of_aligned
    (platform : Platform)
    (draws : Draws)
    {dataLen multiple : Nat}
    (nonzero : multiple ≠ 0)
    (aligned : dataLen % multiple = 0)
    (maxPadding : Nat) :
    calculatePaddingLen platform draws dataLen
        (.normalizeToMultiple multiple maxPadding) =
      if platform.usizeMax < draws.extraMultiples * multiple then
        .error .overflow
      else .ok (Nat.min (draws.extraMultiples * multiple) maxPadding) := by
  rw [calculatePaddingLen, if_neg nonzero]
  simp only [aligned, if_true]

/-- For any other buffer the missing bytes are chosen, up to the cap. -/
theorem calculatePaddingLen_of_unaligned
    (platform : Platform)
    (draws : Draws)
    {dataLen multiple : Nat}
    (nonzero : multiple ≠ 0)
    (unaligned : dataLen % multiple ≠ 0)
    (maxPadding : Nat) :
    calculatePaddingLen platform draws dataLen
        (.normalizeToMultiple multiple maxPadding) =
      .ok (Nat.min (multiple - dataLen % multiple) maxPadding) := by
  rw [calculatePaddingLen, if_neg nonzero]
  simp only [if_neg unaligned]

/-- Padding of a chosen length is appended behind its marker. -/
theorem applyPadding_of_len
    (platform : Platform)
    (draws : Draws)
    {buf : Bytes}
    {strategy : PaddingStrategy}
    {padLen : Nat}
    (chosen : calculatePaddingLen platform draws buf.length strategy =
      .ok padLen)
    (fits : padLen ≤ 255) :
    ∃ padding, applyPadding platform draws buf strategy =
        .ok (padLen, buf ++ UInt8.ofNat padLen :: padding) ∧
      padding.length = padLen := by
  have wide := platform.wide
  rw [applyPadding, chosen]
  by_cases positive : padLen > 0
  · refine ⟨(draws.fill padLen).toList, ?_, Block.length_toList _⟩
    have small : ¬platform.usizeMax / 2 < padLen := by omega
    show (if padLen > 0 then _ else _) = _
    rw [if_pos positive, if_neg small, List.append_assoc]
    rfl
  · obtain rfl := Nat.eq_zero_of_not_pos positive
    exact ⟨[], rfl, rfl⟩

/-- A length that fits the marker is described by it, and no other one is. -/
theorem selfDescribing_of_len
    (platform : Platform)
    (draws : Draws)
    {buf : Bytes}
    {strategy : PaddingStrategy}
    {padLen : Nat}
    (chosen : calculatePaddingLen platform draws buf.length strategy =
      .ok padLen) :
    SelfDescribing buf (applyPadding platform draws buf strategy) ↔
      padLen ≤ 255 := by
  have applied : applyPadding platform draws buf strategy =
      if padLen > 0 then
        if platform.usizeMax / 2 < padLen then .error .capacityOverflow
        else .ok (padLen,
          buf ++ [UInt8.ofNat padLen] ++ (draws.fill padLen).toList)
      else .ok (padLen, buf ++ [0]) := by
    rw [applyPadding, chosen]
    rfl
  rw [applied]
  constructor
  · rintro ⟨len, marker, padding, result, described, -⟩
    have same : padLen = len := by
      split_ifs at result
      · exact (Prod.mk.inj (Except.ok.inj result)).1
      · exact (Prod.mk.inj (Except.ok.inj result)).1
    rw [same, ← described]
    exact Nat.le_of_lt_succ marker.toNat_lt
  · intro fits
    obtain ⟨padding, padded, length⟩ :=
      applyPadding_of_len platform draws chosen fits
    rw [← applied]
    exact ⟨padLen, UInt8.ofNat padLen, padding, padded,
      UInt8.toNat_ofNat_of_lt (Nat.lt_succ_of_le fits), length⟩

/-- A failed choice describes nothing. -/
theorem not_selfDescribing_of_error
    (platform : Platform)
    (draws : Draws)
    {buf : Bytes}
    {strategy : PaddingStrategy}
    {fault : PaddingFault}
    (failed : calculatePaddingLen platform draws buf.length strategy =
      .error fault) :
    ¬SelfDescribing buf (applyPadding platform draws buf strategy) := by
  rintro ⟨padLen, marker, padding, result, -⟩
  rw [applyPadding, failed] at result
  cases result

/-- Padding describes itself exactly when the chosen length fits the marker. -/
theorem selfDescribing_applyPadding_iff
    (platform : Platform)
    (draws : Draws)
    (buf : Bytes)
    (strategy : PaddingStrategy) :
    SelfDescribing buf (applyPadding platform draws buf strategy) ↔
      FitsMarker platform draws buf.length strategy := by
  cases strategy with
  | fixed len => exact selfDescribing_of_len platform draws rfl
  | random min max =>
      rw [selfDescribing_of_len platform draws rfl]
      have upper := (draws.genRange (Nat.min min (Nat.min max 255))
        (Nat.min max 255) (Nat.min_le_right _ _)).property.2
      exact iff_of_true (upper.trans (Nat.min_le_right max 255)) trivial
  | normalizeToMultiple multiple maxPadding =>
      rw [FitsMarker]
      by_cases zero : multiple = 0
      · have failed : calculatePaddingLen platform draws buf.length
            (.normalizeToMultiple multiple maxPadding) =
              .error .divisionByZero := by
          rw [calculatePaddingLen, if_pos zero]
        exact iff_of_false (not_selfDescribing_of_error platform draws failed)
          fun fits => fits.1 zero
      by_cases aligned : buf.length % multiple = 0
      · rw [if_pos aligned]
        simp only
        have chosen := calculatePaddingLen_of_aligned platform draws zero
          aligned maxPadding
        by_cases large :
            platform.usizeMax < draws.extraMultiples * multiple
        · rw [if_pos large] at chosen
          exact iff_of_false (not_selfDescribing_of_error platform draws chosen)
            fun fits => Nat.not_le.mpr large fits.2.1
        · rw [if_neg large] at chosen
          rw [selfDescribing_of_len platform draws chosen]
          constructor
          · intro small
            exact ⟨zero, Nat.not_lt.mp large, min_le_iff.mp small⟩
          · intro fits
            exact min_le_iff.mpr fits.2.2
      · have chosen := calculatePaddingLen_of_unaligned platform draws zero
          aligned maxPadding
        rw [selfDescribing_of_len platform draws chosen, if_neg aligned]
        constructor
        · intro small
          exact ⟨zero, min_le_iff.mp small⟩
        · intro fits
          exact min_le_iff.mpr fits.2

/-- A machine of 64 bits. -/
def platform64 : Platform where
  usizeMax := 0xFFFFFFFFFFFFFFFF
  wide := by decide

/-- Draws of the least number and of zero bytes. -/
def leastDraws : Draws where
  genRange low _ ordered := ⟨low, le_refl low, ordered⟩
  fill count := ⟨List.replicate count 0, List.length_replicate⟩

/-- A fixed length of 256 bytes has the marker zero, and a multiple of zero is
divided by. -/
theorem applyPadding_of_fixed_256 :
    ¬SelfDescribing []
        (applyPadding platform64 leastDraws [] (.fixed 256)) ∧
      applyPadding platform64 leastDraws [] (.normalizeToMultiple 0 64) =
        .error .divisionByZero := by
  constructor
  · have chosen : calculatePaddingLen platform64 leastDraws
        ([] : Bytes).length (.fixed 256) = .ok 256 := rfl
    rw [selfDescribing_of_len platform64 leastDraws chosen]
    decide
  · rfl

/-! ## Normalised lengths -/

/-- The padded buffer, marker included, has a multiple of `multiple` bytes. -/
def Normalized
    (multiple : Nat)
    (result : Except PaddingFault (Nat × Bytes)) : Prop :=
  ∃ padLen padded, result = .ok (padLen, padded) ∧
    multiple ∣ padded.length

/-- Whether a buffer is normalised: every length is a multiple of one.  Apart
from that the marker is one byte too many, unless two extra multiples are drawn
for an aligned buffer and the cap takes one byte away. -/
def FillsMultiple
    (draws : Draws)
    (dataLen multiple maxPadding : Nat) : Prop :=
  multiple = 1 ∨
    dataLen % multiple = 0 ∧ draws.extraMultiples = 2 ∧
      maxPadding + 1 = 2 * multiple

/-- A normalised length depends on the length chosen. -/
theorem normalized_of_len
    (platform : Platform)
    (draws : Draws)
    {buf : Bytes}
    {strategy : PaddingStrategy}
    {padLen multiple : Nat}
    (chosen : calculatePaddingLen platform draws buf.length strategy =
      .ok padLen)
    (fits : padLen ≤ 255) :
    Normalized multiple (applyPadding platform draws buf strategy) ↔
      multiple ∣ buf.length + (padLen + 1) := by
  obtain ⟨padding, padded, length⟩ :=
    applyPadding_of_len platform draws chosen fits
  have total : (buf ++ UInt8.ofNat padLen :: padding).length =
      buf.length + (padLen + 1) := by
    rw [List.length_append, List.length_cons, length]
  rw [padded, ← total]
  constructor
  · rintro ⟨len, result, same, divides⟩
    obtain ⟨-, rfl⟩ := Prod.mk.inj (Except.ok.inj same)
    exact divides
  · exact fun divides => ⟨padLen, _, rfl, divides⟩

/-- One byte more than a whole number of multiples is a multiple of one
only. -/
theorem dvd_mul_add_one_iff (multiple count : Nat) :
    multiple ∣ multiple * count + 1 ↔ multiple = 1 := by
  rw [Nat.dvd_add_right (Nat.dvd_mul_right multiple count), Nat.dvd_one]

/-- Between one and two multiples lies no other one. -/
theorem dvd_iff_eq_two_mul
    {multiple length : Nat}
    (lower : multiple < length)
    (upper : length ≤ 2 * multiple) :
    multiple ∣ length ↔ length = 2 * multiple := by
  constructor
  · rintro ⟨count, rfl⟩
    have two : count = 2 := by
      have positive : 0 < multiple := by omega
      have above : 1 < count := by
        by_contra small
        have bound := Nat.mul_le_mul_left multiple (Nat.not_lt.mp small)
        omega
      have below : count ≤ 2 := by
        rw [Nat.mul_comm] at upper
        exact Nat.le_of_mul_le_mul_right upper positive
      omega
    rw [two, Nat.mul_comm]
  · rintro rfl
    exact Nat.dvd_mul_left multiple 2

/-- The marker and some extra multiples, up to the cap, behind an aligned
buffer. -/
theorem dvd_extra_iff
    {multiple maxPadding extraMultiples : Nat}
    (atMostTwo : extraMultiples ≤ 2)
    (room : multiple ≤ maxPadding)
    (count : Nat) :
    multiple ∣ multiple * count +
        (Nat.min (extraMultiples * multiple) maxPadding + 1) ↔
      multiple = 1 ∨ extraMultiples = 2 ∧ maxPadding + 1 = 2 * multiple := by
  by_cases uncapped : extraMultiples * multiple ≤ maxPadding
  · have whole : multiple * count + (extraMultiples * multiple + 1) =
        multiple * (count + extraMultiples) + 1 := by ring
    rw [show Nat.min (extraMultiples * multiple) maxPadding = _ from
      Nat.min_eq_left uncapped, whole, dvd_mul_add_one_iff]
    constructor
    · exact .inl
    · rintro (one | ⟨two, cap⟩)
      · exact one
      · rw [two] at uncapped
        omega
  · have product := Nat.mul_le_mul_right multiple atMostTwo
    have two : extraMultiples = 2 := by
      by_contra notTwo
      have one : extraMultiples ≤ 1 := by omega
      have small := Nat.mul_le_mul_right multiple one
      omega
    rw [two] at uncapped ⊢
    rw [show Nat.min (2 * multiple) maxPadding = _ from
        Nat.min_eq_right (Nat.le_of_not_le uncapped),
      Nat.dvd_add_right (Nat.dvd_mul_right _ _),
      dvd_iff_eq_two_mul (by omega) (by omega)]
    constructor
    · exact fun equal => .inr ⟨rfl, equal⟩
    · rintro (one | ⟨-, equal⟩)
      · omega
      · exact equal

/-- Padding to a multiple normalises the buffer exactly in those cases. -/
theorem normalized_applyPadding_iff
    (platform : Platform)
    (draws : Draws)
    (buf : Bytes)
    {multiple maxPadding : Nat}
    (positive : 1 ≤ multiple)
    (room : multiple ≤ maxPadding)
    (capped : maxPadding ≤ 255) :
    Normalized multiple (applyPadding platform draws buf
        (.normalizeToMultiple multiple maxPadding)) ↔
      FillsMultiple draws buf.length multiple maxPadding := by
  have wide := platform.wide
  have nonzero : multiple ≠ 0 := Nat.pos_iff_ne_zero.mp positive
  have whole := Nat.div_add_mod buf.length multiple
  rw [FillsMultiple]
  by_cases aligned : buf.length % multiple = 0
  · have atMostTwo : draws.extraMultiples ≤ 2 :=
      (draws.genRange 0 2 (Nat.zero_le 2)).property.2
    have product := Nat.mul_le_mul_right multiple atMostTwo
    have chosen := calculatePaddingLen_of_aligned platform draws nonzero
      aligned maxPadding
    rw [if_neg (by omega)] at chosen
    rw [normalized_of_len platform draws chosen
      ((Nat.min_le_right _ _).trans capped)]
    rw [aligned, Nat.add_zero] at whole
    rw [← whole, dvd_extra_iff atMostTwo room, Nat.mul_mod_right]
    simp only [true_and]
  · have below := Nat.mod_lt buf.length positive
    have chosen := calculatePaddingLen_of_unaligned platform draws nonzero
      aligned maxPadding
    rw [show Nat.min (multiple - buf.length % multiple) maxPadding = _ from
      Nat.min_eq_left (by omega)] at chosen
    rw [normalized_of_len platform draws chosen (by omega)]
    have length : buf.length + (multiple - buf.length % multiple + 1) =
        multiple * (buf.length / multiple + 1) + 1 := by
      rw [Nat.mul_add, Nat.mul_one]
      omega
    rw [length, dvd_mul_add_one_iff]
    constructor
    · exact .inl
    · rintro (one | ⟨zero, -⟩)
      · exact one
      · exact absurd zero aligned

/-- Draws of the greatest number and of zero bytes. -/
def mostDraws : Draws where
  genRange _ high nonempty := ⟨high, nonempty, Nat.le_refl high⟩
  fill count := Block.ofBytes count []

/-- Two more multiples for a buffer of 16 bytes are capped at 31 bytes, and the
marker makes it 48. -/
theorem normalized_applyPadding_31 :
    Normalized 16 (applyPadding platform64 mostDraws (List.replicate 16 0)
      (.normalizeToMultiple 16 31)) :=
  (normalized_applyPadding_iff platform64 mostDraws (List.replicate 16 0)
    (by decide) (by decide) (by decide)).mpr (.inr (by decide))

/-- A buffer of 100 bytes is padded to 112 bytes, and the marker makes it
113. -/
theorem not_normalized_applyPadding_16 :
    ¬Normalized 16 (applyPadding platform64 leastDraws
      (List.replicate 100 0) (.normalizeToMultiple 16 64)) := by
  have chosen : calculatePaddingLen platform64 leastDraws
      (List.replicate 100 (0 : UInt8)).length (.normalizeToMultiple 16 64) =
        .ok 12 := by decide
  rw [normalized_of_len platform64 leastDraws chosen (by decide),
    List.length_replicate]
  decide

end Common
end GhostProtocol
