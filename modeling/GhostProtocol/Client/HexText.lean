import GhostProtocol.Client.UserId

/-!
# What the parsers of hexadecimal text accept

Both parsers drop dashes, require the byte length of the text they expect, and
read it in pairs of bytes.  They take a plus sign in front of one digit, and a
pair that ends inside a character is a panic, so they accept exactly the texts
of digits only where neither occurs.
-/

namespace GhostProtocol
namespace Client

open Foundation Common

/-! ## Digits -/

/-- Value of a hexadecimal digit; a plus sign counts as zero. -/
def digitOf (char : Char) : Nat :=
  (Text.hexDigitValue (UInt8.ofNat char.toNat)).getD 0

/-- The bytes that pairs of digits denote. -/
def denotedBytes : List Char → Bytes
  | high :: low :: rest =>
      UInt8.ofNat (digitOf high * 16 + digitOf low) :: denotedBytes rest
  | _ => []

/-- Whether a text consists of exactly `count` hexadecimal digits. -/
def IsHexText (count : Nat) (chars : List Char) : Prop :=
  chars.length = count ∧ ∀ char ∈ chars, Text.isHexDigit char = true

/-- Two characters that parse as one byte: a digit or a plus sign, and a
digit. -/
def IsSignedPair (first second : Char) : Prop :=
  (Text.isHexDigit first = true ∨ first = '+') ∧
    Text.isHexDigit second = true

/-- A text made of pairs that parse. -/
def SignedPairs : List Char → Prop
  | [] => True
  | first :: second :: rest => IsSignedPair first second ∧ SignedPairs rest
  | [_] => False

/-- The two bytes behind any pairs that parse do not end inside a
character. -/
def CutsNoCharacter (chars : List Char) : Prop :=
  ∀ pairs tail, chars = pairs ++ tail → SignedPairs pairs → tail ≠ [] →
    Text.isCharBoundary (Text.charBytes tail) 2 = true

set_option maxRecDepth 8000 in
/-- A character whose byte has a value as a digit is a digit. -/
theorem isHexDigit_of_hexDigitValue
    {char : Char}
    (ascii : Text.IsAscii char)
    (value : (Text.hexDigitValue (UInt8.ofNat char.toNat)).isSome = true) :
    Text.isHexDigit char = true := by
  have all : ∀ value : Fin 128,
      (Text.hexDigitValue (UInt8.ofNat value)).isSome = true →
        Text.isHexDigit (Char.ofNat value) = true := by
    decide
  have holds := all ⟨char.toNat, ascii⟩ value
  rwa [Char.ofNat_toNat] at holds

/-- The characters of a pair that parses are ASCII. -/
theorem IsSignedPair.ascii
    {first second : Char}
    (pair : IsSignedPair first second) :
    Text.IsAscii first ∧ Text.IsAscii second := by
  constructor
  · rcases pair.1 with digit | rfl
    · exact (Text.hexDigitValue_of_isHexDigit digit).1
    · decide
  · exact (Text.hexDigitValue_of_isHexDigit pair.2).1

/-- A pair that parses gives the byte it denotes. -/
theorem IsSignedPair.parsed
    {first second : Char}
    (pair : IsSignedPair first second) :
    Text.u8FromStrRadix16
        [UInt8.ofNat first.toNat, UInt8.ofNat second.toNat] =
      .ok (UInt8.ofNat (digitOf first * 16 + digitOf second)) := by
  obtain ⟨low, lowEq⟩ := Option.isSome_iff_exists.mp
    (Text.hexDigitValue_of_isHexDigit pair.2).2.2
  have lowSmall := (digitChar_of_hexDigitValue lowEq).1
  rcases pair.1 with digit | rfl
  · obtain ⟨high, highEq⟩ := Option.isSome_iff_exists.mp
      (Text.hexDigitValue_of_isHexDigit digit).2.2
    have highSmall := (digitChar_of_hexDigitValue highEq).1
    have notPlus : UInt8.ofNat first.toNat ≠ 0x2B := by
      intro plus
      rw [plus] at highEq
      cases highEq
    rw [u8FromStrRadix16_pair notPlus]
    simp only [Text.u8FromHexDigits, digitOf, highEq, lowEq, Option.getD_some]
    rw [if_pos (by omega), if_pos (by omega), Nat.zero_mul, Nat.zero_add]
  · change Text.u8FromHexDigits 0 [UInt8.ofNat second.toNat] = _
    simp only [Text.u8FromHexDigits, digitOf, lowEq, Option.getD_some]
    rw [if_pos (by omega)]
    rfl

/-- Two bytes that parse are a digit or a plus sign, and a digit. -/
theorem digits_of_u8FromStrRadix16
    {first second byte : UInt8}
    (parsed : Text.u8FromStrRadix16 [first, second] = .ok byte) :
    ((Text.hexDigitValue first).isSome = true ∨ first = 0x2B) ∧
      (Text.hexDigitValue second).isSome = true := by
  by_cases plus : first = 0x2B
  · subst plus
    refine ⟨.inr rfl, ?_⟩
    change Text.u8FromHexDigits 0 [second] = .ok byte at parsed
    cases value : Text.hexDigitValue second with
    | none =>
        simp only [Text.u8FromHexDigits, value] at parsed
        cases parsed
    | some digit => rfl
  · rw [u8FromStrRadix16_pair plus] at parsed
    cases high : Text.hexDigitValue first with
    | none =>
        simp only [Text.u8FromHexDigits, high] at parsed
        cases parsed
    | some digit =>
        refine ⟨.inl rfl, ?_⟩
        cases low : Text.hexDigitValue second with
        | none =>
            simp only [Text.u8FromHexDigits, high, low] at parsed
            split_ifs at parsed
        | some other => rfl

/-! ## Character boundaries -/

/-- Bytes below or above the range of continuation bytes. -/
theorem isContinuation_ofNat
    {value : Nat}
    (small : value < 256)
    (outside : value < 0x80 ∨ 0xBF < value) :
    Text.isContinuation (UInt8.ofNat value) = false := by
  have toNat_eq : (UInt8.ofNat value).toNat = value := by
    rw [UInt8.toNat_ofNat']
    exact Nat.mod_eq_of_lt small
  rw [Text.isContinuation, Bool.and_eq_false_iff, decide_eq_false_iff_not,
    decide_eq_false_iff_not, UInt8.le_iff_toNat_le, UInt8.le_iff_toNat_le,
    toNat_eq]
  rcases outside with below | above
  · exact .inl (Nat.not_le.mpr below)
  · exact .inr (Nat.not_le.mpr above)

/-- The first byte of a character does not continue another one. -/
theorem head_utf8EncodeChar (char : Char) :
    ∃ byte rest, String.utf8EncodeChar char = byte :: rest ∧
      Text.isContinuation byte = false := by
  unfold String.utf8EncodeChar
  dsimp only
  split_ifs with one two three
  · exact ⟨_, _, rfl, isContinuation_ofNat (by omega) (by omega)⟩
  · exact ⟨_, _, rfl, isContinuation_ofNat (by omega) (by omega)⟩
  · exact ⟨_, _, rfl, isContinuation_ofNat (by omega) (by omega)⟩
  · exact ⟨_, _, rfl, isContinuation_ofNat (by omega) (by omega)⟩

/-- The end of anything in front of a text is a boundary. -/
theorem isCharBoundary_length
    (front : Bytes)
    (chars : List Char) :
    Text.isCharBoundary (front ++ Text.charBytes chars) front.length =
      true := by
  unfold Text.isCharBoundary
  split_ifs with zero
  · rfl
  · rw [List.getElem?_append_right (le_refl _), Nat.sub_self]
    cases chars with
    | nil => simp
    | cons char others =>
        obtain ⟨byte, rest, encoded, notContinuation⟩ :=
          head_utf8EncodeChar char
        rw [Text.charBytes_cons, encoded]
        simp [notContinuation]

/-- A boundary inside a text is a boundary behind anything in front of it. -/
theorem isCharBoundary_append
    (front bytes : Bytes)
    {offset : Nat}
    (inside : offset ≠ 0) :
    Text.isCharBoundary (front ++ bytes) (front.length + offset) =
      Text.isCharBoundary bytes offset := by
  have behind : front.length + offset ≠ 0 := by omega
  rw [Text.isCharBoundary, Text.isCharBoundary, if_neg behind, if_neg inside,
    List.getElem?_append_right (Nat.le_add_right _ _), Nat.add_sub_cancel_left,
    List.length_append]
  cases bytes[offset]? with
  | none => simp
  | some byte => rfl

/-- An ASCII character in front of the bytes of a text is its first
character. -/
theorem exists_cons_of_charBytes
    {chars : List Char}
    {byte : UInt8}
    {rest : Bytes}
    (bytes : Text.charBytes chars = byte :: rest)
    (small : byte.toNat < 128) :
    ∃ char others, chars = char :: others ∧ Text.IsAscii char ∧
      byte = UInt8.ofNat char.toNat ∧ Text.charBytes others = rest := by
  cases chars with
  | nil => cases bytes
  | cons char others =>
      rw [Text.charBytes_cons] at bytes
      have ascii : Text.IsAscii char := by
        obtain ⟨head, more, encoded, -⟩ := head_utf8EncodeChar char
        rw [encoded, List.cons_append] at bytes
        obtain ⟨rfl, -⟩ := List.cons.inj bytes
        refine Text.ascii_of_mem_utf8EncodeChar ?_ small
        rw [encoded]
        exact List.mem_cons_self
      rw [Text.utf8EncodeChar_of_ascii ascii] at bytes
      obtain ⟨rfl, rest⟩ := List.cons.inj bytes
      exact ⟨char, others, rfl, ascii, rfl, rest⟩

/-- A text whose first two bytes parse starts with a pair that parses. -/
theorem exists_signedPair
    {chars : List Char}
    {first second byte : UInt8}
    {rest : Bytes}
    (bytes : Text.charBytes chars = first :: second :: rest)
    (parsed : Text.u8FromStrRadix16 [first, second] = .ok byte) :
    ∃ high low others, chars = high :: low :: others ∧
      IsSignedPair high low := by
  obtain ⟨-, firstSmall, secondSmall⟩ := hexByte_of_u8FromStrRadix16 parsed
  obtain ⟨firstDigit, secondDigit⟩ := digits_of_u8FromStrRadix16 parsed
  obtain ⟨high, afterHigh, rfl, highAscii, rfl, afterBytes⟩ :=
    exists_cons_of_charBytes bytes firstSmall
  obtain ⟨low, others, rfl, lowAscii, rfl, -⟩ :=
    exists_cons_of_charBytes afterBytes secondSmall
  refine ⟨high, low, others, rfl, ?_,
    isHexDigit_of_hexDigitValue lowAscii secondDigit⟩
  rcases firstDigit with digit | plus
  · exact .inl (isHexDigit_of_hexDigitValue highAscii digit)
  · right
    have code := congrArg UInt8.toNat plus
    rw [UInt8.toNat_ofNat', Nat.mod_eq_of_lt (lt_trans highAscii (by omega))]
      at code
    rw [← Char.ofNat_toNat high, code]
    rfl

/-! ## One pair -/

/-- The pair behind the pairs already read, sliced where a character ends. -/
theorem slice_pair
    {front : Bytes}
    {index : Nat}
    (position : front.length = index * 2)
    (chars : List Char) :
    Text.slice (front ++ Text.charBytes chars) (index * 2) (index * 2 + 2) =
      if Text.isCharBoundary (Text.charBytes chars) 2 = true then
        some ((Text.charBytes chars).take 2)
      else none := by
  rw [← position, Text.slice, isCharBoundary_length,
    isCharBoundary_append front _ (by decide), List.drop_left,
    Nat.add_sub_cancel_left]
  simp

/-- A pair that parses takes two bytes. -/
theorem IsSignedPair.charBytes
    {first second : Char}
    (pair : IsSignedPair first second)
    (rest : List Char) :
    Text.charBytes (first :: second :: rest) =
      [UInt8.ofNat first.toNat, UInt8.ofNat second.toNat] ++
        Text.charBytes rest := by
  obtain ⟨firstAscii, secondAscii⟩ := pair.ascii
  rw [Text.charBytes_cons, Text.charBytes_cons,
    Text.utf8EncodeChar_of_ascii firstAscii,
    Text.utf8EncodeChar_of_ascii secondAscii]
  rfl

/-- A pair that parses can be sliced. -/
theorem IsSignedPair.boundary
    {first second : Char}
    (pair : IsSignedPair first second)
    (rest : List Char) :
    Text.isCharBoundary (Text.charBytes (first :: second :: rest)) 2 = true := by
  rw [pair.charBytes]
  exact isCharBoundary_length _ rest

/-- A pair that parses is read as the byte it denotes. -/
theorem parseHexPair_of_signedPair
    (describe : Nat → Text.IntErrorKind → AnyError)
    {front : Bytes}
    {index : Nat}
    (position : front.length = index * 2)
    {first second : Char}
    (pair : IsSignedPair first second)
    (rest : List Char) :
    parseHexPair describe (front ++ Text.charBytes (first :: second :: rest))
        index =
      .ok (UInt8.ofNat (digitOf first * 16 + digitOf second)) := by
  have bytes : (Text.charBytes (first :: second :: rest)).take 2 =
      [UInt8.ofNat first.toNat, UInt8.ofNat second.toNat] := by
    rw [pair.charBytes]
    rfl
  rw [parseHexPair, slice_pair position, if_pos (pair.boundary rest), bytes]
  simp only [pair.parsed]

/-- Anything else in front is an error, or a panic where slicing ends inside a
character. -/
theorem parseHexPair_of_not_signedPair
    (describe : Nat → Text.IntErrorKind → AnyError)
    {front : Bytes}
    {index : Nat}
    (position : front.length = index * 2)
    {chars : List Char}
    (long : 2 ≤ (Text.charBytes chars).length)
    (noPair : ∀ first second rest, chars = first :: second :: rest →
      ¬IsSignedPair first second) :
    ∃ fault, parseHexPair describe (front ++ Text.charBytes chars) index =
        .error fault ∧
      (fault = .panic ↔
        ¬Text.isCharBoundary (Text.charBytes chars) 2 = true) := by
  rw [parseHexPair, slice_pair position]
  split_ifs with boundary
  · obtain ⟨first, second, rest, bytes⟩ := exists_cons_cons long
    have front : (Text.charBytes chars).take 2 = [first, second] := by
      rw [bytes]
      rfl
    rw [front]
    cases parsed : Text.u8FromStrRadix16 [first, second] with
    | ok byte =>
        obtain ⟨high, low, others, equal, pair⟩ := exists_signedPair bytes parsed
        exact absurd pair (noPair high low others equal)
    | error kind =>
        exact ⟨.error (describe index kind), by simp only [parsed],
          by simp [boundary]⟩
  · exact ⟨.panic, rfl, by simp [boundary]⟩

/-! ## All pairs -/

theorem cutsNoCharacter_nil : CutsNoCharacter [] := by
  intro pairs tail equal _ nonempty
  exact absurd (List.append_eq_nil_iff.mp equal.symm).2 nonempty

/-- A pair that parses can be taken from the front. -/
theorem cutsNoCharacter_cons
    {first second : Char}
    (pair : IsSignedPair first second)
    (rest : List Char) :
    CutsNoCharacter (first :: second :: rest) ↔ CutsNoCharacter rest := by
  constructor
  · intro whole pairs tail equal signed
    refine whole (first :: second :: pairs) tail ?_ ⟨pair, signed⟩
    rw [equal]
    rfl
  · intro behind pairs tail equal signed nonempty
    match pairs, signed with
    | [], _ =>
        obtain rfl : first :: second :: rest = tail := equal
        exact pair.boundary rest
    | high :: low :: others, signed =>
        obtain ⟨-, equal⟩ := List.cons.inj equal
        obtain ⟨-, equal⟩ := List.cons.inj equal
        exact behind others tail equal signed.2 nonempty

/-- Where no pair that parses is in front, only the first two bytes are
sliced. -/
theorem cutsNoCharacter_of_no_pair
    {chars : List Char}
    (nonempty : chars ≠ [])
    (noPair : ∀ first second rest, chars = first :: second :: rest →
      ¬IsSignedPair first second) :
    CutsNoCharacter chars ↔
      Text.isCharBoundary (Text.charBytes chars) 2 = true := by
  constructor
  · intro cutsNone
    exact cutsNone [] chars rfl trivial nonempty
  · intro boundary pairs tail equal signed _
    match pairs, signed with
    | [], _ =>
        obtain rfl : chars = tail := equal
        exact boundary
    | first :: second :: others, signed =>
        exact absurd signed.1 (noPair first second (others ++ tail) equal)

/-- After a pair that parses, the others are parsed behind it. -/
theorem parseHexPairs_of_pair
    {describe : Nat → Text.IntErrorKind → AnyError}
    {hex : Bytes}
    {count index : Nat}
    {byte : UInt8}
    (parsed : parseHexPair describe hex index = .ok byte) :
    parseHexPairs describe hex (count + 1) index =
      (parseHexPairs describe hex count (index + 1)).map (byte ::ᵥ ·) := by
  rw [parseHexPairs, parsed]
  rfl

/-- Pairs from a position are read as the bytes that the characters there denote
when all of them parse.  A panic occurs exactly when a character is cut. -/
structure ReadsPairs
    (describe : Nat → Text.IntErrorKind → AnyError)
    (hex : Bytes)
    (count index : Nat)
    (chars : List Char) : Prop where
  panics : parseHexPairs describe hex count index = .error .panic ↔
    ¬CutsNoCharacter chars
  accepts : ∀ block, parseHexPairs describe hex count index = .ok block ↔
    SignedPairs chars ∧ block.toList = denotedBytes chars

/-- No pairs are read where no character stands. -/
theorem readsPairs_nil
    (describe : Nat → Text.IntErrorKind → AnyError)
    (hex : Bytes)
    (index : Nat) :
    ReadsPairs describe hex 0 index [] := by
  constructor
  · constructor
    · intro panicked
      cases panicked
    · intro cut
      exact absurd cutsNoCharacter_nil cut
  · intro block
    constructor
    · intro parsed
      obtain rfl := Except.ok.inj parsed
      exact ⟨trivial, rfl⟩
    · rintro ⟨-, empty⟩
      rw [List.Vector.eq_nil block]
      rfl

/-- A pair that parses is read in front of the others. -/
theorem ReadsPairs.cons
    {describe : Nat → Text.IntErrorKind → AnyError}
    {hex : Bytes}
    {count index : Nat}
    {first second : Char}
    {rest : List Char}
    (reads : ReadsPairs describe hex count (index + 1) rest)
    (pair : IsSignedPair first second)
    (head : parseHexPair describe hex index =
      .ok (UInt8.ofNat (digitOf first * 16 + digitOf second))) :
    ReadsPairs describe hex (count + 1) index (first :: second :: rest) := by
  constructor
  · rw [parseHexPairs_of_pair head, Outcome.map_eq_error, reads.panics,
      cutsNoCharacter_cons pair]
  · intro block
    rw [parseHexPairs_of_pair head, Outcome.map_eq_ok]
    constructor
    · rintro ⟨others, parsed, rfl⟩
      obtain ⟨signed, denoted⟩ := (reads.accepts others).mp parsed
      refine ⟨⟨pair, signed⟩, ?_⟩
      rw [List.Vector.toList_cons, denoted]
      rfl
    · rintro ⟨⟨-, signed⟩, denoted⟩
      rw [← List.Vector.cons_head_tail block, List.Vector.toList_cons]
        at denoted
      obtain ⟨first, others⟩ := List.cons.inj denoted
      refine ⟨block.tail, (reads.accepts block.tail).mpr ⟨signed, others⟩, ?_⟩
      rw [← first]
      exact List.Vector.cons_head_tail block

/-- Characters that do not start with a pair that parses are not read. -/
theorem readsPairs_of_no_pair
    (describe : Nat → Text.IntErrorKind → AnyError)
    {front : Bytes}
    {count index : Nat}
    (position : front.length = index * 2)
    {chars : List Char}
    (length : (Text.charBytes chars).length = (count + 1) * 2)
    (noPair : ∀ first second rest, chars = first :: second :: rest →
      ¬IsSignedPair first second) :
    ReadsPairs describe (front ++ Text.charBytes chars) (count + 1) index
      chars := by
  have nonempty : chars ≠ [] := by
    rintro rfl
    rw [Text.charBytes_nil, List.length_nil] at length
    omega
  obtain ⟨fault, failed, panics⟩ := parseHexPair_of_not_signedPair describe
    position (by omega) noPair
  constructor
  · rw [parseHexPairs, failed, cutsNoCharacter_of_no_pair nonempty noPair,
      ← panics]
    constructor
    · intro panicked
      exact Except.error.inj panicked
    · rintro rfl
      rfl
  · intro block
    rw [parseHexPairs, failed]
    constructor
    · intro parsed
      cases parsed
    · rintro ⟨signed, -⟩
      cases chars with
      | nil => exact absurd rfl nonempty
      | cons first others =>
          cases others with
          | nil => exact signed.elim
          | cons second rest =>
              exact absurd signed.1 (noPair first second rest rfl)

/-- The pairs behind some others are read. -/
theorem parseHexPairs_spec
    (describe : Nat → Text.IntErrorKind → AnyError)
    {front : Bytes}
    {count index : Nat}
    (position : front.length = index * 2)
    {chars : List Char}
    (length : (Text.charBytes chars).length = count * 2) :
    ReadsPairs describe (front ++ Text.charBytes chars) count index chars := by
  induction count generalizing index front chars with
  | zero =>
      have empty : chars = [] := by
        cases chars with
        | nil => rfl
        | cons char others =>
            obtain ⟨byte, rest, encoded, -⟩ := head_utf8EncodeChar char
            rw [Text.charBytes_cons, encoded] at length
            cases length
      rw [empty]
      exact readsPairs_nil describe _ index
  | succ count inductionHypothesis =>
      by_cases found : ∃ first second rest, chars = first :: second :: rest ∧
          IsSignedPair first second
      · obtain ⟨first, second, rest, rfl, pair⟩ := found
        have bytes := pair.charBytes rest
        have behind : (Text.charBytes rest).length = count * 2 := by
          rw [bytes, List.length_append] at length
          simp only [List.length_cons, List.length_nil] at length
          omega
        have next : (front ++ [UInt8.ofNat first.toNat,
            UInt8.ofNat second.toNat]).length = (index + 1) * 2 := by
          rw [List.length_append, position]
          simp only [List.length_cons, List.length_nil]
          omega
        have reads := inductionHypothesis next behind
        rw [List.append_assoc, ← bytes] at reads
        exact reads.cons pair
          (parseHexPair_of_signedPair describe position pair rest)
      · exact readsPairs_of_no_pair describe position length
          fun first second rest equal pair =>
            found ⟨first, second, rest, equal, pair⟩

/-! ## Whole texts -/

/-- The characters of a text without its dashes. -/
def undashed (hex : String) : List Char :=
  hex.toList.filter (· ≠ '-')

/-- The outcome of a parser that returns the bytes denoted by exactly
`count * 2` digits, and an error for every other text. -/
def AcceptsDigits
    (count : Nat)
    (outcome : Outcome AnyError (Block count))
    (chars : List Char) : Prop :=
  outcome ≠ .error .panic ∧
    ∀ block, outcome = .ok block ↔
      IsHexText (count * 2) chars ∧ block.toList = denotedBytes chars

/-- A text of the right byte length has no character cut by its pairs, and
is not made of pairs some of which have a plus sign. -/
def HasPlainPairs (count : Nat) (chars : List Char) : Prop :=
  (Text.charBytes chars).length = count * 2 →
    CutsNoCharacter chars ∧ (SignedPairs chars → '+' ∉ chars)

/-- A plus sign is no digit. -/
theorem ne_plus_of_isHexDigit
    {char : Char}
    (digit : Text.isHexDigit char = true) :
    char ≠ '+' := by
  rintro rfl
  revert digit
  decide

/-- Pairs that parse have one byte for each character. -/
theorem SignedPairs.length_charBytes
    {chars : List Char}
    (signed : SignedPairs chars) :
    (Text.charBytes chars).length = chars.length := by
  match chars, signed with
  | [], _ => rfl
  | first :: second :: rest, signed =>
      rw [signed.1.charBytes, List.length_append,
        SignedPairs.length_charBytes signed.2]
      simp only [List.length_cons, List.length_nil]
      omega

/-- Pairs that parse cut no character. -/
theorem SignedPairs.cutsNoCharacter
    {chars : List Char}
    (signed : SignedPairs chars) :
    CutsNoCharacter chars := by
  match chars, signed with
  | [], _ => exact cutsNoCharacter_nil
  | first :: second :: rest, signed =>
      exact (cutsNoCharacter_cons signed.1 rest).mpr
        (SignedPairs.cutsNoCharacter signed.2)

/-- Pairs that parse without a plus sign are digits. -/
theorem SignedPairs.isHexDigit
    {chars : List Char}
    (signed : SignedPairs chars)
    (noPlus : '+' ∉ chars) :
    ∀ char ∈ chars, Text.isHexDigit char = true := by
  match chars, signed with
  | [], _ => exact fun char member => absurd member List.not_mem_nil
  | first :: second :: rest, signed =>
      simp only [List.mem_cons, not_or] at noPlus
      obtain ⟨notFirst, -, notRest⟩ := noPlus
      have others := SignedPairs.isHexDigit signed.2 notRest
      intro char member
      rcases List.mem_cons.mp member with rfl | member
      · exact signed.1.1.resolve_right fun plus => notFirst plus.symm
      · rcases List.mem_cons.mp member with rfl | member
        · exact signed.1.2
        · exact others char member

/-- An even number of digits is made of pairs that parse. -/
theorem signedPairs_of_digits
    {count : Nat}
    {chars : List Char}
    (length : chars.length = count * 2)
    (digits : ∀ char ∈ chars, Text.isHexDigit char = true) :
    SignedPairs chars := by
  induction count generalizing chars with
  | zero =>
      obtain rfl : chars = [] := List.length_eq_zero_iff.mp (by omega)
      trivial
  | succ count inductionHypothesis =>
      match chars, length, digits with
      | [char], length, _ =>
          rw [List.length_singleton] at length
          omega
      | first :: second :: rest, length, digits =>
          simp only [List.length_cons] at length
          simp only [List.mem_cons, forall_eq_or_imp] at digits
          exact ⟨⟨.inl digits.1, digits.2.1⟩,
            inductionHypothesis (by omega) digits.2.2⟩

/-- Digits are the pairs that parse and have no plus sign. -/
theorem isHexText_iff
    {count : Nat}
    {chars : List Char} :
    IsHexText (count * 2) chars ↔
      (Text.charBytes chars).length = count * 2 ∧ SignedPairs chars ∧
        '+' ∉ chars := by
  constructor
  · rintro ⟨length, digits⟩
    have signed := signedPairs_of_digits length digits
    refine ⟨signed.length_charBytes.trans length, signed, ?_⟩
    intro plus
    exact ne_plus_of_isHexDigit (digits '+' plus) rfl
  · rintro ⟨length, signed, noPlus⟩
    exact ⟨signed.length_charBytes.symm.trans length, signed.isHexDigit noPlus⟩

/-- Pairs denote one byte each. -/
theorem exists_denoted
    {count : Nat}
    {chars : List Char}
    (length : chars.length = count * 2) :
    ∃ block : Block count, block.toList = denotedBytes chars := by
  have bytes : (denotedBytes chars).length = count := by
    induction count generalizing chars with
    | zero =>
        obtain rfl : chars = [] := List.length_eq_zero_iff.mp (by omega)
        rfl
    | succ count inductionHypothesis =>
        match chars, length with
        | [char], length =>
            rw [List.length_singleton] at length
            omega
        | first :: second :: rest, length =>
            simp only [List.length_cons] at length
            rw [denotedBytes, List.length_cons,
              inductionHypothesis (show rest.length = count * 2 by omega)]
  exact ⟨⟨denotedBytes chars, bytes⟩, rfl⟩

/-- A parser of `count` pairs that checks the byte length first accepts exactly
the texts of digits where the pairs are plain. -/
theorem acceptsDigits_iff
    (describe : Nat → Text.IntErrorKind → AnyError)
    {count : Nat}
    {chars : List Char}
    {outcome : Outcome AnyError (Block count)}
    {message : AnyError}
    (parser : outcome =
      if (Text.charBytes chars).length ≠ count * 2 then
        .error (.error message)
      else parseHexPairs describe (Text.charBytes chars) count 0) :
    AcceptsDigits count outcome chars ↔ HasPlainPairs count chars := by
  subst parser
  split_ifs with wrong
  · constructor
    · intro _ length
      exact absurd length wrong
    · intro _
      refine ⟨?_, fun block => ?_⟩
      · intro panicked
        cases panicked
      constructor
      · intro parsed
        cases parsed
      · rintro ⟨digits, -⟩
        exact absurd (isHexText_iff.mp digits).1 wrong
  · have length := not_not.mp wrong
    obtain ⟨panics, accepts⟩ := parseHexPairs_spec describe
      (show ([] : Bytes).length = 0 * 2 from rfl) length
    rw [List.nil_append] at panics accepts
    constructor
    · rintro ⟨noPanic, exactly⟩ _
      refine ⟨not_not.mp fun cut => noPanic (panics.mpr cut), ?_⟩
      intro signed
      obtain ⟨block, denoted⟩ := exists_denoted
        (signed.length_charBytes.symm.trans length)
      have digits := ((exactly block).mp
        ((accepts block).mpr ⟨signed, denoted⟩)).1
      exact (isHexText_iff.mp digits).2.2
    · intro plain
      obtain ⟨cutsNone, noPlus⟩ := plain length
      refine ⟨fun panicked => panics.mp panicked cutsNone, fun block => ?_⟩
      rw [accepts block, isHexText_iff]
      constructor
      · rintro ⟨signed, denoted⟩
        exact ⟨⟨length, signed, noPlus signed⟩, denoted⟩
      · rintro ⟨⟨-, signed, -⟩, denoted⟩
        exact ⟨signed, denoted⟩

/-- A digit is read back. -/
theorem digitOf_digitChar
    {digit : Nat}
    (small : digit < 16) :
    digitOf (Nat.digitChar digit) = digit ∧
      Text.isHexDigit (Nat.digitChar digit) = true := by
  revert digit
  decide

/-- Printed bytes are digits that denote the bytes. -/
theorem denotedBytes_hexByte (bytes : Bytes) :
    IsHexText (bytes.length * 2) (bytes.flatMap Text.hexByte) ∧
      denotedBytes (bytes.flatMap Text.hexByte) = bytes := by
  induction bytes with
  | nil => exact ⟨⟨rfl, fun char member => absurd member List.not_mem_nil⟩, rfl⟩
  | cons byte bytes inductionHypothesis =>
      obtain ⟨⟨length, digits⟩, denoted⟩ := inductionHypothesis
      have small := byte.toNat_lt
      obtain ⟨highValue, highDigit⟩ :=
        digitOf_digitChar (show byte.toNat / 16 < 16 by omega)
      obtain ⟨lowValue, lowDigit⟩ :=
        digitOf_digitChar (show byte.toNat % 16 < 16 by omega)
      have text : (byte :: bytes).flatMap Text.hexByte =
          Nat.digitChar (byte.toNat / 16) :: Nat.digitChar (byte.toNat % 16) ::
            bytes.flatMap Text.hexByte := rfl
      rw [text]
      refine ⟨⟨?_, ?_⟩, ?_⟩
      · simp only [List.length_cons, length]
        omega
      · simp only [List.mem_cons, forall_eq_or_imp]
        exact ⟨highDigit, lowDigit, digits⟩
      · rw [denotedBytes, denoted, highValue, lowValue,
          show byte.toNat / 16 * 16 + byte.toNat % 16 = byte.toNat by omega,
          UInt8.ofNat_toNat]

/-- Printed bytes have no dash to drop. -/
theorem undashed_hexEncode (bytes : Bytes) :
    undashed (hexEncode bytes) = bytes.flatMap Text.hexByte := by
  rw [undashed, hexEncode, Text.hexEncode, String.toList_ofList,
    List.filter_eq_self]
  intro char member
  have digits := (denotedBytes_hexByte bytes).1.2
  exact decide_eq_true
    (Text.hexDigitValue_of_isHexDigit (digits char member)).2.1

/-- A parser of digits reads printed bytes back. -/
theorem ok_of_hexEncode
    {count : Nat}
    {block : Block count}
    {outcome : Outcome AnyError (Block count)}
    (accepts : AcceptsDigits count outcome (undashed (hexEncode block.toList)) ↔
      HasPlainPairs count (undashed (hexEncode block.toList))) :
    outcome = .ok block := by
  obtain ⟨digits, denoted⟩ := denotedBytes_hexByte block.toList
  rw [Block.length_toList] at digits
  rw [undashed_hexEncode] at accepts
  obtain ⟨-, signed, noPlus⟩ := isHexText_iff.mp digits
  have plain : HasPlainPairs count (block.toList.flatMap Text.hexByte) :=
    fun _ => ⟨signed.cutsNoCharacter, fun _ => noPlus⟩
  exact ((accepts.mpr plain).2 block).mpr ⟨digits, denoted.symm⟩

/-- Both parsers accept exactly the texts of digits where the pairs of the text
are plain, and read printed bytes back. -/
theorem hex_parsers_accept (hex : String) :
    (AcceptsDigits USER_ID_LEN (parseUserId hex) (undashed hex) ↔
      HasPlainPairs USER_ID_LEN (undashed hex)) ∧
    (AcceptsDigits 32 (parseHex32 hex) (undashed hex) ↔
      HasPlainPairs 32 (undashed hex)) ∧
    (∀ userId : UserId, parseUserId (hexEncode userId.toList) = .ok userId) ∧
    ∀ key : Block 32, parseHex32 (hexEncode key.toList) = .ok key := by
  have users : ∀ hex, AcceptsDigits USER_ID_LEN (parseUserId hex)
      (undashed hex) ↔ HasPlainPairs USER_ID_LEN (undashed hex) :=
    fun hex => acceptsDigits_iff _ rfl
  have keys : ∀ hex, AcceptsDigits 32 (parseHex32 hex) (undashed hex) ↔
      HasPlainPairs 32 (undashed hex) :=
    fun hex => acceptsDigits_iff _ rfl
  exact ⟨users hex, keys hex, fun userId => ok_of_hexEncode (users _),
    fun key => ok_of_hexEncode (keys _)⟩

/-- A text with a plus sign is accepted, and one whose first pair ends inside
a character is a panic. -/
theorem parseUserId_of_plus :
    parseUserId "+f000000000000000000000000000000" =
        .ok (Block.ofBytes USER_ID_LEN [0x0F]) ∧
      ¬IsHexText (USER_ID_LEN * 2)
        (undashed "+f000000000000000000000000000000") ∧
      parseUserId "0é00000000000000000000000000000" = .error .panic := by
  refine ⟨by decide +kernel, ?_, by decide +kernel⟩
  intro digits
  exact ne_plus_of_isHexDigit (digits.2 '+' (by decide +kernel)) rfl

end Client
end GhostProtocol
