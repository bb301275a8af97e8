import GhostProtocol.Foundation.Bytes

/-!
# UTF-8 text

Strings are seen through their UTF-8 bytes where byte lengths and byte offsets
matter, and through their characters elsewhere.  Decoding, lossy decoding,
white space, substring search, hexadecimal formatting and the radix parser
with its sign syntax behave as in the Rust standard library.
-/

namespace Foundation
namespace Text

/-- UTF-8 bytes of a list of characters. -/
def charBytes (chars : List Char) : Bytes :=
  chars.flatMap String.utf8EncodeChar

/-- UTF-8 bytes of a string. -/
def utf8Bytes (text : String) : Bytes :=
  charBytes text.toList

/-- Strict decoding: the string with the given bytes, if they are valid. -/
def fromUtf8 (bytes : Bytes) : Option String :=
  String.fromUTF8? bytes.toByteArray

theorem toByteArray_utf8Bytes (text : String) :
    (utf8Bytes text).toByteArray = text.toByteArray := by
  rw [← String.utf8Encode_toList]
  rfl

/-- Strict decoding inverts encoding. -/
@[simp] theorem fromUtf8_utf8Bytes (text : String) :
    fromUtf8 (utf8Bytes text) = some text := by
  unfold fromUtf8
  rw [toByteArray_utf8Bytes, String.fromUTF8?, dif_pos text.isValidUTF8]
  rfl

/-- Strict decoding returns a string with exactly the given bytes. -/
theorem utf8Bytes_of_fromUtf8
    {bytes : Bytes}
    {text : String}
    (decoded : fromUtf8 bytes = some text) :
    utf8Bytes text = bytes := by
  unfold fromUtf8 String.fromUTF8? at decoded
  split_ifs at decoded with valid
  obtain rfl := Option.some.inj decoded
  exact List.toByteArray_inj.mp
    (toByteArray_utf8Bytes (String.fromUTF8 bytes.toByteArray valid))

@[simp] theorem charBytes_nil : charBytes [] = [] := rfl

@[simp] theorem charBytes_cons (char : Char) (chars : List Char) :
    charBytes (char :: chars) =
      String.utf8EncodeChar char ++ charBytes chars := rfl

@[simp] theorem charBytes_append (first second : List Char) :
    charBytes (first ++ second) = charBytes first ++ charBytes second :=
  List.flatMap_append

/-! ## Characters in the ASCII range -/

/-- Whether a character is in the ASCII range. -/
abbrev IsAscii (char : Char) : Prop :=
  char.toNat < 128

/-- A check of every character shows that a text is ASCII. -/
theorem ascii_of_all
    {chars : List Char}
    (all : (chars.all fun char => char.toNat < 128) = true) :
    ∀ char ∈ chars, IsAscii char :=
  fun char member => of_decide_eq_true (List.all_eq_true.mp all char member)

theorem utf8EncodeChar_of_ascii
    {char : Char}
    (ascii : IsAscii char) :
    String.utf8EncodeChar char = [UInt8.ofNat char.toNat] := by
  unfold String.utf8EncodeChar
  rw [if_pos (show char.val.toNat ≤ 0x7f from Nat.lt_succ_iff.mp ascii)]
  rfl

/-- ASCII text has one byte for each character. -/
theorem charBytes_of_ascii
    {chars : List Char}
    (ascii : ∀ char ∈ chars, IsAscii char) :
    charBytes chars = chars.map fun char => UInt8.ofNat char.toNat := by
  induction chars with
  | nil => rfl
  | cons char chars inductionHypothesis =>
      rw [charBytes_cons, utf8EncodeChar_of_ascii (ascii char List.mem_cons_self),
        inductionHypothesis fun other member =>
          ascii other (List.mem_cons_of_mem char member)]
      rfl

/-- A character outside the ASCII range has no byte in it. -/
theorem ascii_of_mem_utf8EncodeChar
    {char : Char}
    {byte : UInt8}
    (member : byte ∈ String.utf8EncodeChar char)
    (small : byte.toNat < 128) :
    IsAscii char := by
  by_contra large
  have above : ¬char.val.toNat ≤ 0x7f := fun le =>
    large (Nat.lt_succ_iff.mpr le)
  unfold String.utf8EncodeChar at member
  simp only [if_neg above] at member
  split_ifs at member <;>
    simp only [List.mem_cons, List.not_mem_nil, or_false] at member
  · rcases member with rfl | rfl <;>
      rw [UInt8.toNat_ofNat'] at small <;> omega
  · rcases member with rfl | rfl | rfl <;>
      rw [UInt8.toNat_ofNat'] at small <;> omega
  · rcases member with rfl | rfl | rfl | rfl <;>
      rw [UInt8.toNat_ofNat'] at small <;> omega

/-- Text whose bytes are all ASCII consists of ASCII characters. -/
theorem ascii_of_charBytes
    {chars : List Char}
    (small : ∀ byte ∈ charBytes chars, byte.toNat < 128) :
    ∀ char ∈ chars, IsAscii char := by
  intro char member
  obtain ⟨byte, byteMember⟩ : ∃ byte, byte ∈ String.utf8EncodeChar char := by
    refine List.exists_mem_of_ne_nil _ ?_
    unfold String.utf8EncodeChar
    dsimp only
    split_ifs <;> simp
  exact ascii_of_mem_utf8EncodeChar byteMember
    (small byte (List.mem_flatMap.mpr ⟨char, member, byteMember⟩))

/-! ## Lossy decoding -/

/-- The replacement character U+FFFD. -/
def replacement : Char := Char.ofNat 0xFFFD

/-- Whether a byte continues a multi-byte sequence. -/
def isContinuation (byte : UInt8) : Bool :=
  0x80 ≤ byte && byte ≤ 0xBF

/-- Whether `second` may follow the lead byte `lead` of a sequence of three or
four bytes. -/
def secondInRange (lead second : UInt8) : Bool :=
  if lead = 0xE0 then 0xA0 ≤ second && second ≤ 0xBF
  else if lead = 0xED then 0x80 ≤ second && second ≤ 0x9F
  else if lead = 0xF0 then 0x90 ≤ second && second ≤ 0xBF
  else if lead = 0xF4 then 0x80 ≤ second && second ≤ 0x8F
  else isContinuation second

/-- The payload bits of a lead byte with `modulus` values of payload. -/
def leadBits (byte : UInt8) (modulus : Nat) : Nat :=
  byte.toNat % modulus

/-- Decode one character after its lead byte.  An invalid sequence yields one
replacement character and is skipped as far as it was a prefix of a valid
one. -/
def lossyHead (lead : UInt8) (rest : Bytes) : Char × Bytes :=
  if lead < 0x80 then (Char.ofNat lead.toNat, rest)
  else if 0xC2 ≤ lead && lead ≤ 0xDF then
    match rest with
    | second :: tail =>
        if isContinuation second then
          (Char.ofNat (leadBits lead 32 * 64 + leadBits second 64), tail)
        else (replacement, rest)
    | [] => (replacement, rest)
  else if 0xE0 ≤ lead && lead ≤ 0xEF then
    match rest with
    | second :: third :: tail =>
        if secondInRange lead second then
          if isContinuation third then
            (Char.ofNat ((leadBits lead 16 * 64 + leadBits second 64) * 64 +
              leadBits third 64), tail)
          else (replacement, third :: tail)
        else (replacement, rest)
    | [second] =>
        if secondInRange lead second then (replacement, [])
        else (replacement, rest)
    | [] => (replacement, rest)
  else if 0xF0 ≤ lead && lead ≤ 0xF4 then
    match rest with
    | second :: third :: fourth :: tail =>
        if secondInRange lead second then
          if isContinuation third then
            if isContinuation fourth then
              (Char.ofNat (((leadBits lead 8 * 64 + leadBits second 64) * 64 +
                leadBits third 64) * 64 + leadBits fourth 64), tail)
            else (replacement, fourth :: tail)
          else (replacement, third :: fourth :: tail)
        else (replacement, rest)
    | [second, third] =>
        if secondInRange lead second then
          if isContinuation third then (replacement, [])
          else (replacement, [third])
        else (replacement, rest)
    | [second] =>
        if secondInRange lead second then (replacement, [])
        else (replacement, rest)
    | [] => (replacement, rest)
  else (replacement, rest)

/-- Lossy decoding of at most `fuel` characters. -/
def lossyChars : Nat → Bytes → List Char
  | 0, _ => []
  | _, [] => []
  | fuel + 1, lead :: rest =>
      (lossyHead lead rest).1 :: lossyChars fuel (lossyHead lead rest).2

/-- Decode every byte string, replacing invalid sequences.  Each character
takes at least one byte, so the byte length bounds their number. -/
def fromUtf8Lossy (bytes : Bytes) : List Char :=
  lossyChars bytes.length bytes

/-! ## White space and search -/

/-- The Unicode `White_Space` property. -/
def isWhitespace (char : Char) : Bool :=
  let code := char.toNat
  (0x09 ≤ code && code ≤ 0x0D) || code == 0x20 || code == 0x85 ||
    code == 0xA0 || code == 0x1680 || (0x2000 ≤ code && code ≤ 0x200A) ||
    code == 0x2028 || code == 0x2029 || code == 0x202F || code == 0x205F ||
    code == 0x3000

/-- The text after the first occurrence of `pattern`. -/
def afterFirst (pattern : List Char) : List Char → Option (List Char)
  | [] => if pattern = [] then some [] else none
  | char :: chars =>
      if pattern.isPrefixOf (char :: chars) then
        some ((char :: chars).drop pattern.length)
      else afterFirst pattern chars

/-- What `afterFirst` returns follows an occurrence of the pattern. -/
theorem eq_append_of_afterFirst
    {pattern text rest : List Char}
    (found : afterFirst pattern text = some rest) :
    ∃ before, text = before ++ pattern ++ rest := by
  induction text with
  | nil =>
      unfold afterFirst at found
      split_ifs at found with empty
      obtain rfl := Option.some.inj found
      exact ⟨[], by simp [empty]⟩
  | cons char chars inductionHypothesis =>
      unfold afterFirst at found
      split_ifs at found with here
      · obtain ⟨tail, equal⟩ := List.isPrefixOf_iff_prefix.mp here
        obtain rfl := Option.some.inj found
        refine ⟨[], ?_⟩
        rw [← equal, List.drop_left]
        rfl
      · obtain ⟨before, equal⟩ := inductionHypothesis found
        exact ⟨char :: before, by rw [equal]; rfl⟩

/-- A pattern in front of the text is its first occurrence. -/
theorem afterFirst_self_append
    {pattern : List Char}
    (nonempty : pattern ≠ [])
    (rest : List Char) :
    afterFirst pattern (pattern ++ rest) = some rest := by
  cases pattern with
  | nil => exact absurd rfl nonempty
  | cons char chars =>
      have here : (char :: chars).isPrefixOf (char :: (chars ++ rest)) = true :=
        List.isPrefixOf_iff_prefix.mpr (List.prefix_append (char :: chars) rest)
      rw [List.cons_append, afterFirst, if_pos here, ← List.cons_append,
        List.drop_left]

/-- A pattern in front of a piece of text that is followed by a character
foreign to the pattern stands inside the piece. -/
theorem isPrefix_of_foreign
    {pattern piece rest : List Char}
    {delimiter : Char}
    (foreign : delimiter ∉ pattern)
    (isPrefix : pattern <+: piece ++ delimiter :: rest) :
    pattern <+: piece := by
  have front : piece ++ [delimiter] <+: piece ++ delimiter :: rest :=
    ⟨rest, (List.append_cons piece delimiter rest).symm⟩
  rcases List.prefix_or_prefix_of_prefix isPrefix front with inside | around
  · rcases List.prefix_concat_iff.mp inside with whole | inPiece
    · rw [whole] at foreign
      exact absurd (List.mem_append_right piece List.mem_cons_self) foreign
    · exact inPiece
  · exact absurd (around.subset
      (List.mem_append_right piece List.mem_cons_self)) foreign

/-- No occurrence starts in a piece of text that does not contain the pattern
and is followed by a character foreign to the pattern. -/
theorem afterFirst_skip_of_not_infix
    {pattern piece : List Char}
    {delimiter : Char}
    (foreign : delimiter ∉ pattern)
    (absent : ¬pattern <:+: piece)
    (rest : List Char) :
    afterFirst pattern (piece ++ delimiter :: rest) =
      afterFirst pattern rest := by
  induction piece with
  | nil =>
      have notFirst : ¬pattern.isPrefixOf (delimiter :: rest) = true := by
        intro here
        have isPrefix : pattern <+: [] ++ delimiter :: rest :=
          List.isPrefixOf_iff_prefix.mp here
        exact absent (isPrefix_of_foreign foreign isPrefix).isInfix
      rw [List.nil_append, afterFirst, if_neg notFirst]
  | cons char chars inductionHypothesis =>
      have notFirst :
          ¬pattern.isPrefixOf (char :: (chars ++ delimiter :: rest)) = true := by
        intro here
        have isPrefix : pattern <+: (char :: chars) ++ delimiter :: rest :=
          List.isPrefixOf_iff_prefix.mp here
        exact absent (isPrefix_of_foreign foreign isPrefix).isInfix
      rw [List.cons_append, afterFirst, if_neg notFirst]
      exact inductionHypothesis fun inside =>
        absent (inside.trans (List.suffix_cons char chars).isInfix)

/-- No occurrence starts in a piece of text that lacks a character of the
pattern and is followed by a character foreign to the pattern. -/
theorem afterFirst_skip
    {pattern piece : List Char}
    {delimiter : Char}
    (foreign : delimiter ∉ pattern)
    (absent : ∃ char ∈ pattern, char ∉ piece)
    (rest : List Char) :
    afterFirst pattern (piece ++ delimiter :: rest) =
      afterFirst pattern rest := by
  obtain ⟨needed, inPattern, notInPiece⟩ := absent
  exact afterFirst_skip_of_not_infix foreign
    (fun inside => notInPiece (inside.subset inPattern)) rest

/-- More text after the first occurrence leaves it the first. -/
theorem afterFirst_append
    {pattern text rest : List Char}
    (found : afterFirst pattern text = some rest)
    (more : List Char) :
    afterFirst pattern (text ++ more) = some (rest ++ more) := by
  induction text with
  | nil =>
      unfold afterFirst at found
      split_ifs at found with empty
      obtain rfl := Option.some.inj found
      subst empty
      cases more with
      | nil => rfl
      | cons char chars => rfl
  | cons char chars inductionHypothesis =>
      unfold afterFirst at found
      split_ifs at found with here
      · obtain ⟨tail, equal⟩ := List.isPrefixOf_iff_prefix.mp here
        obtain rfl := Option.some.inj found
        have longer : pattern.isPrefixOf (char :: (chars ++ more)) = true := by
          rw [List.isPrefixOf_iff_prefix, ← List.cons_append, ← equal,
            List.append_assoc]
          exact List.prefix_append _ _
        rw [List.cons_append, afterFirst, if_pos longer, ← List.cons_append,
          ← equal, List.append_assoc, List.drop_left, List.drop_left]
      · obtain ⟨before, equal⟩ := eq_append_of_afterFirst found
        have notLonger : ¬pattern.isPrefixOf (char :: (chars ++ more)) = true := by
          intro longer
          apply here
          rw [List.isPrefixOf_iff_prefix] at longer ⊢
          refine List.prefix_of_prefix_length_le longer
            (List.prefix_append (char :: chars) more) ?_
          rw [equal, List.length_cons, List.length_append, List.length_append]
          omega
        rw [List.cons_append, afterFirst, if_neg notLonger]
        exact inductionHypothesis found

/-- The text with its leading white space removed. -/
def trimStart (text : List Char) : List Char :=
  text.dropWhile isWhitespace

/-! ## Hexadecimal text -/

/-- Two lower-case hexadecimal digits, as printed by `{:02x}`. -/
def hexByte (byte : UInt8) : List Char :=
  [Nat.digitChar (byte.toNat / 16), Nat.digitChar (byte.toNat % 16)]

/-- Lower-case hexadecimal text of a byte string. -/
def hexEncode (bytes : Bytes) : String :=
  String.ofList (bytes.flatMap hexByte)

/-- The reasons an integer parser gives for rejecting its input. -/
inductive IntErrorKind
  | empty
  | invalidDigit
  | posOverflow
  deriving DecidableEq, Repr

/-- The text of a parse error. -/
def IntErrorKind.message : IntErrorKind → String
  | .empty => "cannot parse integer from empty string"
  | .invalidDigit => "invalid digit found in string"
  | .posOverflow => "number too large to fit in target type"

/-- Value of a hexadecimal digit in either case. -/
def hexDigitValue (byte : UInt8) : Option Nat :=
  if 0x30 ≤ byte && byte ≤ 0x39 then some (byte.toNat - 0x30)
  else if 0x61 ≤ byte && byte ≤ 0x66 then some (byte.toNat - 0x61 + 10)
  else if 0x41 ≤ byte && byte ≤ 0x46 then some (byte.toNat - 0x41 + 10)
  else none

/-- Accumulate hexadecimal digits into an 8-bit value. -/
def u8FromHexDigits : Nat → Bytes → Except IntErrorKind UInt8
  | value, [] => .ok (UInt8.ofNat value)
  | value, byte :: rest =>
      match hexDigitValue byte with
      | none => .error .invalidDigit
      | some digit =>
          if value * 16 + digit < 256 then
            u8FromHexDigits (value * 16 + digit) rest
          else .error .posOverflow

/-- Parse an 8-bit value in radix 16.  One leading plus sign is allowed before
at least one digit. -/
def u8FromStrRadix16 : Bytes → Except IntErrorKind UInt8
  | [] => .error .empty
  | 0x2B :: byte :: rest => u8FromHexDigits 0 (byte :: rest)
  | [0x2B] => .error .invalidDigit
  | bytes => u8FromHexDigits 0 bytes

/-- Whether a byte offset lies between characters of UTF-8 text. -/
def isCharBoundary (bytes : Bytes) (offset : Nat) : Bool :=
  if offset = 0 then true
  else
    match bytes[offset]? with
    | none => offset = bytes.length
    | some byte => !isContinuation byte

/-- The slice of UTF-8 text between two byte offsets, or `none` where slicing
panics. -/
def slice (bytes : Bytes) (first last : Nat) : Option Bytes :=
  if first ≤ last && isCharBoundary bytes first &&
      isCharBoundary bytes last then
    some ((bytes.drop first).take (last - first))
  else none

/-- ASCII text can be sliced anywhere. -/
theorem slice_of_ascii
    {bytes : Bytes}
    (ascii : ∀ byte ∈ bytes, byte.toNat < 128)
    {first last : Nat}
    (ordered : first ≤ last)
    (fits : last ≤ bytes.length) :
    slice bytes first last = some ((bytes.drop first).take (last - first)) := by
  have boundary : ∀ offset ≤ bytes.length,
      isCharBoundary bytes offset = true := by
    intro offset inside
    unfold isCharBoundary
    split_ifs with zero
    · rfl
    · cases found : bytes[offset]? with
      | none =>
          have outside := List.getElem?_eq_none_iff.mp found
          exact decide_eq_true (le_antisymm inside outside)
      | some byte =>
          have small := ascii byte (List.mem_of_getElem? found)
          have notContinuation : isContinuation byte = false := by
            have below : ¬(0x80 : UInt8) ≤ byte := by
              rw [UInt8.le_iff_toNat_le]
              exact Nat.not_le.mpr small
            simp [isContinuation, below]
          simp [notContinuation]
  rw [slice, boundary first (ordered.trans fits), boundary last fits]
  simp [ordered]

/-- Whether a character is a hexadecimal digit, in either case. -/
def isHexDigit (char : Char) : Bool :=
  ('0' ≤ char && char ≤ '9') || ('a' ≤ char && char ≤ 'f') ||
    ('A' ≤ char && char ≤ 'F')

set_option maxRecDepth 8000 in
/-- The byte of a hexadecimal digit has a value as a digit. -/
theorem hexDigitValue_of_isHexDigit
    {char : Char}
    (digit : isHexDigit char = true) :
    IsAscii char ∧ char ≠ '-' ∧
      (hexDigitValue (UInt8.ofNat char.toNat)).isSome = true := by
  have all : ∀ value : Fin 128, isHexDigit (Char.ofNat value) = true →
      Char.ofNat value ≠ '-' ∧
        (hexDigitValue (UInt8.ofNat value)).isSome = true := by
    decide
  have ascii : IsAscii char := by
    simp only [isHexDigit, Bool.or_eq_true, Bool.and_eq_true,
      decide_eq_true_eq, Char.le_def, UInt32.le_iff_toNat_le] at digit
    rcases digit with (⟨_, upper⟩ | ⟨_, upper⟩) | ⟨_, upper⟩ <;>
      exact lt_of_le_of_lt upper (by decide)
  have holds := all ⟨char.toNat, ascii⟩
  rw [Char.ofNat_toNat] at holds
  exact ⟨ascii, holds digit⟩

end Text
end Foundation
