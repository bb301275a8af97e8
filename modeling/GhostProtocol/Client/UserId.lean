import GhostProtocol.Common.Config
import GhostProtocol.Common.Error

/-!
# User ids in text form

The client reads its user id from text: dashes are dropped, 32 bytes must
remain, and each pair of them is parsed as an 8-bit number in radix 16.  That
parser also takes upper-case digits and a plus sign in front of one digit, so
an id has several spellings; the hexadecimal text of the parsed bytes is the
canonical one.
-/

namespace GhostProtocol
namespace Client

open Foundation Common

/-- Lower-case hexadecimal text. -/
def hexEncode (data : Bytes) : String :=
  Text.hexEncode data

/-- Parse the pair of bytes at position `index`; `describe` is the error for a
pair that does not parse. -/
def parseHexPair
    (describe : Nat → Text.IntErrorKind → AnyError)
    (hex : Bytes)
    (index : Nat) : Outcome AnyError UInt8 :=
  match Text.slice hex (index * 2) (index * 2 + 2) with
  | none => .error .panic
  | some digits =>
      match Text.u8FromStrRadix16 digits with
      | .ok byte => .ok byte
      | .error kind => .error (.error (describe index kind))

/-- Parse `count` pairs from position `index` on. -/
def parseHexPairs
    (describe : Nat → Text.IntErrorKind → AnyError)
    (hex : Bytes) : (count index : Nat) → Outcome AnyError (Block count)
  | 0, _ => .ok .nil
  | count + 1, index => do
      let byte ← parseHexPair describe hex index
      let rest ← parseHexPairs describe hex count (index + 1)
      return byte ::ᵥ rest

/-- The text without its dashes, as UTF-8 bytes. -/
def withoutDashes (hex : String) : Bytes :=
  Text.charBytes (hex.toList.filter (· ≠ '-'))

/-- Parse the text of a user id. -/
def parseUserId (hex : String) : Outcome AnyError UserId :=
  let hex := withoutDashes hex
  if hex.length ≠ 32 then
    .error (.error (.message
      ("User ID must be 32 hex characters, got " ++ toString hex.length)))
  else
    parseHexPairs (fun index kind =>
      .context ("Invalid hex in user ID at position " ++ toString index)
        (.message kind.message)) hex USER_ID_LEN 0

/-- Parse the text of a 32-byte key. -/
def parseHex32 (hex : String) : Outcome AnyError (Block 32) :=
  let hex := withoutDashes hex
  if hex.length ≠ 64 then
    .error (.error (.message
      ("Expected 64 hex chars, got " ++ toString hex.length)))
  else parseHexPairs (fun _ kind => .message kind.message) hex 32 0

/-! ## Spellings of an id -/

/-- The canonical form of a character of an id: a leading plus sign stands for
the digit zero, and digits are in lower case. -/
def canonicalChar (char : Char) : Char :=
  if char = '+' then '0' else char.toLower

/-- The canonical spelling of an id. -/
def canonicalSpelling (hex : String) : String :=
  String.ofList ((hex.toList.filter (· ≠ '-')).map canonicalChar)

/-- The canonical form of a byte of ASCII text. -/
def canonicalByte (byte : UInt8) : Char :=
  canonicalChar (Char.ofNat byte.toNat)

set_option maxRecDepth 8000 in
/-- A digit is the canonical form of its byte, which is ASCII. -/
theorem digitChar_of_hexDigitValue
    {byte : UInt8}
    {digit : Nat}
    (parsed : Text.hexDigitValue byte = some digit) :
    digit < 16 ∧ byte.toNat < 128 ∧
      Nat.digitChar digit = canonicalByte byte := by
  have all : ∀ value : Fin 256,
      ∀ digit ∈ Text.hexDigitValue (UInt8.ofNat value),
        digit < 16 ∧ (UInt8.ofNat value).toNat < 128 ∧
          Nat.digitChar digit = canonicalByte (UInt8.ofNat value) := by
    decide
  have holds := all ⟨byte.toNat, byte.toNat_lt⟩
  rw [UInt8.ofNat_toNat] at holds
  exact holds digit parsed

/-- A byte is printed as the digits of its value. -/
theorem hexByte_ofNat
    {high low : Nat}
    (highDigit : high < 16)
    (lowDigit : low < 16) :
    Text.hexByte (UInt8.ofNat (high * 16 + low)) =
      [Nat.digitChar high, Nat.digitChar low] := by
  have toNat : (UInt8.ofNat (high * 16 + low)).toNat = high * 16 + low := by
    rw [UInt8.toNat_ofNat']
    exact Nat.mod_eq_of_lt (by omega)
  have quotient : (high * 16 + low) / 16 = high := by omega
  have remainder : (high * 16 + low) % 16 = low := by omega
  rw [Text.hexByte, toNat, quotient, remainder]

/-- A pair that starts with no plus sign is parsed digit by digit. -/
theorem u8FromStrRadix16_pair
    {first : UInt8}
    (notPlus : first ≠ 0x2B)
    (second : UInt8) :
    Text.u8FromStrRadix16 [first, second] =
      Text.u8FromHexDigits 0 [first, second] := by
  unfold Text.u8FromStrRadix16
  split
  · rename_i equal
    exact absurd equal (List.cons_ne_nil _ _)
  · rename_i equal
    exact absurd (List.cons.inj equal).1 notPlus
  · rename_i equal
    exact absurd (List.cons.inj equal).1 notPlus
  · rfl

/-- A parsed pair is printed in its canonical form, and is ASCII. -/
theorem hexByte_of_u8FromStrRadix16
    {first second byte : UInt8}
    (parsed : Text.u8FromStrRadix16 [first, second] = .ok byte) :
    Text.hexByte byte = [canonicalByte first, canonicalByte second] ∧
      first.toNat < 128 ∧ second.toNat < 128 := by
  by_cases plus : first = 0x2B
  · subst plus
    change Text.u8FromHexDigits 0 [second] = .ok byte at parsed
    unfold Text.u8FromHexDigits at parsed
    split at parsed
    · cases parsed
    · rename_i digit digitEq
      obtain ⟨small, ascii, printed⟩ := digitChar_of_hexDigitValue digitEq
      rw [if_pos (by omega)] at parsed
      obtain rfl := Except.ok.inj parsed
      rw [hexByte_ofNat (by omega) small, printed]
      exact ⟨rfl, by decide, ascii⟩
  · rw [u8FromStrRadix16_pair plus] at parsed
    unfold Text.u8FromHexDigits at parsed
    split at parsed
    · cases parsed
    · rename_i high highEq
      obtain ⟨highSmall, highAscii, highPrinted⟩ :=
        digitChar_of_hexDigitValue highEq
      rw [if_pos (by omega)] at parsed
      unfold Text.u8FromHexDigits at parsed
      split at parsed
      · cases parsed
      · rename_i low lowEq
        obtain ⟨lowSmall, lowAscii, lowPrinted⟩ :=
          digitChar_of_hexDigitValue lowEq
        rw [if_pos (by omega), Nat.zero_mul, Nat.zero_add] at parsed
        obtain rfl := Except.ok.inj parsed
        rw [hexByte_ofNat highSmall lowSmall, highPrinted, lowPrinted]
        exact ⟨rfl, highAscii, lowAscii⟩

/-- An accepted pair consists of two bytes that parse. -/
theorem parsed_digits
    {describe : Nat → Text.IntErrorKind → AnyError}
    {hex : Bytes}
    {index : Nat}
    {byte : UInt8}
    (parsed : parseHexPair describe hex index = .ok byte) :
    Text.u8FromStrRadix16 ((hex.drop (index * 2)).take 2) = .ok byte := by
  unfold parseHexPair at parsed
  split at parsed
  · cases parsed
  · rename_i digits sliced
    unfold Text.slice at sliced
    split_ifs at sliced
    obtain rfl := Option.some.inj sliced
    rw [Nat.add_sub_cancel_left] at parsed
    split at parsed
    · rename_i value ok
      rw [ok, Except.ok.inj parsed]
    · cases parsed

/-- A pair stands in front of those behind it. -/
theorem exists_pair
    {hex : Bytes}
    {count index : Nat}
    (enough : (index + (count + 1)) * 2 ≤ hex.length) :
    ∃ first second tail, hex.drop (index * 2) = first :: second :: tail := by
  have long : 2 ≤ (hex.drop (index * 2)).length := by
    rw [List.length_drop]
    omega
  match hex.drop (index * 2), long with
  | first :: second :: tail, _ => exact ⟨first, second, tail, rfl⟩

/-- The pairs of an accepted id are printed as the canonical form of its
bytes, which are ASCII. -/
theorem flatMap_hexByte_of_parseHexPairs
    {describe : Nat → Text.IntErrorKind → AnyError}
    {hex : Bytes}
    {count index : Nat}
    {block : Block count}
    (enough : (index + count) * 2 ≤ hex.length)
    (parsed : parseHexPairs describe hex count index = .ok block) :
    block.toList.flatMap Text.hexByte =
        ((hex.drop (index * 2)).take (count * 2)).map canonicalByte ∧
      ∀ byte ∈ (hex.drop (index * 2)).take (count * 2), byte.toNat < 128 := by
  induction count generalizing index with
  | zero =>
      obtain rfl := Except.ok.inj parsed
      simp
  | succ count inductionHypothesis =>
      obtain ⟨first, second, tail, front⟩ := exists_pair enough
      have back : hex.drop ((index + 1) * 2) = tail := by
        rw [show (index + 1) * 2 = index * 2 + 2 by omega, ← List.drop_drop,
          front]
        rfl
      rw [parseHexPairs] at parsed
      cases pair : parseHexPair describe hex index with
      | error fault =>
          rw [pair] at parsed
          cases parsed
      | ok byte =>
          cases others : parseHexPairs describe hex count (index + 1) with
          | error fault =>
              rw [pair, others] at parsed
              cases parsed
          | ok rest =>
              rw [pair, others] at parsed
              obtain rfl := Except.ok.inj parsed
              have digits := parsed_digits pair
              rw [front] at digits
              obtain ⟨printed, firstAscii, secondAscii⟩ :=
                hexByte_of_u8FromStrRadix16 digits
              obtain ⟨restPrinted, restAscii⟩ :=
                inductionHypothesis (by omega) others
              rw [back] at restPrinted restAscii
              have bytes : (hex.drop (index * 2)).take ((count + 1) * 2) =
                  first :: second :: tail.take (count * 2) := by
                rw [front, show (count + 1) * 2 = count * 2 + 1 + 1 by omega]
                rfl
              rw [bytes]
              constructor
              · rw [List.Vector.toList_cons, List.flatMap_cons, printed,
                  restPrinted]
                rfl
              · intro other member
                rcases List.mem_cons.mp member with rfl | member
                · exact firstAscii
                · rcases List.mem_cons.mp member with rfl | member
                  · exact secondAscii
                  · exact restAscii other member

/-- The hexadecimal text of a parsed id is the canonical spelling of the text
it was parsed from. -/
theorem hexEncode_of_parseUserId
    {hex : String}
    {userId : UserId}
    (parsed : parseUserId hex = .ok userId) :
    hexEncode userId.toList = canonicalSpelling hex := by
  unfold parseUserId at parsed
  simp only at parsed
  split_ifs at parsed with length
  have length : (withoutDashes hex).length = 32 := not_not.mp length
  obtain ⟨printed, ascii⟩ :=
    flatMap_hexByte_of_parseHexPairs (by rw [length]; decide) parsed
  have whole : ((withoutDashes hex).drop (0 * 2)).take (USER_ID_LEN * 2) =
      withoutDashes hex :=
    List.take_of_length_le (Nat.le_of_eq length)
  rw [whole] at printed ascii
  have charsAscii : ∀ char ∈ hex.toList.filter (· ≠ '-'), Text.IsAscii char :=
    Text.ascii_of_charBytes ascii
  rw [hexEncode, Text.hexEncode, printed, canonicalSpelling, withoutDashes,
    Text.charBytes_of_ascii charsAscii, List.map_map]
  congr 1
  apply List.map_congr_left
  intro char member
  have small := charsAscii char member
  rw [Function.comp_apply, canonicalByte, UInt8.toNat_ofNat',
    Nat.mod_eq_of_lt (lt_trans small (by omega)), Char.ofNat_toNat]

/-! ## Hexadecimal keys -/

/-- Whether a text is a key of 64 hexadecimal digits. -/
def IsHexKey (key : String) : Prop :=
  key.toList.length = 64 ∧ ∀ char ∈ key.toList, Text.isHexDigit char = true

/-- Two hexadecimal digits parse. -/
theorem u8FromStrRadix16_of_digits
    {first second : UInt8}
    (firstDigit : (Text.hexDigitValue first).isSome = true)
    (secondDigit : (Text.hexDigitValue second).isSome = true) :
    ∃ byte, Text.u8FromStrRadix16 [first, second] = .ok byte := by
  obtain ⟨high, highEq⟩ := Option.isSome_iff_exists.mp firstDigit
  obtain ⟨low, lowEq⟩ := Option.isSome_iff_exists.mp secondDigit
  obtain ⟨highSmall, _, _⟩ := digitChar_of_hexDigitValue highEq
  obtain ⟨lowSmall, _, _⟩ := digitChar_of_hexDigitValue lowEq
  have notPlus : first ≠ 0x2B := by
    rintro rfl
    cases highEq
  refine ⟨UInt8.ofNat ((0 * 16 + high) * 16 + low), ?_⟩
  rw [u8FromStrRadix16_pair notPlus]
  simp only [Text.u8FromHexDigits, highEq, lowEq]
  rw [if_pos (by omega), if_pos (by omega)]

/-- Enough hexadecimal digits parse as pairs. -/
theorem parseHexPairs_of_digits
    (describe : Nat → Text.IntErrorKind → AnyError)
    {hex : Bytes}
    (digits : ∀ byte ∈ hex, (Text.hexDigitValue byte).isSome = true)
    {count index : Nat}
    (enough : (index + count) * 2 ≤ hex.length) :
    ∃ block, parseHexPairs describe hex count index = .ok block := by
  have ascii : ∀ byte ∈ hex, byte.toNat < 128 := by
    intro byte member
    obtain ⟨digit, digitEq⟩ := Option.isSome_iff_exists.mp (digits byte member)
    exact (digitChar_of_hexDigitValue digitEq).2.1
  induction count generalizing index with
  | zero => exact ⟨.nil, rfl⟩
  | succ count inductionHypothesis =>
      obtain ⟨first, second, tail, front⟩ := exists_pair enough
      have members : first ∈ hex ∧ second ∈ hex := by
        have inside : ∀ byte ∈ first :: second :: tail, byte ∈ hex := by
          rw [← front]
          exact fun byte => List.mem_of_mem_drop
        exact ⟨inside first (by simp), inside second (by simp)⟩
      obtain ⟨byte, parsed⟩ := u8FromStrRadix16_of_digits
        (digits first members.1) (digits second members.2)
      have sliced : Text.slice hex (index * 2) (index * 2 + 2) =
          some [first, second] := by
        rw [Text.slice_of_ascii ascii (by omega) (by omega), front,
          Nat.add_sub_cancel_left]
        rfl
      have pair : parseHexPair describe hex index = .ok byte := by
        rw [parseHexPair, sliced]
        simp only [parsed]
      obtain ⟨rest, others⟩ := inductionHypothesis
        (show (index + 1 + count) * 2 ≤ hex.length by omega)
      exact ⟨byte ::ᵥ rest, by rw [parseHexPairs, pair, others]; rfl⟩

/-- The default key is hexadecimal. -/
theorem isHexKey_default : IsHexKey ServerConfig.default.realityAuthKey :=
  ⟨by decide +kernel, List.all_eq_true.mp (by decide +kernel)⟩

/-- A hexadecimal key parses. -/
theorem parseHex32_of_isHexKey
    {key : String}
    (isKey : IsHexKey key) :
    ∃ block, parseHex32 key = .ok block := by
  obtain ⟨length, digits⟩ := isKey
  have noDash : key.toList.filter (· ≠ '-') = key.toList := by
    rw [List.filter_eq_self]
    intro char member
    exact decide_eq_true
      (Text.hexDigitValue_of_isHexDigit (digits char member)).2.1
  have bytes : withoutDashes key =
      key.toList.map fun char => UInt8.ofNat char.toNat := by
    rw [withoutDashes, noDash]
    exact Text.charBytes_of_ascii fun char member =>
      (Text.hexDigitValue_of_isHexDigit (digits char member)).1
  have long : (withoutDashes key).length = 64 := by
    rw [bytes, List.length_map, length]
  unfold parseHex32
  simp only [long, ne_eq, not_true_eq_false, if_false]
  refine parseHexPairs_of_digits _ ?_ (by rw [long])
  intro byte member
  rw [bytes] at member
  obtain ⟨char, charMember, rfl⟩ := List.mem_map.mp member
  exact (Text.hexDigitValue_of_isHexDigit (digits char charMember)).2.2

end Client
end GhostProtocol
