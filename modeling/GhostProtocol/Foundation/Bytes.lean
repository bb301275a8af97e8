import Mathlib.Data.Vector.Basic
import Mathlib.Data.List.Infix

/-!
# Byte strings and big-endian words

Byte strings are lists of octets and fixed-size arrays are length-indexed
vectors.  Words are big-endian; the codec of 16-bit words is an exact bijection
between words and pairs of octets.
-/

namespace Foundation

/-- A byte string. -/
abbrev Bytes := List UInt8

/-- An array of exactly `size` bytes. -/
abbrev Block (size : Nat) := List.Vector UInt8 size

@[simp] theorem Block.length_toList (block : Block size) :
    block.toList.length = size :=
  block.2

/-- The array of the first bytes of a buffer, with zeros beyond its end. -/
def Block.ofBytes (size : Nat) (bytes : Bytes) : Block size :=
  ⟨bytes.takeD size 0, List.takeD_length size bytes 0⟩

/-- An array is read back from its bytes. -/
@[simp] theorem Block.ofBytes_toList (block : Block size) :
    Block.ofBytes size block.toList = block := by
  apply Subtype.ext
  change block.toList.takeD size 0 = block.toList
  rw [List.takeD_eq_take 0 (Nat.le_of_eq (Block.length_toList block).symm)]
  exact List.take_of_length_le (Nat.le_of_eq (Block.length_toList block))

/-- Big-endian bytes of a 16-bit word. -/
def u16Be (value : UInt16) : Bytes :=
  [UInt8.ofNat (value.toNat / 256), UInt8.ofNat value.toNat]

/-- The 16-bit word with the given big-endian bytes. -/
def u16OfBe (high low : UInt8) : UInt16 :=
  UInt16.ofNat (high.toNat * 256 + low.toNat)

@[simp] theorem length_u16Be (value : UInt16) :
    (u16Be value).length = 2 := rfl

@[simp] theorem toNat_u16OfBe (high low : UInt8) :
    (u16OfBe high low).toNat = high.toNat * 256 + low.toNat := by
  have highBound := high.toNat_lt
  have lowBound := low.toNat_lt
  rw [u16OfBe, UInt16.toNat_ofNat']
  exact Nat.mod_eq_of_lt (by omega)

/-- Reading the two bytes of a word returns the word. -/
@[simp] theorem u16OfBe_u16Be (value : UInt16) :
    u16OfBe (UInt8.ofNat (value.toNat / 256)) (UInt8.ofNat value.toNat) =
      value := by
  have bound := value.toNat_lt
  apply UInt16.toNat.inj
  rw [toNat_u16OfBe, UInt8.toNat_ofNat', UInt8.toNat_ofNat']
  omega

/-- Writing the word read from two bytes returns the bytes. -/
@[simp] theorem u16Be_u16OfBe (high low : UInt8) :
    u16Be (u16OfBe high low) = [high, low] := by
  have highBound := high.toNat_lt
  have lowBound := low.toNat_lt
  have highEqual :
      UInt8.ofNat ((high.toNat * 256 + low.toNat) / 256) = high := by
    apply UInt8.toNat.inj
    rw [UInt8.toNat_ofNat']
    omega
  have lowEqual :
      UInt8.ofNat (high.toNat * 256 + low.toNat) = low := by
    apply UInt8.toNat.inj
    rw [UInt8.toNat_ofNat']
    omega
  rw [u16Be, toNat_u16OfBe, highEqual, lowEqual]

/-- The word stored big-endian at the front of a two-byte buffer. -/
def u16FromBuffer (buffer : Bytes) : UInt16 :=
  u16OfBe (buffer.getD 0 0) (buffer.getD 1 0)

@[simp] theorem u16FromBuffer_u16Be (value : UInt16) :
    u16FromBuffer (u16Be value) = value :=
  u16OfBe_u16Be value

/-- A two-byte buffer is the big-endian image of the word it stores. -/
theorem u16Be_u16FromBuffer
    (buffer : Bytes)
    (two : buffer.length = 2) :
    u16Be (u16FromBuffer buffer) = buffer := by
  match buffer, two with
  | [high, low], _ => exact u16Be_u16OfBe high low

/-- The 32-bit word with the given big-endian bytes. -/
def u32FromBlock (block : Block 4) : UInt32 :=
  UInt32.ofNat (block.toList.foldl (fun value byte => value * 256 + byte.toNat) 0)

/-- The word of four bytes determines them. -/
theorem u32FromBlock_injective : Function.Injective u32FromBlock := by
  rintro ⟨first, firstFour⟩ ⟨second, secondFour⟩ equal
  match first, firstFour, second, secondFour with
  | [a, b, c, d], _, [e, f, g, h], _ =>
      have words := congrArg UInt32.toNat equal
      simp only [u32FromBlock, List.Vector.toList, List.foldl_cons,
        List.foldl_nil, UInt32.toNat_ofNat'] at words
      have aSmall := a.toNat_lt
      have bSmall := b.toNat_lt
      have cSmall := c.toNat_lt
      have dSmall := d.toNat_lt
      have eSmall := e.toNat_lt
      have fSmall := f.toNat_lt
      have gSmall := g.toNat_lt
      have hSmall := h.toNat_lt
      obtain rfl : a = e := UInt8.toNat_inj.mp (by omega)
      obtain rfl : b = f := UInt8.toNat_inj.mp (by omega)
      obtain rfl : c = g := UInt8.toNat_inj.mp (by omega)
      obtain rfl : d = h := UInt8.toNat_inj.mp (by omega)
      rfl

/-- A length below `2^16` survives the cast to a 16-bit word. -/
theorem toNat_ofNat_length
    (length : Nat)
    (bound : length < 65536) :
    (UInt16.ofNat length).toNat = length := by
  rw [UInt16.toNat_ofNat']
  exact Nat.mod_eq_of_lt bound

/-- A length below `2^8` survives the cast to a byte. -/
theorem toNat_ofNat_length_u8
    {length : Nat}
    (bound : length ≤ 255) :
    (UInt8.ofNat length).toNat = length :=
  UInt8.toNat_ofNat_of_lt (Nat.lt_succ_of_le bound)

/-- A list of at least two elements starts with two of them. -/
theorem exists_cons_cons
    {α : Type}
    {list : List α}
    (long : 2 ≤ list.length) :
    ∃ first second rest, list = first :: second :: rest := by
  obtain ⟨first, others, rfl⟩ :=
    List.length_pos_iff_exists_cons.mp (Nat.lt_of_lt_of_le Nat.two_pos long)
  rw [List.length_cons] at long
  obtain ⟨second, rest, rfl⟩ :=
    List.length_pos_iff_exists_cons.mp (Nat.le_of_succ_le_succ long)
  exact ⟨first, second, rest, rfl⟩

end Foundation
