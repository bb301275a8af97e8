import GhostProtocol.Foundation.Bytes
import Mathlib.Control.Monad.Basic

/-!
# Decoders over a byte buffer

A decoder consumes bytes from the front of a buffer.  Reading past the end of
the buffer is a panic, which is kept apart from an error value the decoder
returns, so that "never panics" is a statement about the model.
-/

namespace Foundation

/-- How a computation stops early: with an error value it returns, or by a
panic. -/
inductive Fault (ε : Type*)
  | error (value : ε)
  | panic
  deriving DecidableEq, Repr

/-- A result, a returned error or a panic. -/
abbrev Outcome (ε α : Type*) := Except (Fault ε) α

/-- The computation returns: a value, or an error value. -/
def Outcome.Returns {ε α : Type*} (outcome : Outcome ε α) : Prop :=
  (∃ value, outcome = .ok value) ∨ ∃ error, outcome = .error (.error error)

/-- A computation returns if it does not panic. -/
theorem Outcome.returns_of_ne_panic
    {ε α : Type*}
    {outcome : Outcome ε α}
    (noPanic : outcome ≠ .error .panic) :
    outcome.Returns := by
  cases outcome with
  | ok value => exact .inl ⟨value, rfl⟩
  | error fault =>
      cases fault with
      | error error => exact .inr ⟨error, rfl⟩
      | panic => exact absurd rfl noPanic

/-- A mapped outcome fails as the outcome does. -/
theorem Outcome.map_eq_error
    {ε α β : Type*}
    {change : α → β}
    {outcome : Outcome ε α}
    {fault : Fault ε} :
    outcome.map change = .error fault ↔ outcome = .error fault := by
  cases outcome with
  | error other =>
      constructor
      · intro failed
        exact congrArg Except.error (Except.error.inj failed)
      · intro failed
        exact congrArg Except.error (Except.error.inj failed)
  | ok value =>
      constructor
      · intro failed
        cases failed
      · intro failed
        cases failed

/-- A mapped outcome succeeds with the image of a value. -/
theorem Outcome.map_eq_ok
    {ε α β : Type*}
    {change : α → β}
    {outcome : Outcome ε α}
    {result : β} :
    outcome.map change = .ok result ↔
      ∃ value, outcome = .ok value ∧ change value = result := by
  cases outcome with
  | error fault =>
      constructor
      · intro succeeded
        cases succeeded
      · rintro ⟨value, succeeded, -⟩
        cases succeeded
  | ok value =>
      constructor
      · intro succeeded
        exact ⟨value, rfl, Except.ok.inj succeeded⟩
      · rintro ⟨other, succeeded, rfl⟩
        obtain rfl := Except.ok.inj succeeded
        rfl

/-- A computation over the unread part of a byte buffer. -/
abbrev Decoder (ε α : Type) := StateT Bytes (Except (Fault ε)) α

namespace Decoder

variable {ε α β : Type}

/-- Return the error `value`. -/
def failWith (value : ε) : Decoder ε α :=
  fun _ => .error (.error value)

/-- Number of unread bytes. -/
def remaining : Decoder ε Nat :=
  fun buffer => .ok (buffer.length, buffer)

/-- Take one byte. -/
def getU8 : Decoder ε UInt8
  | [] => .error .panic
  | byte :: rest => .ok (byte, rest)

/-- Take a big-endian 16-bit word. -/
def getU16 : Decoder ε UInt16
  | high :: low :: rest => .ok (u16OfBe high low, rest)
  | _ => .error .panic

/-- Take `count` bytes. -/
def copyToBytes (count : Nat) : Decoder ε Bytes :=
  fun buffer =>
    if count ≤ buffer.length then
      .ok (buffer.take count, buffer.drop count)
    else .error .panic

/-- Take an array of `size` bytes. -/
def copyToBlock (size : Nat) : Decoder ε (Block size) :=
  fun buffer =>
    if enough : size ≤ buffer.length then
      .ok (⟨buffer.take size, List.length_take_of_le enough⟩,
        buffer.drop size)
    else .error .panic

/-- Turn bytes into an array of `size` bytes, which panics for another number
of them. -/
def intoBlock (size : Nat) (bytes : Bytes) : Decoder ε (Block size) :=
  fun buffer =>
    if whole : bytes.length = size then .ok (⟨bytes, whole⟩, buffer)
    else .error .panic

/-- A sequence continues on the rest of the buffer, unless its first part
fails. -/
theorem run_bind
    (first : Decoder ε α)
    (next : α → Decoder ε β)
    (buffer : Bytes) :
    (first >>= next) buffer =
      match first buffer with
      | .ok (value, rest) => next value rest
      | .error fault => .error fault := by
  change (first buffer >>= fun pair => next pair.1 pair.2) = _
  cases first buffer with
  | error fault => rfl
  | ok pair => rfl

theorem run_map
    (change : α → β)
    (first : Decoder ε α)
    (buffer : Bytes) :
    (change <$> first) buffer =
      match first buffer with
      | .ok (value, rest) => .ok (change value, rest)
      | .error fault => .error fault := by
  rw [map_eq_bind_pure_comp, run_bind]
  rfl

theorem run_bind_ok
    {first : Decoder ε α}
    {next : α → Decoder ε β}
    {buffer rest : Bytes}
    {value : α}
    (decoded : first buffer = .ok (value, rest)) :
    (first >>= next) buffer = next value rest := by
  rw [run_bind, decoded]

/-- A decoder sequence succeeds exactly when its parts do. -/
theorem run_bind_eq_ok
    (first : Decoder ε α)
    (next : α → Decoder ε β)
    (buffer rest : Bytes)
    (value : β) :
    (first >>= next) buffer = .ok (value, rest) ↔
      ∃ middle bytes, first buffer = .ok (middle, bytes) ∧
        next middle bytes = .ok (value, rest) := by
  rw [run_bind]
  cases decoded : first buffer with
  | error fault => simp
  | ok pair =>
      obtain ⟨middle, bytes⟩ := pair
      simp

/-- Taking an array is taking its bytes and turning them into an array. -/
theorem copyToBlock_eq (size : Nat) :
    (copyToBlock size : Decoder ε (Block size)) =
      copyToBytes size >>= intoBlock size := by
  funext buffer
  rw [run_bind, copyToBlock, copyToBytes]
  split_ifs with enough
  · dsimp only
    rw [intoBlock, dif_pos (List.length_take_of_le enough)]
  · rfl

@[simp] theorem run_pure
    (value : α)
    (buffer : Bytes) :
    (pure value : Decoder ε α) buffer = .ok (value, buffer) := rfl

@[simp] theorem run_failWith
    (value : ε)
    (buffer : Bytes) :
    (failWith value : Decoder ε α) buffer = .error (.error value) := rfl

@[simp] theorem run_remaining
    (buffer : Bytes) :
    (remaining : Decoder ε Nat) buffer = .ok (buffer.length, buffer) := rfl

/-- A length check passes when enough bytes are left. -/
theorem run_require
    {count : Nat}
    {fault : Nat → ε}
    {next : Decoder ε α}
    {buffer : Bytes}
    (enough : count ≤ buffer.length) :
    ((remaining : Decoder ε Nat) >>= fun available =>
        if available < count then failWith (fault available) else next) buffer =
      next buffer := by
  rw [run_bind_ok (run_remaining buffer), if_neg (Nat.not_lt.mpr enough)]

@[simp] theorem run_getU8_cons
    (byte : UInt8)
    (rest : Bytes) :
    (getU8 : Decoder ε UInt8) (byte :: rest) = .ok (byte, rest) := rfl

@[simp] theorem run_getU16_u16Be
    (value : UInt16)
    (rest : Bytes) :
    (getU16 : Decoder ε UInt16) (u16Be value ++ rest) = .ok (value, rest) := by
  change Except.ok (u16OfBe _ _, rest) = _
  rw [u16OfBe_u16Be]

@[simp] theorem run_copyToBytes_append
    (bytes rest : Bytes) :
    (copyToBytes bytes.length : Decoder ε Bytes) (bytes ++ rest) =
      .ok (bytes, rest) := by
  simp [copyToBytes]

@[simp] theorem run_copyToBlock_append
    (block : Block size)
    (rest : Bytes) :
    (copyToBlock size : Decoder ε (Block size)) (block.toList ++ rest) =
      .ok (block, rest) := by
  obtain ⟨bytes, rfl⟩ := block
  simp [copyToBlock, List.Vector.toList]

/-! ## What a successful read says about the buffer -/

/-- A length check that passes leaves the buffer to what follows it. -/
theorem run_require_eq_ok
    {count : Nat}
    {fault : Nat → ε}
    {next : Decoder ε α}
    {buffer rest : Bytes}
    {value : α} :
    ((remaining : Decoder ε Nat) >>= fun available =>
        if available < count then failWith (fault available) else next) buffer =
        .ok (value, rest) ↔
      count ≤ buffer.length ∧ next buffer = .ok (value, rest) := by
  rw [run_bind_ok (run_remaining buffer)]
  split_ifs with short
  · rw [run_failWith]
    constructor
    · intro failed
      cases failed
    · intro enough
      omega
  · exact ⟨fun decoded => ⟨Nat.not_lt.mp short, decoded⟩, fun both => both.2⟩

/-- The byte taken was in front. -/
theorem getU8_eq_ok
    {buffer rest : Bytes}
    {byte : UInt8} :
    (getU8 : Decoder ε UInt8) buffer = .ok (byte, rest) ↔
      buffer = byte :: rest := by
  cases buffer with
  | nil =>
      constructor
      · intro failed
        cases failed
      · intro equal
        cases equal
  | cons first others =>
      rw [run_getU8_cons, Except.ok.injEq, Prod.mk.injEq, List.cons.injEq]

/-- The two bytes of the word taken were in front. -/
theorem getU16_eq_ok
    {buffer rest : Bytes}
    {word : UInt16} :
    (getU16 : Decoder ε UInt16) buffer = .ok (word, rest) ↔
      buffer = u16Be word ++ rest := by
  constructor
  · intro decoded
    match buffer, decoded with
    | high :: low :: others, decoded =>
        obtain ⟨rfl, rfl⟩ := Prod.mk.inj (Except.ok.inj decoded)
        rw [u16Be_u16OfBe]
        rfl
  · rintro rfl
    exact run_getU16_u16Be word rest

/-- The bytes taken were in front, as many as asked for. -/
theorem copyToBytes_eq_ok
    {count : Nat}
    {buffer rest bytes : Bytes} :
    (copyToBytes count : Decoder ε Bytes) buffer = .ok (bytes, rest) ↔
      bytes.length = count ∧ buffer = bytes ++ rest := by
  constructor
  · intro decoded
    unfold copyToBytes at decoded
    split_ifs at decoded with enough
    obtain ⟨rfl, rfl⟩ := Prod.mk.inj (Except.ok.inj decoded)
    exact ⟨List.length_take_of_le enough,
      (List.take_append_drop count buffer).symm⟩
  · rintro ⟨rfl, rfl⟩
    exact run_copyToBytes_append bytes rest

/-- The array taken was in front. -/
theorem copyToBlock_eq_ok
    {size : Nat}
    {buffer rest : Bytes}
    {block : Block size} :
    (copyToBlock size : Decoder ε (Block size)) buffer = .ok (block, rest) ↔
      buffer = block.toList ++ rest := by
  constructor
  · intro decoded
    unfold copyToBlock at decoded
    split_ifs at decoded with enough
    obtain ⟨rfl, rfl⟩ := Prod.mk.inj (Except.ok.inj decoded)
    exact (List.take_append_drop size buffer).symm
  · rintro rfl
    exact run_copyToBlock_append block rest

/-! ## Decoders that never panic -/

/-- On a buffer of at least `need` bytes the decoder does not panic. -/
def Safe (need : Nat) (decoder : Decoder ε α) : Prop :=
  ∀ buffer : Bytes, need ≤ buffer.length → decoder buffer ≠ .error .panic

theorem Safe.mono
    {less more : Nat}
    {decoder : Decoder ε α}
    (safe : Safe less decoder)
    (le : less ≤ more) :
    Safe more decoder :=
  fun buffer enough => safe buffer (le_trans le enough)

theorem safe_pure (value : α) : Safe 0 (pure value : Decoder ε α) := by
  intro buffer enough panicked
  cases panicked

theorem safe_failWith (value : ε) : Safe 0 (failWith value : Decoder ε α) := by
  intro buffer enough panicked
  cases panicked

/-- A sequence is safe when its parts are. -/
theorem safe_bind
    {need : Nat}
    {first : Decoder ε α}
    {next : α → Decoder ε β}
    (safe : Safe need first)
    (continues : ∀ value, Safe 0 (next value)) :
    Safe need (first >>= next) := by
  intro buffer enough
  rw [run_bind]
  cases decoded : first buffer with
  | error fault =>
      intro panicked
      rw [Except.error.inj panicked] at decoded
      exact safe buffer enough decoded
  | ok pair => exact continues pair.1 pair.2 (Nat.zero_le _)

/-- After a length check, that many bytes may be taken. -/
theorem safe_require
    {count : Nat}
    {fault : Nat → ε}
    {next : Decoder ε α}
    (safe : Safe count next) :
    Safe 0 ((remaining : Decoder ε Nat) >>= fun available =>
      if available < count then failWith (fault available) else next) := by
  intro buffer _
  rw [run_bind_ok (run_remaining buffer)]
  split_ifs with short
  · exact safe_failWith _ buffer (Nat.zero_le _)
  · exact safe buffer (Nat.not_lt.mp short)

theorem safe_getU8
    {need : Nat}
    {next : UInt8 → Decoder ε α}
    (safe : ∀ byte, Safe need (next byte)) :
    Safe (need + 1) (getU8 >>= next) := by
  intro buffer enough
  match buffer, enough with
  | byte :: rest, enough =>
      rw [run_bind_ok (run_getU8_cons byte rest)]
      exact safe byte rest (Nat.le_of_succ_le_succ enough)

theorem safe_getU16
    {need : Nat}
    {next : UInt16 → Decoder ε α}
    (safe : ∀ word, Safe need (next word)) :
    Safe (need + 2) (getU16 >>= next) := by
  intro buffer enough
  match buffer, enough with
  | high :: low :: rest, enough =>
      rw [run_bind]
      exact safe (u16OfBe high low) rest
        (Nat.le_of_succ_le_succ (Nat.le_of_succ_le_succ enough))

theorem safe_copyToBytes
    {need count : Nat}
    {next : Bytes → Decoder ε α}
    (safe : ∀ bytes, Safe need (next bytes)) :
    Safe (count + need) (copyToBytes count >>= next) := by
  intro buffer enough
  rw [run_bind, copyToBytes, if_pos (by omega)]
  refine safe (buffer.take count) (buffer.drop count) ?_
  rw [List.length_drop]
  omega

/-- Bytes may be taken up to the last. -/
theorem safe_copyToBytes_last
    {count : Nat}
    {next : Bytes → Decoder ε α}
    (safe : ∀ bytes, Safe 0 (next bytes)) :
    Safe count (copyToBytes count >>= next) :=
  safe_copyToBytes safe

/-- The bytes taken are as many as the array has. -/
theorem safe_copyToBlock
    {need size : Nat}
    {next : Block size → Decoder ε α}
    (safe : ∀ block, Safe need (next block)) :
    Safe (size + need) (copyToBlock size >>= next) := by
  intro buffer enough
  have fits : size ≤ buffer.length := by omega
  have whole : (buffer.take size).length = size :=
    List.length_take_of_le fits
  rw [copyToBlock_eq, bind_assoc, run_bind, copyToBytes, if_pos fits]
  dsimp only
  rw [run_bind, intoBlock, dif_pos whole]
  refine safe ⟨buffer.take size, whole⟩ (buffer.drop size) ?_
  rw [List.length_drop]
  omega

end Decoder
end Foundation
