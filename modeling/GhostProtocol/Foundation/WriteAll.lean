import GhostProtocol.Foundation.AsyncWrite

/-!
# Writing a buffer call by call

`write_all` calls a writing function with what is left of a buffer until
nothing is left, a call fails, or a call accepts nothing.  Every other call
makes the buffer shorter, so `write_all` ends if its calls do.
-/

namespace Foundation

/-- A writer whose calls complete: each accepts some of the bytes on offer, or
fails. -/
structure Writer (σ : Type) where
  write : σ → Bytes → Except IoError Nat × σ
  fits : ∀ writer bytes count,
    (write writer bytes).1 = .ok count → count ≤ bytes.length

namespace Writer

variable {σ τ : Type}

/-- Polled, the writer is ready at once. -/
def toAsync (writing : Writer σ) : AsyncWrite σ :=
  fun writer bytes =>
    (.ready (writing.write writer bytes).1, (writing.write writer bytes).2)

/-- A writer with the bytes offered to it, call by call. -/
structure Observed (σ : Type) where
  writer : σ
  writes : List Bytes

/-- Write, and keep what was offered. -/
def observe (writing : Writer σ) : Writer (Observed σ) where
  write observed bytes :=
    ((writing.write observed.writer bytes).1,
      { writer := (writing.write observed.writer bytes).2
        writes := observed.writes ++ [bytes] })
  fits observed bytes count accepted :=
    writing.fits observed.writer bytes count accepted

/-! ## `write_all` -/

/-- A writing function, whose calls may go on for ever. -/
abbrev Call (τ : Type) := τ → Bytes → Option (Except IoError Nat × τ)

/-- What `write_all` does after a call: it fails with the call or when nothing
was accepted, or goes on with the rest of the buffer. -/
def afterCall
    (continued : τ → Bytes → Option (Except IoError Unit × τ))
    (buf : Bytes) :
    Except IoError Nat × τ → Option (Except IoError Unit × τ)
  | (.error error, self) => some (.error error, self)
  | (.ok count, self) =>
      if count = 0 then some (.error AsyncWrite.writeZero, self)
      else continued self (buf.drop count)

/-- Write a buffer with at most the given number of calls. -/
def writeAllWithin
    (call : Call τ) :
    Nat → τ → Bytes → Option (Except IoError Unit × τ)
  | _, self, [] => some (.ok (), self)
  | 0, _, _ :: _ => none
  | calls + 1, self, byte :: rest =>
      (call self (byte :: rest)).bind
        (afterCall (writeAllWithin call calls) (byte :: rest))

/-- Write a buffer.  As many calls as it has bytes are enough. -/
def writeAll
    (call : Call τ)
    (self : τ)
    (buf : Bytes) : Option (Except IoError Unit × τ) :=
  writeAllWithin call buf.length self buf

@[simp] theorem writeAllWithin_nil
    (call : Call τ)
    (calls : Nat)
    (self : τ) :
    writeAllWithin call calls self [] = some (.ok (), self) := by
  cases calls <;> rfl

/-- How a call is continued matters only where something was accepted. -/
theorem afterCall_congr
    {continued other : τ → Bytes → Option (Except IoError Unit × τ)}
    {buf : Bytes}
    (result : Except IoError Nat × τ)
    (agree : ∀ {count next}, result = (.ok count, next) → count ≠ 0 →
      continued next (buf.drop count) = other next (buf.drop count)) :
    afterCall continued buf result = afterCall other buf result := by
  obtain ⟨result, next⟩ := result
  cases result with
  | error error => rfl
  | ok count =>
      rw [afterCall, afterCall]
      split_ifs with nothing
      · rfl
      · exact agree rfl nothing

/-- More calls than there are bytes make no difference. -/
theorem writeAllWithin_eq
    (call : Call τ)
    {calls other : Nat}
    (self : τ)
    {buf : Bytes}
    (enough : buf.length ≤ calls)
    (enoughOther : buf.length ≤ other) :
    writeAllWithin call calls self buf =
      writeAllWithin call other self buf := by
  induction calls generalizing other self buf with
  | zero =>
      obtain rfl := List.eq_nil_of_length_eq_zero (Nat.le_zero.mp enough)
      rw [writeAllWithin_nil, writeAllWithin_nil]
  | succ calls inductionHypothesis =>
      cases buf with
      | nil => rw [writeAllWithin_nil, writeAllWithin_nil]
      | cons byte rest =>
          cases other with
          | zero => exact absurd enoughOther (Nat.not_succ_le_zero _)
          | succ other =>
              rw [List.length_cons] at enough enoughOther
              rw [writeAllWithin, writeAllWithin]
              refine Option.bind_congr fun result _ =>
                afterCall_congr result fun {count next} _ _ => ?_
              have shorter : ((byte :: rest).drop count).length ≤
                  rest.length := by
                rw [List.length_drop, List.length_cons]
                omega
              exact inductionHypothesis next
                (shorter.trans (Nat.le_of_succ_le_succ enough))
                (shorter.trans (Nat.le_of_succ_le_succ enoughOther))

@[simp] theorem writeAll_nil
    (call : Call τ)
    (self : τ) :
    writeAll call self [] = some (.ok (), self) := rfl

/-- While bytes are left, the next call decides how to go on. -/
theorem writeAll_of_ne_nil
    (call : Call τ)
    (self : τ)
    {buf : Bytes}
    (nonempty : buf ≠ []) :
    writeAll call self buf =
      (call self buf).bind (afterCall (writeAll call) buf) := by
  cases buf with
  | nil => exact absurd rfl nonempty
  | cons byte rest =>
      rw [writeAll, List.length_cons, writeAllWithin]
      refine Option.bind_congr fun result _ =>
        afterCall_congr result fun {count next} _ _ => ?_
      refine writeAllWithin_eq call next ?_ (Nat.le_refl _)
      rw [List.length_drop, List.length_cons]
      omega

/-- A call that accepts something leaves a shorter buffer. -/
theorem length_drop_lt
    {buf : Bytes}
    (nonempty : buf ≠ [])
    {count : Nat}
    (accepted : count ≠ 0) :
    (buf.drop count).length < buf.length := by
  have long := List.length_pos_of_ne_nil nonempty
  rw [List.length_drop]
  omega

/-- If its calls complete, so does `write_all`. -/
theorem exists_writeAll
    {call : Call τ}
    (completes : ∀ self buf, ∃ result, call self buf = some result)
    (self : τ)
    (buf : Bytes) :
    ∃ ending, writeAll call self buf = some ending := by
  induction length : buf.length using Nat.strongRecOn
    generalizing self buf with
  | ind length inductionHypothesis =>
      by_cases empty : buf = []
      · rw [empty]
        exact ⟨_, writeAll_nil call self⟩
      · obtain ⟨⟨result, next⟩, called⟩ := completes self buf
        rw [writeAll_of_ne_nil call self empty, called, Option.bind_some]
        cases result with
        | error error => exact ⟨_, rfl⟩
        | ok count =>
            rw [afterCall]
            split_ifs with nothing
            · exact ⟨_, rfl⟩
            · refine inductionHypothesis (buf.drop count).length ?_ next _ rfl
              rw [← length]
              exact length_drop_lt empty nothing

/-- If every call counts up, so does `write_all` as soon as it calls. -/
theorem lt_of_writeAll
    {call : Call τ}
    (measure : τ → Nat)
    (counts : ∀ {self buf result next}, buf ≠ [] →
      call self buf = some (result, next) → measure self < measure next)
    {self final : τ}
    {buf : Bytes}
    {outcome : Except IoError Unit}
    (nonempty : buf ≠ [])
    (written : writeAll call self buf = some (outcome, final)) :
    measure self < measure final := by
  induction length : buf.length using Nat.strongRecOn
    generalizing self buf with
  | ind length inductionHypothesis =>
      rw [writeAll_of_ne_nil call self nonempty] at written
      obtain ⟨⟨result, next⟩, called, continued⟩ :=
        Option.bind_eq_some_iff.mp written
      have counted := counts nonempty called
      cases result with
      | error error =>
          obtain ⟨-, rfl⟩ := Prod.mk.inj (Option.some.inj continued)
          exact counted
      | ok count =>
          rw [afterCall] at continued
          split_ifs at continued with nothing
          · obtain ⟨-, rfl⟩ := Prod.mk.inj (Option.some.inj continued)
            exact counted
          · by_cases last : buf.drop count = []
            · rw [last, writeAll_nil] at continued
              obtain ⟨-, rfl⟩ := Prod.mk.inj (Option.some.inj continued)
              exact counted
            · refine counted.trans (inductionHypothesis (buf.drop count).length
                ?_ last continued rfl)
              rw [← length]
              exact length_drop_lt nonempty nothing

end Writer
end Foundation
