import GhostProtocol.Client.Fragment
import GhostProtocol.Foundation.WriteAll

/-!
# Two ways to write the pieces

The fragmented stream has a second way to write: one call writes all pieces of
the fragmented part and then offers the rest.  Both ways make the same offers
as long as something is accepted of each.  When nothing is accepted, polling
fails, but the call that writes all pieces offers the same piece again.
-/

namespace GhostProtocol
namespace Client

open Foundation

namespace FragmentedStream

variable {σ : Type}

/-- Offer bytes to the connection. -/
def writeInner
    (writing : Writer σ)
    (self : FragmentedStream σ)
    (bytes : Bytes) : Except IoError Nat × FragmentedStream σ :=
  ((writing.write self.inner bytes).1,
    { self with inner := (writing.write self.inner bytes).2 })

/-- Write pieces until the fragmented part or the buffer ends, with less than
the given number of offers.  Flushing a TCP connection does nothing, and the
delay between pieces changes nothing but the time. -/
def writePieces
    (writing : Writer σ)
    (buf : Bytes) :
    Nat → Nat → FragmentedStream σ →
      Option (Except IoError Nat × FragmentedStream σ)
  | 0, _, _ => none
  | offers + 1, totalWritten, self =>
      if self.remainingFragBytes > 0 ∧ totalWritten < buf.length then
        let chunkSize := min (min self.fragmentSize self.remainingFragBytes)
          (buf.length - totalWritten)
        match self.writeInner writing
            ((buf.drop totalWritten).take chunkSize) with
        | (.error error, self) => some (.error error, self)
        | (.ok n, self) =>
            writePieces writing buf offers (totalWritten + n)
              { self with remainingFragBytes := self.remainingFragBytes - n }
      else some (.ok totalWritten, self)

/-- Offer what the pieces have left of the buffer, without fragmentation. -/
def writeRest
    (writing : Writer σ)
    (buf : Bytes) :
    Except IoError Nat × FragmentedStream σ →
      Except IoError Nat × FragmentedStream σ
  | (.error error, self) => (.error error, self)
  | (.ok totalWritten, self) =>
      if totalWritten < buf.length then
        match self.writeInner writing (buf.drop totalWritten) with
        | (.error error, self) => (.error error, self)
        | (.ok n, self) => (.ok (totalWritten + n), self)
      else (.ok totalWritten, self)

/-- Write a buffer with fragmentation. -/
def fragmentedWrite
    (writing : Writer σ)
    (offers : Nat) : Writer.Call (FragmentedStream σ) :=
  fun self buf =>
    if self.remainingFragBytes = 0 ∨ buf = [] then
      some (self.writeInner writing buf)
    else
      (writePieces writing buf offers 0 self).map (writeRest writing buf)

/-- Write by polling once. -/
def polledWrite (writing : Writer σ) : Writer.Call (FragmentedStream σ) :=
  fun self buf =>
    match pollWrite writing.toAsync self buf with
    | (.ready result, self) => some (result, self)
    | (.pending, _) => none

/-- What a run of `write_all` comes to: how it ends, what was offered to the
connection, call by call, and how many bytes are left to fragment. -/
structure Written where
  outcome : Except IoError Unit
  writes : List Bytes
  remainingFragBytes : Nat
  deriving DecidableEq

/-- What is known of a run that has ended. -/
def Written.ofEnding
    (ending : Except IoError Unit ×
      FragmentedStream (Writer.Observed σ)) : Written where
  outcome := ending.1
  writes := ending.2.inner.writes
  remainingFragBytes := ending.2.remainingFragBytes

/-- The stream, when what it offers to its connection is observed. -/
def observed (self : FragmentedStream σ) :
    FragmentedStream (Writer.Observed σ) where
  inner := { writer := self.inner, writes := [] }
  remainingFragBytes := self.remainingFragBytes
  fragmentSize := self.fragmentSize
  fragmentDelayMs := self.fragmentDelayMs
  positive := self.positive

/-- Writing a whole buffer by either function makes the same offers and ends in
the same way. -/
def WritesAlike
    (writing : Writer σ)
    (self : FragmentedStream σ)
    (buf : Bytes) : Prop :=
  ∃ written,
    (∃ offers, (Writer.writeAll (fragmentedWrite writing.observe offers)
      self.observed buf).map Written.ofEnding = some written) ∧
    (Writer.writeAll (polledWrite writing.observe) self.observed buf).map
      Written.ofEnding = some written

/-- The writer accepts something of each piece of the fragmented part that is
offered to it, and of what is offered first behind that part, unless it fails
before. -/
inductive AcceptsPieces (writing : Writer σ) (fragmentSize : Nat) :
    Nat → σ → Bytes → Prop
  | written {remaining inner} :
      AcceptsPieces writing fragmentSize remaining inner []
  | rest {inner buf}
      (nonempty : buf ≠ [])
      (accepts : (writing.write inner buf).1 ≠ .ok 0) :
      AcceptsPieces writing fragmentSize 0 inner buf
  | failed {remaining inner buf error}
      (nonempty : buf ≠ [])
      (fragmenting : 0 < remaining)
      (fails : (writing.write inner
        (buf.take (min fragmentSize remaining))).1 = .error error) :
      AcceptsPieces writing fragmentSize remaining inner buf
  | accepted {remaining inner buf count}
      (nonempty : buf ≠ [])
      (fragmenting : 0 < remaining)
      (accepts : (writing.write inner
        (buf.take (min fragmentSize remaining))).1 = .ok count)
      (positive : 0 < count)
      (later : AcceptsPieces writing fragmentSize (remaining - count)
        (writing.write inner (buf.take (min fragmentSize remaining))).2
        (buf.drop count)) :
      AcceptsPieces writing fragmentSize remaining inner buf

/-! ## One offer -/

/-- The stream after an offer of which some bytes have been accepted. -/
def advance
    (self : FragmentedStream σ)
    (inner : σ)
    (count : Nat) : FragmentedStream σ :=
  { self with inner, remainingFragBytes := self.remainingFragBytes - count }

/-- While fragmenting, a piece is offered. -/
theorem offered_of_fragmenting
    {self : FragmentedStream σ}
    (fragmenting : 0 < self.remainingFragBytes)
    (buf : Bytes) :
    self.offered buf =
      buf.take (min self.fragmentSize self.remainingFragBytes) := by
  rw [offered, if_neg (Nat.ne_of_gt fragmenting), ← List.take_take,
    List.take_length]

/-- Behind the fragmented part everything is offered. -/
theorem offered_of_done
    {self : FragmentedStream σ}
    (done : self.remainingFragBytes = 0)
    (buf : Bytes) :
    self.offered buf = buf :=
  if_pos done

/-- A poll hands on what the connection says to its offer. -/
theorem polledWrite_eq
    (writing : Writer σ)
    (self : FragmentedStream σ)
    (buf : Bytes) :
    polledWrite writing self buf =
      some ((writing.write self.inner (self.offered buf)).1,
        self.answered
          (.ready (writing.write self.inner (self.offered buf)).1)
          (writing.write self.inner (self.offered buf)).2) := by
  rw [polledWrite, pollWrite_eq]
  rfl

/-- A poll that fails ends `write_all`. -/
theorem writeAll_polledWrite_of_error
    {writing : Writer σ}
    {self : FragmentedStream σ}
    {buf : Bytes}
    {error : IoError}
    (nonempty : buf ≠ [])
    (fails : (writing.write self.inner (self.offered buf)).1 =
      .error error) :
    Writer.writeAll (polledWrite writing) self buf =
      some (.error error,
        { self with
          inner := (writing.write self.inner (self.offered buf)).2 }) := by
  rw [Writer.writeAll_of_ne_nil _ self nonempty, polledWrite_eq, fails]
  rfl

/-- A poll that accepts nothing ends `write_all`. -/
theorem writeAll_polledWrite_of_zero
    {writing : Writer σ}
    {self : FragmentedStream σ}
    {buf : Bytes}
    (nonempty : buf ≠ [])
    (refuses : (writing.write self.inner (self.offered buf)).1 = .ok 0) :
    Writer.writeAll (polledWrite writing) self buf =
      some (.error AsyncWrite.writeZero,
        self.advance (writing.write self.inner (self.offered buf)).2 0) := by
  rw [Writer.writeAll_of_ne_nil _ self nonempty, polledWrite_eq, refuses]
  rfl

/-- After a poll that accepts something, `write_all` goes on. -/
theorem writeAll_polledWrite_of_ok
    {writing : Writer σ}
    {self : FragmentedStream σ}
    {buf : Bytes}
    {count : Nat}
    (nonempty : buf ≠ [])
    (accepts : (writing.write self.inner (self.offered buf)).1 = .ok count)
    (positive : 0 < count) :
    Writer.writeAll (polledWrite writing) self buf =
      Writer.writeAll (polledWrite writing)
        (self.advance (writing.write self.inner (self.offered buf)).2 count)
        (buf.drop count) := by
  rw [Writer.writeAll_of_ne_nil _ self nonempty, polledWrite_eq, accepts]
  exact if_neg (Nat.ne_of_gt positive)

/-- Without a piece to write, the loop ends. -/
theorem writePieces_of_done
    (writing : Writer σ)
    {buf : Bytes}
    {totalWritten : Nat}
    {self : FragmentedStream σ}
    (done : ¬(self.remainingFragBytes > 0 ∧ totalWritten < buf.length))
    (offers : Nat) :
    writePieces writing buf (offers + 1) totalWritten self =
      some (.ok totalWritten, self) :=
  if_neg done

/-- A piece is what a poll would offer. -/
theorem take_chunkSize
    {self : FragmentedStream σ}
    (fragmenting : 0 < self.remainingFragBytes)
    (buf : Bytes)
    (totalWritten : Nat) :
    (buf.drop totalWritten).take
        (min (min self.fragmentSize self.remainingFragBytes)
          (buf.length - totalWritten)) =
      self.offered (buf.drop totalWritten) := by
  rw [offered, if_neg (Nat.ne_of_gt fragmenting), List.length_drop]

/-- A piece that fails ends the loop. -/
theorem writePieces_of_error
    {writing : Writer σ}
    {buf : Bytes}
    {totalWritten : Nat}
    {self : FragmentedStream σ}
    {error : IoError}
    (fragmenting : 0 < self.remainingFragBytes)
    (inside : totalWritten < buf.length)
    (fails : (writing.write self.inner
      (self.offered (buf.drop totalWritten))).1 = .error error)
    (offers : Nat) :
    writePieces writing buf (offers + 1) totalWritten self =
      some (.error error,
        { self with
          inner := (writing.write self.inner
            (self.offered (buf.drop totalWritten))).2 }) := by
  rw [writePieces, if_pos ⟨fragmenting, inside⟩]
  dsimp only
  rw [take_chunkSize fragmenting, writeInner, fails]

/-- After a piece of which any number of bytes is accepted, the loop goes
on. -/
theorem writePieces_of_ok
    {writing : Writer σ}
    {buf : Bytes}
    {totalWritten : Nat}
    {self : FragmentedStream σ}
    {count : Nat}
    (fragmenting : 0 < self.remainingFragBytes)
    (inside : totalWritten < buf.length)
    (accepts : (writing.write self.inner
      (self.offered (buf.drop totalWritten))).1 = .ok count)
    (offers : Nat) :
    writePieces writing buf (offers + 1) totalWritten self =
      writePieces writing buf offers (totalWritten + count)
        (self.advance (writing.write self.inner
          (self.offered (buf.drop totalWritten))).2 count) := by
  rw [writePieces, if_pos ⟨fragmenting, inside⟩]
  dsimp only
  rw [take_chunkSize fragmenting, writeInner, accepts]
  rfl

/-! ## Writers that accept something -/

/-- Behind the fragmented part both functions offer everything. -/
theorem fragmentedWrite_of_done
    (writing : Writer σ)
    (offers : Nat)
    {self : FragmentedStream σ}
    (done : self.remainingFragBytes = 0)
    (buf : Bytes) :
    fragmentedWrite writing offers self buf =
      polledWrite writing self buf := by
  rw [fragmentedWrite, if_pos (.inl done), polledWrite, pollWrite, if_pos done]
  rfl

/-- A call behind the fragmented part does not go back to it. -/
theorem remainingFragBytes_of_polledWrite
    {writing : Writer σ}
    {self next : FragmentedStream σ}
    {buf : Bytes}
    {result : Except IoError Nat}
    (done : self.remainingFragBytes = 0)
    (polled : polledWrite writing self buf = some (result, next)) :
    next.remainingFragBytes = 0 := by
  rw [polledWrite, pollWrite, if_pos done] at polled
  obtain ⟨-, rfl⟩ := Prod.mk.inj (Option.some.inj polled)
  exact done

/-- Behind the fragmented part both functions write alike. -/
theorem writeAll_of_done
    (writing : Writer σ)
    (offers : Nat)
    {self : FragmentedStream σ}
    (done : self.remainingFragBytes = 0)
    (buf : Bytes) :
    Writer.writeAll (fragmentedWrite writing offers) self buf =
      Writer.writeAll (polledWrite writing) self buf := by
  induction length : buf.length using Nat.strongRecOn
    generalizing self buf with
  | ind length inductionHypothesis =>
      by_cases empty : buf = []
      · rw [empty, Writer.writeAll_nil, Writer.writeAll_nil]
      · rw [Writer.writeAll_of_ne_nil _ self empty,
          Writer.writeAll_of_ne_nil _ self empty,
          fragmentedWrite_of_done writing offers done]
        refine Option.bind_congr fun result polled =>
          Writer.afterCall_congr result fun {count next} same accepted => ?_
        rw [same] at polled
        refine inductionHypothesis (buf.drop count).length ?_
          (remainingFragBytes_of_polledWrite done polled) _ rfl
        rw [← length]
        exact Writer.length_drop_lt empty accepted

/-- How a `write_all` goes on after the loop of a call. -/
def resumed
    (writing : Writer σ)
    (offers : Nat)
    (buf : Bytes)
    (pieces : Option (Except IoError Nat × FragmentedStream σ)) :
    Option (Except IoError Unit × FragmentedStream σ) :=
  (pieces.map (writeRest writing buf)).bind
    (Writer.afterCall (Writer.writeAll (fragmentedWrite writing offers)) buf)

/-- A `write_all` that starts in the fragmented part starts with the loop. -/
theorem writeAll_fragmentedWrite
    (writing : Writer σ)
    (offers : Nat)
    {self : FragmentedStream σ}
    {buf : Bytes}
    (fragmenting : self.remainingFragBytes ≠ 0)
    (nonempty : buf ≠ []) :
    Writer.writeAll (fragmentedWrite writing offers) self buf =
      resumed writing offers buf (writePieces writing buf offers 0 self) := by
  rw [Writer.writeAll_of_ne_nil _ self nonempty, fragmentedWrite,
    if_neg (not_or.mpr ⟨fragmenting, nonempty⟩)]
  rfl

/-- When the loop has written everything, so has `write_all`. -/
theorem resumed_of_written
    (writing : Writer σ)
    (offers : Nat)
    {buf : Bytes}
    {totalWritten : Nat}
    (self : FragmentedStream σ)
    (positive : 0 < totalWritten)
    (written : buf.drop totalWritten = []) :
    resumed writing offers buf (some (.ok totalWritten, self)) =
      some (.ok (), self) := by
  have all : ¬totalWritten < buf.length :=
    Nat.not_lt.mpr (List.drop_eq_nil_iff.mp written)
  rw [resumed, Option.map_some, Option.bind_some, writeRest, if_neg all,
    Writer.afterCall, if_neg (Nat.ne_of_gt positive), written,
    Writer.writeAll_nil]

/-- When the loop has left the fragmented part and something of the rest is
accepted, `write_all` goes on as by polling. -/
theorem resumed_of_rest
    {writing : Writer σ}
    (offers : Nat)
    {buf : Bytes}
    {totalWritten : Nat}
    {self : FragmentedStream σ}
    (positive : 0 < totalWritten)
    (nonempty : buf.drop totalWritten ≠ [])
    (done : self.remainingFragBytes = 0)
    (accepts : (writing.write self.inner (buf.drop totalWritten)).1 ≠ .ok 0) :
    resumed writing offers buf (some (.ok totalWritten, self)) =
      Writer.writeAll (polledWrite writing) self (buf.drop totalWritten) := by
  have inside := List.length_lt_of_drop_ne_nil nonempty
  have offered := offered_of_done done (buf.drop totalWritten)
  rw [resumed, Option.map_some, Option.bind_some, writeRest, if_pos inside,
    writeInner]
  cases answer : (writing.write self.inner (buf.drop totalWritten)).1 with
  | error error =>
      rw [writeAll_polledWrite_of_error nonempty (by rw [offered, answer]),
        offered]
      rfl
  | ok count =>
      have some : 0 < count := Nat.pos_of_ne_zero fun zero =>
        accepts (by rw [answer, zero])
      have total : totalWritten + count ≠ 0 := by omega
      rw [writeAll_polledWrite_of_ok nonempty (by rw [offered, answer]) some,
        offered, List.drop_drop]
      dsimp only
      rw [Writer.afterCall, if_neg total]
      have same : { self with
            inner := (writing.write self.inner (buf.drop totalWritten)).2 } =
          self.advance
            (writing.write self.inner (buf.drop totalWritten)).2 count := by
        rw [advance, done, Nat.zero_sub, ← done]
      rw [same]
      refine writeAll_of_done writing offers ?_ _
      rw [advance, done, Nat.zero_sub]

/-- From the loop on, `write_all` goes on as by polling if something of every
piece is accepted. -/
theorem resumed_writePieces
    {writing : Writer σ}
    {fragmentSize remaining : Nat}
    {inner : σ}
    {left : Bytes}
    (accepts : AcceptsPieces writing fragmentSize remaining inner left)
    (callOffers : Nat)
    {self : FragmentedStream σ}
    (size : self.fragmentSize = fragmentSize)
    (remains : self.remainingFragBytes = remaining)
    (connection : self.inner = inner)
    {buf : Bytes}
    {totalWritten : Nat}
    (behind : buf.drop totalWritten = left)
    (progress : 0 < totalWritten ∨ 0 < remaining ∧ left ≠ [])
    {offers : Nat}
    (enough : left.length < offers) :
    resumed writing callOffers buf
        (writePieces writing buf offers totalWritten self) =
      Writer.writeAll (polledWrite writing) self left := by
  induction accepts generalizing self totalWritten offers with
  | written =>
      obtain ⟨offers, rfl⟩ := Nat.exists_eq_add_of_lt enough
      have positive : 0 < totalWritten :=
        progress.resolve_right fun both => both.2 rfl
      have all : ¬totalWritten < buf.length :=
        Nat.not_lt.mpr (List.drop_eq_nil_iff.mp behind)
      rw [writePieces_of_done writing (fun both => all both.2),
        resumed_of_written writing callOffers self positive behind,
        Writer.writeAll_nil]
  | rest nonempty accepts =>
      obtain ⟨offers, rfl⟩ := Nat.exists_eq_add_of_lt enough
      have positive : 0 < totalWritten :=
        progress.resolve_right fun both => Nat.lt_irrefl 0 both.1
      subst behind connection
      rw [writePieces_of_done writing fun both =>
        Nat.ne_of_gt both.1 remains]
      exact resumed_of_rest callOffers positive nonempty remains accepts
  | failed nonempty fragmenting fails =>
      obtain ⟨offers, rfl⟩ := Nat.exists_eq_add_of_lt enough
      subst behind connection size remains
      rw [← offered_of_fragmenting fragmenting] at fails
      rw [writePieces_of_error fragmenting
          (List.length_lt_of_drop_ne_nil nonempty) fails,
        writeAll_polledWrite_of_error nonempty fails]
      rfl
  | accepted nonempty fragmenting accepts positive later inductionHypothesis =>
      subst behind connection size remains
      have shorter := Writer.length_drop_lt nonempty (Nat.ne_of_gt positive)
      obtain ⟨offers, rfl⟩ := Nat.exists_eq_add_of_lt enough
      rw [← offered_of_fragmenting fragmenting] at accepts
      rw [writePieces_of_ok fragmenting
          (List.length_lt_of_drop_ne_nil nonempty) accepts,
        writeAll_polledWrite_of_ok nonempty accepts positive]
      refine inductionHypothesis ?_ ?_ ?_ ?_ (.inl ?_) ?_
      · rfl
      · rfl
      · rw [offered_of_fragmenting fragmenting]
        rfl
      · rw [List.drop_drop]
      · omega
      · omega

/-- Observing a writer does not change what it accepts. -/
theorem AcceptsPieces.observe
    {writing : Writer σ}
    {fragmentSize remaining : Nat}
    {inner : σ}
    {buf : Bytes}
    (accepts : AcceptsPieces writing fragmentSize remaining inner buf)
    (writes : List Bytes) :
    AcceptsPieces writing.observe fragmentSize remaining
      { writer := inner, writes } buf := by
  induction accepts generalizing writes with
  | written => exact .written
  | rest nonempty accepts => exact .rest nonempty accepts
  | failed nonempty fragmenting fails =>
      exact .failed nonempty fragmenting fails
  | accepted nonempty fragmenting accepts positive _ inductionHypothesis =>
      exact .accepted nonempty fragmenting accepts positive
        (inductionHypothesis _)

/-- Polling completes, so `write_all` by polling ends. -/
theorem exists_writeAll_polledWrite
    (writing : Writer σ)
    (self : FragmentedStream σ)
    (buf : Bytes) :
    ∃ ending, Writer.writeAll (polledWrite writing) self buf = some ending :=
  Writer.exists_writeAll
    (fun self buf => ⟨_, polledWrite_eq writing self buf⟩) self buf

/-- With a writer that accepts something of every piece, both functions write
alike. -/
theorem exists_writeAll_fragmentedWrite
    {writing : Writer σ}
    {self : FragmentedStream σ}
    {buf : Bytes}
    (accepts : self.remainingFragBytes = 0 ∨
      AcceptsPieces writing self.fragmentSize self.remainingFragBytes
        self.inner buf) :
    ∃ offers, Writer.writeAll (fragmentedWrite writing offers) self buf =
      Writer.writeAll (polledWrite writing) self buf := by
  rcases accepts with done | accepts
  · exact ⟨0, writeAll_of_done writing 0 done buf⟩
  · by_cases done : self.remainingFragBytes = 0
    · exact ⟨0, writeAll_of_done writing 0 done buf⟩
    · by_cases empty : buf = []
      · rw [empty]
        exact ⟨0, rfl⟩
      · refine ⟨buf.length + 1, ?_⟩
        rw [writeAll_fragmentedWrite writing _ done empty]
        exact resumed_writePieces accepts _ rfl rfl rfl rfl
          (.inr ⟨Nat.pos_of_ne_zero done, empty⟩) (Nat.lt_succ_self _)

/-! ## Writers that accept nothing of a piece -/

/-- How often something has been offered to the connection. -/
def writesMade (self : FragmentedStream (Writer.Observed σ)) : Nat :=
  self.inner.writes.length

/-- An offer counts. -/
theorem lt_advance
    (writing : Writer σ)
    (self : FragmentedStream (Writer.Observed σ))
    (bytes : Bytes)
    (count : Nat) :
    self.writesMade <
      (self.advance (writing.observe.write self.inner bytes).2
        count).writesMade := by
  have counted : (self.advance (writing.observe.write self.inner bytes).2
      count).writesMade = self.writesMade + 1 := List.length_append
  rw [counted]
  exact Nat.lt_succ_self _

/-- The loop makes at least one offer while a piece is left. -/
theorem lt_of_writePieces
    {writing : Writer σ}
    {buf : Bytes}
    {offers totalWritten : Nat}
    {self next : FragmentedStream (Writer.Observed σ)}
    {result : Except IoError Nat}
    (continues : self.remainingFragBytes > 0 ∧ totalWritten < buf.length)
    (pieces : writePieces writing.observe buf offers totalWritten self =
      some (result, next)) :
    self.writesMade < next.writesMade := by
  induction offers generalizing totalWritten self with
  | zero => exact nomatch pieces
  | succ offers inductionHypothesis =>
      cases answer : (writing.observe.write self.inner
          (self.offered (buf.drop totalWritten))).1 with
      | error error =>
          rw [writePieces_of_error continues.1 continues.2 answer] at pieces
          obtain ⟨-, rfl⟩ := Prod.mk.inj (Option.some.inj pieces)
          exact lt_advance writing self _ 0
      | ok count =>
          rw [writePieces_of_ok continues.1 continues.2 answer] at pieces
          have offer := lt_advance writing self
            (self.offered (buf.drop totalWritten)) count
          generalize self.advance _ count = middle at pieces offer
          refine offer.trans_le ?_
          cases offers with
          | zero => exact nomatch pieces
          | succ offers =>
              by_cases later : middle.remainingFragBytes > 0 ∧
                  totalWritten + count < buf.length
              · exact Nat.le_of_lt (inductionHypothesis later pieces)
              · rw [writePieces_of_done _ later] at pieces
                obtain ⟨-, rfl⟩ := Prod.mk.inj (Option.some.inj pieces)
                exact Nat.le_refl _

/-- Offering the rest takes back no offer. -/
theorem le_writeRest
    (writing : Writer σ)
    (buf : Bytes)
    (result : Except IoError Nat)
    (self : FragmentedStream (Writer.Observed σ)) :
    self.writesMade ≤
      (writeRest writing.observe buf (result, self)).2.writesMade := by
  cases result with
  | error error => exact Nat.le_refl _
  | ok totalWritten =>
      rw [writeRest]
      split_ifs with inside
      · cases answer :
            (writing.observe.write self.inner (buf.drop totalWritten)).1 with
        | error error =>
            rw [writeInner, answer]
            exact Nat.le_of_lt (lt_advance writing self _ 0)
        | ok count =>
            rw [writeInner, answer]
            exact Nat.le_of_lt (lt_advance writing self _ 0)
      · exact Nat.le_refl _

/-- A call with a nonempty buffer makes at least one offer. -/
theorem lt_of_fragmentedWrite
    {writing : Writer σ}
    {offers : Nat}
    {self next : FragmentedStream (Writer.Observed σ)}
    {buf : Bytes}
    {result : Except IoError Nat}
    (nonempty : buf ≠ [])
    (called : fragmentedWrite writing.observe offers self buf =
      some (result, next)) :
    self.writesMade < next.writesMade := by
  rw [fragmentedWrite] at called
  split_ifs at called with direct
  · obtain ⟨-, rfl⟩ := Prod.mk.inj (Option.some.inj called)
    exact lt_advance writing self _ 0
  · obtain ⟨⟨result, middle⟩, pieces, rest⟩ := Option.map_eq_some_iff.mp called
    have fragmenting := Nat.pos_of_ne_zero (not_or.mp direct).1
    have looped := lt_of_writePieces
      ⟨fragmenting, List.length_pos_of_ne_nil nonempty⟩ pieces
    have after := le_writeRest writing buf result middle
    rw [rest] at after
    exact looped.trans_le after

/-- Nothing that follows a call takes back an offer. -/
theorem le_of_afterCall
    {writing : Writer σ}
    {offers : Nat}
    {self final : FragmentedStream (Writer.Observed σ)}
    {buf : Bytes}
    {result : Except IoError Nat}
    {outcome : Except IoError Unit}
    (continued : Writer.afterCall
      (Writer.writeAll (fragmentedWrite writing.observe offers)) buf
      (result, self) = some (outcome, final)) :
    self.writesMade ≤ final.writesMade := by
  cases result with
  | error error =>
      obtain ⟨-, rfl⟩ := Prod.mk.inj (Option.some.inj continued)
      exact Nat.le_refl _
  | ok count =>
      rw [Writer.afterCall] at continued
      split_ifs at continued with nothing
      · obtain ⟨-, rfl⟩ := Prod.mk.inj (Option.some.inj continued)
        exact Nat.le_refl _
      · by_cases last : buf.drop count = []
        · rw [last, Writer.writeAll_nil] at continued
          obtain ⟨-, rfl⟩ := Prod.mk.inj (Option.some.inj continued)
          exact Nat.le_refl _
        · exact Nat.le_of_lt (Writer.lt_of_writeAll writesMade
            lt_of_fragmentedWrite last continued)

/-- When nothing is accepted of a piece, the loop offers it again. -/
theorem lt_of_piece_refused
    {writing : Writer σ}
    {callOffers offers : Nat}
    {buf : Bytes}
    {totalWritten : Nat}
    {self final polledFinal : FragmentedStream (Writer.Observed σ)}
    {outcome polledOutcome : Except IoError Unit}
    (fragmenting : 0 < self.remainingFragBytes)
    (nonempty : buf.drop totalWritten ≠ [])
    (refused : (writing.observe.write self.inner
      (self.offered (buf.drop totalWritten))).1 = .ok 0)
    (ended : resumed writing.observe callOffers buf
      (writePieces writing.observe buf (offers + 1) totalWritten self) =
        some (outcome, final))
    (polled : Writer.writeAll (polledWrite writing.observe) self
      (buf.drop totalWritten) = some (polledOutcome, polledFinal)) :
    polledFinal.writesMade < final.writesMade := by
  have inside := List.length_lt_of_drop_ne_nil nonempty
  rw [writeAll_polledWrite_of_zero nonempty refused] at polled
  obtain ⟨-, rfl⟩ := Prod.mk.inj (Option.some.inj polled)
  rw [writePieces_of_ok fragmenting inside refused] at ended
  obtain ⟨⟨result, next⟩, called, continued⟩ :=
    Option.bind_eq_some_iff.mp ended
  obtain ⟨⟨looped, middle⟩, pieces, rest⟩ := Option.map_eq_some_iff.mp called
  have after := le_writeRest writing buf looped middle
  rw [rest] at after
  have repeated := lt_of_writePieces (by exact ⟨fragmenting, inside⟩) pieces
  exact (repeated.trans_le after).trans_le (le_of_afterCall continued)

/-- When nothing is accepted of the rest, the next call offers it again. -/
theorem lt_of_rest_refused
    {writing : Writer σ}
    {callOffers offers : Nat}
    {buf : Bytes}
    {totalWritten : Nat}
    {self final polledFinal : FragmentedStream (Writer.Observed σ)}
    {outcome polledOutcome : Except IoError Unit}
    (positive : 0 < totalWritten)
    (nonempty : buf.drop totalWritten ≠ [])
    (done : self.remainingFragBytes = 0)
    (refused :
      (writing.observe.write self.inner (buf.drop totalWritten)).1 = .ok 0)
    (ended : resumed writing.observe callOffers buf
      (writePieces writing.observe buf (offers + 1) totalWritten self) =
        some (outcome, final))
    (polled : Writer.writeAll (polledWrite writing.observe) self
      (buf.drop totalWritten) = some (polledOutcome, polledFinal)) :
    polledFinal.writesMade < final.writesMade := by
  have inside := List.length_lt_of_drop_ne_nil nonempty
  have offered := offered_of_done done (buf.drop totalWritten)
  rw [writeAll_polledWrite_of_zero nonempty (by rw [offered, refused]),
    offered] at polled
  obtain ⟨-, rfl⟩ := Prod.mk.inj (Option.some.inj polled)
  rw [writePieces_of_done _ fun both => Nat.ne_of_gt both.1 done, resumed,
    Option.map_some, Option.bind_some, writeRest, if_pos inside, writeInner,
    refused] at ended
  dsimp only at ended
  rw [Nat.add_zero, Writer.afterCall,
    if_neg (Nat.ne_of_gt positive)] at ended
  exact Writer.lt_of_writeAll writesMade lt_of_fragmentedWrite nonempty ended

/-- With a writer that accepts nothing of some piece, the loop makes more offers
than polling, if it ends at all. -/
theorem lt_of_not_acceptsPieces
    {writing : Writer σ}
    {callOffers offers : Nat}
    {buf left : Bytes}
    {totalWritten : Nat}
    {self final polledFinal : FragmentedStream (Writer.Observed σ)}
    {outcome polledOutcome : Except IoError Unit}
    (refuses : ¬AcceptsPieces writing self.fragmentSize
      self.remainingFragBytes self.inner.writer left)
    (behind : buf.drop totalWritten = left)
    (progress : 0 < totalWritten ∨ 0 < self.remainingFragBytes)
    (ended : resumed writing.observe callOffers buf
      (writePieces writing.observe buf offers totalWritten self) =
        some (outcome, final))
    (polled : Writer.writeAll (polledWrite writing.observe) self left =
      some (polledOutcome, polledFinal)) :
    polledFinal.writesMade < final.writesMade := by
  induction offers generalizing totalWritten left self with
  | zero => exact nomatch ended
  | succ offers inductionHypothesis =>
      subst behind
      have nonempty : buf.drop totalWritten ≠ [] := fun empty =>
        refuses (empty ▸ .written)
      have inside := List.length_lt_of_drop_ne_nil nonempty
      by_cases done : self.remainingFragBytes = 0
      · have positive := progress.resolve_right (Nat.not_lt.mpr done.le)
        refine lt_of_rest_refused positive nonempty done ?_ ended polled
        by_contra accepts
        rw [done] at refuses
        exact refuses (.rest nonempty accepts)
      · have fragmenting := Nat.pos_of_ne_zero done
        have offered := offered_of_fragmenting fragmenting
          (buf.drop totalWritten)
        cases answer : (writing.observe.write self.inner
            (self.offered (buf.drop totalWritten))).1 with
        | error error =>
            exact absurd (.failed nonempty fragmenting
              (offered ▸ answer)) refuses
        | ok count =>
            by_cases nothing : count = 0
            · subst nothing
              exact lt_of_piece_refused fragmenting nonempty answer ended
                polled
            · have accepted := Nat.pos_of_ne_zero nothing
              rw [writePieces_of_ok fragmenting inside answer] at ended
              rw [writeAll_polledWrite_of_ok nonempty answer accepted]
                at polled
              refine inductionHypothesis ?_ List.drop_drop.symm
                (.inl (Nat.add_pos_right _ accepted)) ended polled
              exact fun later => refuses (.accepted nonempty fragmenting
                (offered ▸ answer) accepted (offered ▸ later))

/-! ## Writing alike -/

/-- If something is accepted of each piece, both functions write alike. -/
theorem writesAlike_of_acceptsPieces
    {writing : Writer σ}
    {self : FragmentedStream σ}
    {buf : Bytes}
    (accepts : self.remainingFragBytes = 0 ∨
      AcceptsPieces writing self.fragmentSize self.remainingFragBytes
        self.inner buf) :
    WritesAlike writing self buf := by
  have observes : self.observed.remainingFragBytes = 0 ∨
      AcceptsPieces writing.observe self.observed.fragmentSize
        self.observed.remainingFragBytes self.observed.inner buf :=
    accepts.imp id fun accepts => accepts.observe []
  obtain ⟨offers, same⟩ := exists_writeAll_fragmentedWrite observes
  obtain ⟨ending, ended⟩ :=
    exists_writeAll_polledWrite writing.observe self.observed buf
  refine ⟨Written.ofEnding ending, ⟨offers, ?_⟩, ?_⟩
  · rw [same, ended, Option.map_some]
  · rw [ended, Option.map_some]

/-- If both functions write alike, something is accepted of each piece. -/
theorem acceptsPieces_of_writesAlike
    {writing : Writer σ}
    {self : FragmentedStream σ}
    {buf : Bytes}
    (alike : WritesAlike writing self buf) :
    self.remainingFragBytes = 0 ∨
      AcceptsPieces writing self.fragmentSize self.remainingFragBytes
        self.inner buf := by
  by_contra refuses
  obtain ⟨remains, refuses⟩ := not_or.mp refuses
  have fragmenting : self.observed.remainingFragBytes ≠ 0 := remains
  have nonempty : buf ≠ [] := fun empty => refuses (empty ▸ .written)
  obtain ⟨written, ⟨offers, fragmented⟩, polled⟩ := alike
  obtain ⟨⟨outcome, final⟩, ended, result⟩ :=
    Option.map_eq_some_iff.mp fragmented
  obtain ⟨⟨polledOutcome, polledFinal⟩, polledEnded, polledResult⟩ :=
    Option.map_eq_some_iff.mp polled
  rw [writeAll_fragmentedWrite _ _ fragmenting nonempty] at ended
  have more : polledFinal.writesMade < final.writesMade :=
    lt_of_not_acceptsPieces refuses rfl (.inr (Nat.pos_of_ne_zero fragmenting))
      ended polledEnded
  have same : polledFinal.writesMade = final.writesMade :=
    congrArg (fun written => written.writes.length)
      (polledResult.trans result.symm)
  exact Nat.ne_of_lt more same

/-- Writing a whole buffer by either function makes the same offers and ends in
the same way exactly when the writer accepts something of each piece of the
fragmented part and of the first offer behind it, or there is no fragmented
part. -/
theorem writesAlike_iff
    (writing : Writer σ)
    (self : FragmentedStream σ)
    (buf : Bytes) :
    WritesAlike writing self buf ↔
      self.remainingFragBytes = 0 ∨
        AcceptsPieces writing self.fragmentSize self.remainingFragBytes
          self.inner buf :=
  ⟨acceptsPieces_of_writesAlike, writesAlike_of_acceptsPieces⟩

/-- A writer that accepts nothing of the first bytes it is offered, and
everything from then on. -/
def idleOnce : Writer Bool where
  write started bytes := (.ok (if started then bytes.length else 0), true)
  fits started bytes count accepted := by
    obtain rfl := Except.ok.inj accepted
    split_ifs
    · exact Nat.le_refl _
    · exact Nat.zero_le _

/-- Polling fails when nothing is accepted, but the loop writes on. -/
example :
    (Writer.writeAll (polledWrite idleOnce.observe)
        (new false 2 2 0).observed [1, 2, 3]).map Written.ofEnding =
      some ⟨.error AsyncWrite.writeZero, [[1, 2]], 2⟩ ∧
    (Writer.writeAll (fragmentedWrite idleOnce.observe 3)
        (new false 2 2 0).observed [1, 2, 3]).map Written.ofEnding =
      some ⟨.ok (), [[1, 2], [1, 2], [3]], 0⟩ :=
  ⟨rfl, rfl⟩

/-- The functions do not write alike when nothing is accepted of the first
piece. -/
theorem not_writesAlike_idleOnce :
    ¬WritesAlike idleOnce (new false 2 2 0) [1, 2, 3] := by
  intro alike
  rcases acceptsPieces_of_writesAlike alike with done | accepts
  · exact absurd done (by decide)
  · cases accepts with
    | failed nonempty fragmenting fails => exact nomatch fails
    | accepted nonempty fragmenting accepts positive later =>
        obtain rfl := Except.ok.inj accepts
        exact Nat.lt_irrefl 0 positive

end FragmentedStream
end Client
end GhostProtocol
