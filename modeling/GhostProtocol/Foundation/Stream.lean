import GhostProtocol.Foundation.Decoder

/-!
# Sequential programs over a byte stream

A peer's bytes arrive in segments, followed by the end of the stream or by an
I/O error.  `read` returns what one segment holds, up to the capacity of the
buffer, and `read_exact` collects across segments.  Writing succeeds until the
peer has accepted all the bytes it is going to accept.  Programs are functions
from a world to a result and a new world, so that a failure keeps the effects
that came before it.
-/

namespace Foundation

/-- Errors of socket operations. -/
inductive IoError
  | unexpectedEof
  | other (reason : String)
  deriving DecidableEq, Repr

/-- A connection: the segments still to arrive, how they end, the bytes
written, and how many the peer accepts if not all. -/
structure Stream where
  incoming : List Bytes
  ending : Option IoError
  outgoing : Bytes
  limit : Option (Nat × IoError)
  deriving DecidableEq, Repr

namespace Stream

/-- A connection on which nothing has been written and nothing fails. -/
def ofSegments (incoming : List Bytes) : Stream :=
  { incoming, ending := none, outgoing := [], limit := none }

/-- The unread bytes, without their segmentation. -/
def unread (stream : Stream) : Bytes :=
  stream.incoming.flatten

/-- One `read` of at most `capacity` bytes.  The empty result is the end of the
stream. -/
def readSegments (capacity : Nat) : List Bytes → Bytes × List Bytes
  | [] => ([], [])
  | segment :: segments =>
      if segment = [] then readSegments capacity segments
      else (segment.take capacity, segment.drop capacity :: segments)

/-- `read_exact` of `count` bytes, or `none` at the end of the stream. -/
def readExactSegments : Nat → List Bytes → Option (Bytes × List Bytes)
  | 0, segments => some ([], segments)
  | _ + 1, [] => none
  | count + 1, segment :: segments =>
      if count + 1 ≤ segment.length then
        some (segment.take (count + 1), segment.drop (count + 1) :: segments)
      else
        (readExactSegments (count + 1 - segment.length) segments).map
          fun result => (segment ++ result.1, result.2)

/-- What a read returns is the front of the unread bytes. -/
theorem readSegments_append_flatten
    (capacity : Nat)
    (segments : List Bytes) :
    (readSegments capacity segments).1 ++
        (readSegments capacity segments).2.flatten =
      segments.flatten := by
  induction segments with
  | nil => rfl
  | cons segment segments inductionHypothesis =>
      unfold readSegments
      split_ifs with empty
      · rw [inductionHypothesis, empty]
        rfl
      · rw [List.flatten_cons, ← List.append_assoc, List.take_append_drop,
          List.flatten_cons]

/-- `read_exact` succeeds exactly when enough bytes are unread, and takes them
from the front whatever their segmentation. -/
theorem readExactSegments_spec
    (count : Nat)
    (segments : List Bytes) :
    (∃ leftover, readExactSegments count segments =
          some (segments.flatten.take count, leftover) ∧
        count ≤ segments.flatten.length ∧
        leftover.flatten = segments.flatten.drop count) ∨
      (readExactSegments count segments = none ∧
        segments.flatten.length < count) := by
  induction segments generalizing count with
  | nil =>
      cases count with
      | zero => exact .inl ⟨[], rfl, Nat.le_refl 0, rfl⟩
      | succ count => exact .inr ⟨rfl, Nat.succ_pos count⟩
  | cons segment segments inductionHypothesis =>
      cases count with
      | zero => exact .inl ⟨segment :: segments, rfl, Nat.zero_le _, rfl⟩
      | succ count =>
          by_cases enough : count + 1 ≤ segment.length
          · left
            refine ⟨segment.drop (count + 1) :: segments, ?_, ?_, ?_⟩
            · rw [readExactSegments, if_pos enough, List.flatten_cons,
                List.take_append_of_le_length enough]
            · rw [List.flatten_cons, List.length_append]
              omega
            · rw [List.flatten_cons, List.flatten_cons,
                List.drop_append_of_le_length enough]
          · have split : count + 1 =
                segment.length + (count + 1 - segment.length) := by omega
            rcases inductionHypothesis (count + 1 - segment.length) with
              ⟨leftover, collected, bound, rest⟩ | ⟨ended, short⟩
            · left
              refine ⟨leftover, ?_, ?_, ?_⟩
              · rw [readExactSegments, if_neg enough, collected,
                  List.flatten_cons, split, List.take_length_add_append,
                  ← split]
                rfl
              · rw [List.flatten_cons, List.length_append]
                omega
              · rw [rest, List.flatten_cons]
                conv_rhs => rw [split]
                rw [List.drop_length_add_append]
            · right
              refine ⟨?_, ?_⟩
              · rw [readExactSegments, if_neg enough, ended]
                rfl
              · rw [List.flatten_cons, List.length_append]
                omega

/-- Read at most `capacity` bytes.  Nothing is read at the end of the stream. -/
def read
    (capacity : Nat)
    (stream : Stream) : Except IoError Bytes × Stream :=
  let result := readSegments capacity stream.incoming
  let next := { stream with incoming := result.2 }
  if result.1 = [] then
    match stream.ending with
    | none => (.ok [], next)
    | some error => (.error error, next)
  else (.ok result.1, next)

/-- Read exactly `count` bytes. -/
def readExact
    (count : Nat)
    (stream : Stream) : Except IoError Bytes × Stream :=
  match readExactSegments count stream.incoming with
  | some result => (.ok result.1, { stream with incoming := result.2 })
  | none =>
      (.error (stream.ending.getD .unexpectedEof),
        { stream with incoming := [] })

/-- Write all of the bytes, or as many as the peer accepts. -/
def writeAll
    (bytes : Bytes)
    (stream : Stream) : Except IoError Unit × Stream :=
  let outgoing := stream.outgoing ++ bytes
  match stream.limit with
  | none => (.ok (), { stream with outgoing })
  | some (limit, error) =>
      if outgoing.length ≤ limit then (.ok (), { stream with outgoing })
      else (.error error, { stream with outgoing := outgoing.take limit })

/-- What a successful `read_exact` does: it takes the front of the unread
bytes, whatever their segmentation, and nothing else changes. -/
theorem readExact_of_le
    {count : Nat}
    {stream : Stream}
    (enough : count ≤ stream.unread.length) :
    ∃ incoming, stream.readExact count =
        (.ok (stream.unread.take count), { stream with incoming }) ∧
      incoming.flatten = stream.unread.drop count := by
  rcases readExactSegments_spec count stream.incoming with
    ⟨leftover, collected, _, rest⟩ | ⟨_, short⟩
  · refine ⟨leftover, ?_, rest⟩
    rw [readExact, collected]
    rfl
  · exact absurd enough (Nat.not_le.mpr short)

/-- `read_exact` fails when too few bytes are unread. -/
theorem readExact_of_lt
    {count : Nat}
    {stream : Stream}
    (short : stream.unread.length < count) :
    stream.readExact count =
      (.error (stream.ending.getD .unexpectedEof),
        { stream with incoming := [] }) := by
  rcases readExactSegments_spec count stream.incoming with
    ⟨_, _, enough, _⟩ | ⟨ended, _⟩
  · exact absurd enough (Nat.not_le.mpr short)
  · rw [readExact, ended]

/-- What `read` returns is the front of the unread bytes. -/
theorem unread_of_read
    {capacity : Nat}
    {stream next : Stream}
    {bytes : Bytes}
    (read : stream.read capacity = (.ok bytes, next)) :
    stream.unread = bytes ++ next.unread := by
  have whole := readSegments_append_flatten capacity stream.incoming
  unfold Stream.read at read
  simp only at read
  split_ifs at read with empty
  · cases ending : stream.ending with
    | none =>
        rw [ending] at read
        obtain ⟨bytesEq, rfl⟩ := Prod.mk.inj read
        obtain rfl := Except.ok.inj bytesEq
        rw [empty] at whole
        exact whole.symm
    | some error =>
        rw [ending] at read
        cases read
  · obtain ⟨bytesEq, rfl⟩ := Prod.mk.inj read
    obtain rfl := Except.ok.inj bytesEq
    exact whole.symm

/-- A read returns something when something is unread. -/
theorem readSegments_ne_nil
    {capacity : Nat}
    (positive : 0 < capacity)
    {segments : List Bytes}
    (nonempty : segments.flatten ≠ []) :
    (readSegments capacity segments).1 ≠ [] := by
  induction segments with
  | nil => exact absurd rfl nonempty
  | cons segment segments inductionHypothesis =>
      unfold readSegments
      split_ifs with empty
      · rw [List.flatten_cons, empty, List.nil_append] at nonempty
        exact inductionHypothesis nonempty
      · intro nothing
        rcases List.take_eq_nil_iff.mp nothing with zero | none
        · exact absurd zero (Nat.ne_of_gt positive)
        · exact empty none

/-- A read of a stream with something unread takes part of it, and touches
nothing else. -/
theorem read_of_ne_nil
    {capacity : Nat}
    (positive : 0 < capacity)
    {stream : Stream}
    (nonempty : stream.unread ≠ []) :
    ∃ bytes incoming, stream.read capacity =
        (.ok bytes, { stream with incoming }) ∧
      bytes ≠ [] ∧ bytes <+: stream.unread := by
  have something := readSegments_ne_nil positive nonempty
  refine ⟨(readSegments capacity stream.incoming).1,
    (readSegments capacity stream.incoming).2, ?_, something, ?_⟩
  · rw [Stream.read]
    simp only [if_neg something]
  · exact ⟨_, readSegments_append_flatten capacity stream.incoming⟩

/-- A read returns nothing of what arrives after a nonempty message. -/
theorem readSegments_append
    (capacity : Nat)
    {message : List Bytes}
    (nonempty : message.flatten ≠ [])
    (later : List Bytes) :
    readSegments capacity (message ++ later) =
      ((readSegments capacity message).1,
        (readSegments capacity message).2 ++ later) := by
  induction message with
  | nil => exact absurd rfl nonempty
  | cons segment segments inductionHypothesis =>
      rw [List.cons_append, readSegments, readSegments]
      split_ifs with empty
      · refine inductionHypothesis ?_
        rw [List.flatten_cons, empty] at nonempty
        exact nonempty
      · rfl

/-- A message arrives in one piece that fits the buffer. -/
def ArrivesWhole (capacity : Nat) (message : List Bytes) : Prop :=
  message.filter (· ≠ []) = [message.flatten] ∧
    message.flatten.length ≤ capacity

/-- One read returns a whole message if it arrives whole. -/
theorem readSegments_eq_flatten_iff
    (capacity : Nat)
    {message : List Bytes}
    (nonempty : message.flatten ≠ []) :
    (readSegments capacity message).1 = message.flatten ↔
      ArrivesWhole capacity message := by
  induction message with
  | nil => exact absurd rfl nonempty
  | cons segment segments inductionHypothesis =>
      rw [readSegments, ArrivesWhole]
      rw [List.flatten_cons] at nonempty ⊢
      split_ifs with empty
      · subst empty
        exact inductionHypothesis nonempty
      · rw [List.filter_cons_of_pos (by simpa using empty)]
        constructor
        · intro whole
          have lengths := congrArg List.length whole
          rw [List.length_take, List.length_append] at lengths
          have positive := List.length_pos_of_ne_nil empty
          have rest : segments.flatten = [] :=
            List.eq_nil_of_length_eq_zero (by omega)
          rw [rest, List.append_nil]
          refine ⟨congrArg _ (List.filter_eq_nil_iff.mpr ?_), by omega⟩
          intro other member
          simpa using List.flatten_eq_nil_iff.mp rest other member
        · rintro ⟨only, fits⟩
          have whole := (List.cons.inj only).1
          rw [← whole] at fits ⊢
          exact List.take_of_length_le fits

/-- A read of a stream on which a nonempty message arrives first. -/
theorem read_message
    {capacity : Nat}
    (positive : 0 < capacity)
    {message : List Bytes}
    (nonempty : message.flatten ≠ [])
    (later : List Bytes)
    {stream : Stream}
    (arrives : stream.incoming = message ++ later) :
    stream.read capacity =
      (.ok (readSegments capacity message).1,
        { stream with incoming := (readSegments capacity message).2 ++ later }) := by
  have something := readSegments_ne_nil positive nonempty
  rw [Stream.read, arrives]
  simp only [readSegments_append capacity nonempty later, if_neg something]

/-- Reading a block in front of the unread bytes. -/
theorem readExact_append
    {stream : Stream}
    {block rest : Bytes}
    (unread : stream.unread = block ++ rest) :
    ∃ incoming, stream.readExact block.length =
        (.ok block, { stream with incoming }) ∧
      incoming.flatten = rest := by
  have enough : block.length ≤ stream.unread.length := by
    rw [unread, List.length_append]
    omega
  obtain ⟨incoming, success, leftover⟩ := readExact_of_le enough
  rw [unread, List.take_left] at success
  rw [unread, List.drop_left] at leftover
  exact ⟨incoming, success, leftover⟩

/-- Reading leaves the written bytes alone. -/
theorem outgoing_read (stream : Stream) (capacity : Nat) :
    (stream.read capacity).2.outgoing = stream.outgoing := by
  unfold Stream.read
  simp only
  split_ifs
  · cases stream.ending with
    | none => rfl
    | some error => rfl
  · rfl

/-- Reading a block leaves the written bytes alone. -/
theorem outgoing_readExact (stream : Stream) (count : Nat) :
    (stream.readExact count).2.outgoing = stream.outgoing := by
  unfold readExact
  cases readExactSegments count stream.incoming with
  | some result => rfl
  | none => rfl

/-- Whether the peer accepts that many bytes more. -/
def Accepts (stream : Stream) (count : Nat) : Prop :=
  ∀ limit error, stream.limit = some (limit, error) →
    stream.outgoing.length + count ≤ limit

/-- What has been written is a front of what was to be written. -/
theorem outgoing_writeAll_prefix (stream : Stream) (bytes : Bytes) :
    (stream.writeAll bytes).2.outgoing <+: stream.outgoing ++ bytes := by
  unfold writeAll
  cases stream.limit with
  | none => exact List.prefix_rfl
  | some limited =>
      simp only
      split_ifs
      · exact List.prefix_rfl
      · exact List.take_prefix _ _

/-- A peer without a limit accepts everything. -/
theorem accepts_of_unlimited
    {stream : Stream}
    (unlimited : stream.limit = none)
    (count : Nat) :
    stream.Accepts count := by
  intro limit error limited
  cases unlimited.symm.trans limited

/-- A peer that accepts more also accepts less. -/
theorem Accepts.mono
    {stream : Stream}
    {fewer more : Nat}
    (accepts : stream.Accepts more)
    (bound : fewer ≤ more) :
    stream.Accepts fewer := by
  intro limit error limited
  have room := accepts limit error limited
  omega

/-- After some bytes were written, the peer accepts as many fewer. -/
theorem Accepts.write
    {stream : Stream}
    {bytes : Bytes}
    {count : Nat}
    (accepts : stream.Accepts (bytes.length + count))
    (incoming : List Bytes) :
    Stream.Accepts { stream with
      incoming
      outgoing := stream.outgoing ++ bytes } count := by
  intro limit error limited
  have room := accepts limit error limited
  change (stream.outgoing ++ bytes).length + count ≤ limit
  rw [List.length_append]
  omega

/-- A write within what the peer accepts succeeds, and another one fails. -/
theorem writeAll_cases (stream : Stream) (bytes : Bytes) :
    (stream.Accepts bytes.length ∧ stream.writeAll bytes =
        (.ok (), { stream with outgoing := stream.outgoing ++ bytes })) ∨
      (¬stream.Accepts bytes.length ∧
        ∃ error next, stream.writeAll bytes = (.error error, next)) := by
  unfold writeAll
  cases limited : stream.limit with
  | none => exact .inl ⟨accepts_of_unlimited limited _, rfl⟩
  | some bound =>
      obtain ⟨limit, error⟩ := bound
      simp only
      split_ifs with fits
      · rw [List.length_append] at fits
        refine .inl ⟨?_, rfl⟩
        intro other otherError equal
        obtain ⟨rfl, rfl⟩ :=
          Prod.mk.inj (Option.some.inj (limited.symm.trans equal))
        exact fits
      · rw [List.length_append] at fits
        exact .inr ⟨fun accepts => fits (accepts limit error limited), error,
          _, rfl⟩

/-- A connection without a limit accepts every write. -/
theorem writeAll_of_limit_none
    {stream : Stream}
    (unlimited : stream.limit = none)
    (bytes : Bytes) :
    stream.writeAll bytes =
      (.ok (), { stream with outgoing := stream.outgoing ++ bytes }) := by
  rw [writeAll]
  simp only [unlimited]

end Stream

/-- A sequential program over a world, which may fail after some effects. -/
abbrev Program (World ε α : Type) := ExceptT ε (StateM World) α

namespace Program

variable {World ε α β : Type}

/-- Run a program, obtaining its result and the world it leaves. -/
def exec (program : Program World ε α) (world : World) : Except ε α × World :=
  program world

/-- Fail with `fault`. -/
def failWith (fault : ε) : Program World ε α :=
  fun world => (.error fault, world)

/-- The outcome of a pure computation. -/
def ofExcept (result : Except ε α) : Program World ε α :=
  fun world => (result, world)

/-- An operation on one connection of the world. -/
def onStream
    (stream : World → Stream)
    (replace : World → Stream → World)
    (operation : Stream → Except IoError α × Stream)
    (fault : IoError → ε) : Program World ε α :=
  fun world =>
    ((operation (stream world)).1.mapError fault,
      replace world (operation (stream world)).2)

/-- Run a program and ignore its failure. -/
def attempt (program : Program World ε α) : Program World ε Unit :=
  fun world => (.ok (), (exec program world).2)

/-- Change the world. -/
def update (change : World → World) : Program World ε Unit :=
  fun world => (.ok (), change world)

@[simp] theorem exec_pure (value : α) (world : World) :
    exec (pure value : Program World ε α) world = (.ok value, world) := rfl

@[simp] theorem exec_failWith (fault : ε) (world : World) :
    exec (failWith fault : Program World ε α) world = (.error fault, world) :=
  rfl

@[simp] theorem exec_ofExcept (result : Except ε α) (world : World) :
    exec (ofExcept result : Program World ε α) world = (result, world) := rfl

theorem exec_onStream
    (stream : World → Stream)
    (replace : World → Stream → World)
    (operation : Stream → Except IoError α × Stream)
    (fault : IoError → ε)
    (world : World) :
    exec (onStream stream replace operation fault) world =
      ((operation (stream world)).1.mapError fault,
        replace world (operation (stream world)).2) := rfl

@[simp] theorem exec_attempt
    (program : Program World ε α)
    (world : World) :
    exec (attempt program) world = (.ok (), (exec program world).2) := rfl

@[simp] theorem exec_update (change : World → World) (world : World) :
    exec (update change : Program World ε Unit) world =
      (.ok (), change world) := rfl

/-- A sequence continues from the world its first part leaves, unless that
part fails. -/
theorem exec_bind
    (first : Program World ε α)
    (next : α → Program World ε β)
    (world : World) :
    exec (first >>= next) world =
      match exec first world with
      | (.ok value, middle) => exec (next value) middle
      | (.error fault, middle) => (.error fault, middle) := by
  change (ExceptT.bind first next) world = _
  unfold ExceptT.bind exec
  simp only [ExceptT.mk, Bind.bind, StateT.bind]
  cases first world with
  | mk result middle =>
      cases result with
      | ok value => rfl
      | error fault => rfl

theorem exec_map
    (change : α → β)
    (first : Program World ε α)
    (world : World) :
    exec (change <$> first) world =
      match exec first world with
      | (.ok value, middle) => (.ok (change value), middle)
      | (.error fault, middle) => (.error fault, middle) := by
  rw [map_eq_bind_pure_comp, exec_bind]
  rfl

theorem exec_bind_of_ok
    {first : Program World ε α}
    {next : α → Program World ε β}
    {world middle : World}
    {value : α}
    (succeeded : exec first world = (.ok value, middle)) :
    exec (first >>= next) world = exec (next value) middle := by
  rw [exec_bind, succeeded]

theorem exec_bind_of_error
    {first : Program World ε α}
    {next : α → Program World ε β}
    {world middle : World}
    {fault : ε}
    (failed : exec first world = (.error fault, middle)) :
    exec (first >>= next) world = (.error fault, middle) := by
  rw [exec_bind, failed]

/-- A sequence succeeds when both parts do. -/
theorem exec_bind_eq_ok
    {first : Program World ε α}
    {next : α → Program World ε β}
    {world final : World}
    {result : β} :
    exec (first >>= next) world = (.ok result, final) ↔
      ∃ value middle, exec first world = (.ok value, middle) ∧
        exec (next value) middle = (.ok result, final) := by
  rw [exec_bind]
  cases exec first world with
  | mk outcome middle =>
      cases outcome with
      | ok value =>
          constructor
          · intro succeeded
            exact ⟨value, middle, rfl, succeeded⟩
          · rintro ⟨other, after, same, succeeded⟩
            obtain ⟨sameValue, rfl⟩ := Prod.mk.inj same
            obtain rfl := Except.ok.inj sameValue
            exact succeeded
      | error fault =>
          constructor
          · intro failed
            obtain ⟨isError, -⟩ := Prod.mk.inj failed
            cases isError
          · rintro ⟨other, after, same, _⟩
            obtain ⟨isError, -⟩ := Prod.mk.inj same
            cases isError

/-- What the rest of a sequence leaves alone is as its first part left it. -/
theorem observe_exec_bind
    {γ : Type}
    (observe : World → γ)
    {first : Program World ε α}
    {next : α → Program World ε β}
    (kept : ∀ value world,
      observe (exec (next value) world).2 = observe world)
    (world : World) :
    observe (exec (first >>= next) world).2 =
      observe (exec first world).2 := by
  rw [exec_bind]
  cases exec first world with
  | mk result middle =>
      cases result with
      | ok value => exact kept value middle
      | error fault => rfl

/-! ## What a program leaves alone -/

/-- The program leaves what is observed of the world as it is. -/
def Keeps
    {γ : Type}
    (observe : World → γ)
    (program : Program World ε α) : Prop :=
  ∀ world, observe (exec program world).2 = observe world

theorem keeps_pure
    {γ : Type}
    (observe : World → γ)
    (value : α) :
    Keeps observe (pure value : Program World ε α) :=
  fun _ => rfl

theorem keeps_failWith
    {γ : Type}
    (observe : World → γ)
    (fault : ε) :
    Keeps observe (failWith fault : Program World ε α) :=
  fun _ => rfl

theorem keeps_ofExcept
    {γ : Type}
    (observe : World → γ)
    (result : Except ε α) :
    Keeps observe (ofExcept result : Program World ε α) :=
  fun _ => rfl

/-- A sequence leaves alone what both of its parts do. -/
theorem Keeps.bind
    {γ : Type}
    {observe : World → γ}
    {first : Program World ε α}
    {next : α → Program World ε β}
    (keepsFirst : Keeps observe first)
    (keepsNext : ∀ value, Keeps observe (next value)) :
    Keeps observe (first >>= next) := by
  intro world
  rw [observe_exec_bind observe fun value middle => keepsNext value middle]
  exact keepsFirst world

/-- Changing the result leaves the world alone. -/
theorem Keeps.map
    {γ : Type}
    {observe : World → γ}
    {program : Program World ε α}
    (keeps : Keeps observe program)
    (change : α → β) :
    Keeps observe (change <$> program) := by
  intro world
  rw [exec_map, ← keeps world]
  cases exec program world with
  | mk result middle =>
      cases result with
      | ok value => rfl
      | error fault => rfl

end Program
end Foundation
