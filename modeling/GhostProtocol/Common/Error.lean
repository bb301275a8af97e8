import GhostProtocol.Common.Address
import GhostProtocol.Crypto.Cipher
import GhostProtocol.Foundation.Stream

/-!
# Errors of a connection

The errors a connection handler returns: those of its codecs, its cipher and
its sockets, and messages of its own.
-/

namespace GhostProtocol
namespace Common

open Foundation

/-- Any error a handler returns.  `targetContext` is the message that
connecting to the target failed, and `proxyContext` that connecting to a SOCKS5
proxy failed. -/
inductive AnyError
  | io (error : IoError)
  | protocol (error : ProtocolError)
  | crypto (error : Crypto.CryptoError)
  | utf8 (bytes : Bytes)
  | message (text : String)
  | context (text : String) (source : AnyError)
  | targetContext (target : TargetAddr) (source : AnyError)
  | proxyContext (proxy : SocketAddr) (source : AnyError)
  deriving DecidableEq

/-- The failure of a handler, with the world it leaves. -/
abbrev Handler (World α : Type) := Program World (Fault AnyError) α

/-- Return the error with the given text. -/
def bail (text : String) : Handler World α :=
  Program.failWith (.error (.message text))

/-- The failure of a frame codec as that of a handler. -/
def protocolFault : Fault ProtocolError → Fault AnyError
  | .error error => .error (.protocol error)
  | .panic => .panic

/-- The outcome of a frame codec. -/
def liftProtocol (result : Outcome ProtocolError α) : Handler World α :=
  Program.ofExcept (result.mapError protocolFault)

/-- The outcome of a cipher. -/
def liftCrypto (result : Except Crypto.CryptoError α) : Handler World α :=
  Program.ofExcept (result.mapError fun error => .error (.crypto error))

/-- The outcome of a socket operation. -/
def liftIo (result : Except IoError α) : Handler World α :=
  Program.ofExcept (result.mapError fun error => .error (.io error))

/-- The outcome of a computation that may panic. -/
def liftOutcome (result : Outcome AnyError α) : Handler World α :=
  Program.ofExcept result

/-- An operation on the only connection of a handler. -/
def onSocket
    (operation : Stream → Except IoError α × Stream) : Handler Stream α :=
  Program.onStream id (fun _ stream => stream) operation fun error =>
    .error (.io error)

@[simp] theorem exec_bail (text : String) (world : World) :
    (bail text : Handler World α).exec world =
      (.error (.error (.message text)), world) := rfl

@[simp] theorem exec_liftOutcome
    (result : Outcome AnyError α)
    (world : World) :
    (liftOutcome result : Handler World α).exec world = (result, world) := rfl

@[simp] theorem exec_liftCrypto_ok (value : α) (world : World) :
    (liftCrypto (.ok value) : Handler World α).exec world =
      (.ok value, world) := rfl

/-- A successful `read_exact` takes a block of the requested length off the
front of what is unread. -/
theorem unread_of_exec_readExact
    {count : Nat}
    {stream next : Stream}
    {block : Bytes}
    (ran : (onSocket (Stream.readExact count)).exec stream =
      (.ok block, next)) :
    stream.unread = block ++ next.unread ∧ block.length = count := by
  rw [onSocket, Program.exec_onStream, id] at ran
  by_cases enough : count ≤ stream.unread.length
  · obtain ⟨incoming, success, leftover⟩ := Stream.readExact_of_le enough
    rw [success] at ran
    obtain ⟨blockEq, rfl⟩ := Prod.mk.inj ran
    rw [← Except.ok.inj blockEq]
    refine ⟨?_, List.length_take_of_le enough⟩
    rw [show Stream.unread { stream with incoming } = incoming.flatten from rfl,
      leftover, List.take_append_drop]
  · rw [Stream.readExact_of_lt (Nat.not_le.mp enough)] at ran
    obtain ⟨failed, -⟩ := Prod.mk.inj ran
    cases failed

/-- A block in front of what is unread can be read. -/
theorem exec_readExact_append
    {stream : Stream}
    {block rest : Bytes}
    {count : Nat}
    (length : block.length = count)
    (unread : stream.unread = block ++ rest) :
    ∃ incoming, (onSocket (Stream.readExact count)).exec stream =
        (.ok block, { stream with incoming }) ∧
      incoming.flatten = rest := by
  subst length
  obtain ⟨incoming, success, leftover⟩ := Stream.readExact_append unread
  refine ⟨incoming, ?_, leftover⟩
  rw [onSocket, Program.exec_onStream, id, success]
  rfl

/-- A handler that ends with a failure other than a panic. -/
def Fails (handler : Handler World α) (world : World) : Prop :=
  ∃ error next, handler.exec world = (.error (.error error), next)

/-- A read takes the front of what is unread, if there is enough, and fails
otherwise. -/
theorem exec_readExact_cases (count : Nat) (stream : Stream) :
    (count ≤ stream.unread.length ∧
        ∃ incoming, (onSocket (Stream.readExact count)).exec stream =
            (.ok (stream.unread.take count), { stream with incoming }) ∧
          incoming.flatten = stream.unread.drop count) ∨
      (stream.unread.length < count ∧
        Fails (onSocket (Stream.readExact count)) stream) := by
  by_cases enough : count ≤ stream.unread.length
  · obtain ⟨incoming, success, leftover⟩ := Stream.readExact_of_le enough
    refine .inl ⟨enough, incoming, ?_, leftover⟩
    rw [onSocket, Program.exec_onStream, id, success]
    rfl
  · have short := Nat.not_le.mp enough
    refine .inr ⟨short, .io (stream.ending.getD .unexpectedEof),
      { stream with incoming := [] }, ?_⟩
    rw [onSocket, Program.exec_onStream, id, Stream.readExact_of_lt short]
    rfl

/-- Reading leaves the written bytes alone. -/
theorem outgoing_exec_readExact (count : Nat) (stream : Stream) :
    ((onSocket (Stream.readExact count)).exec stream).2.outgoing =
      stream.outgoing := by
  rw [onSocket, Program.exec_onStream, id]
  exact stream.outgoing_readExact count

/-- A write within what the peer accepts succeeds, and another one fails. -/
theorem exec_writeAll_cases (bytes : Bytes) (stream : Stream) :
    (stream.Accepts bytes.length ∧
        (onSocket (Stream.writeAll bytes)).exec stream =
          (.ok (), { stream with outgoing := stream.outgoing ++ bytes })) ∨
      (¬stream.Accepts bytes.length ∧
        Fails (onSocket (Stream.writeAll bytes)) stream) := by
  rcases stream.writeAll_cases bytes with
    ⟨accepts, written⟩ | ⟨refused, error, next, failed⟩
  · refine .inl ⟨accepts, ?_⟩
    rw [onSocket, Program.exec_onStream, id, written]
    rfl
  · refine .inr ⟨refused, .io error, next, ?_⟩
    rw [onSocket, Program.exec_onStream, id, failed]
    rfl

/-- A failure ends the sequence. -/
theorem Fails.bind
    {first : Handler World α}
    {next : α → Handler World β}
    {world : World}
    (fails : Fails first world) :
    Fails (first >>= next) world := by
  obtain ⟨error, middle, failed⟩ := fails
  exact ⟨error, middle, Program.exec_bind_of_error failed⟩

/-- A failure behind a success is a failure of the sequence. -/
theorem Fails.of_bind
    {first : Handler World α}
    {next : α → Handler World β}
    {world middle : World}
    {value : α}
    (succeeded : first.exec world = (.ok value, middle))
    (fails : Fails (next value) middle) :
    Fails (first >>= next) world := by
  obtain ⟨error, final, failed⟩ := fails
  exact ⟨error, final, (Program.exec_bind_of_ok succeeded).trans failed⟩

/-- A sequence whose first part fails leaves alone what that part does. -/
theorem Fails.observe_bind
    {γ : Type}
    (observe : World → γ)
    {first : Handler World α}
    {next : α → Handler World β}
    {world : World}
    (fails : Fails first world)
    (kept : observe (first.exec world).2 = observe world) :
    observe ((first >>= next).exec world).2 = observe world := by
  obtain ⟨error, middle, failed⟩ := fails
  rw [failed] at kept
  rw [Program.exec_bind_of_error failed]
  exact kept

theorem fails_bail (text : String) (world : World) :
    Fails (bail text : Handler World α) world :=
  ⟨_, _, rfl⟩

/-- A write followed by an error fails either way. -/
theorem fails_writeAll_bail
    (bytes : Bytes)
    (text : String)
    (stream : Stream) :
    Fails (onSocket (Stream.writeAll bytes) >>= fun _ =>
      (bail text : Handler Stream α)) stream := by
  rcases exec_writeAll_cases bytes stream with ⟨-, written⟩ | ⟨-, fails⟩
  · exact .of_bind written (fails_bail text _)
  · exact fails.bind

/-- A write that the peer accepts. -/
theorem exec_writeAll
    {stream : Stream}
    (unlimited : stream.limit = none)
    (bytes : Bytes) :
    (onSocket (Stream.writeAll bytes)).exec stream =
      (.ok (), { stream with outgoing := stream.outgoing ++ bytes }) := by
  rw [onSocket, Program.exec_onStream, id,
    Stream.writeAll_of_limit_none unlimited]
  rfl

/-- A write leaves what is unread alone. -/
theorem unread_of_exec_writeAll
    {bytes : Bytes}
    {stream next : Stream}
    (ran : (onSocket (Stream.writeAll bytes)).exec stream = (.ok (), next)) :
    next.unread = stream.unread := by
  rcases exec_writeAll_cases bytes stream with
    ⟨-, written⟩ | ⟨-, error, after, failed⟩
  · rw [written] at ran
    rw [← (Prod.mk.inj ran).2]
    rfl
  · rw [failed] at ran
    cases ran

/-! ## What a handler writes -/

/-- A handler writes the bytes, or a front of them if it fails. -/
structure Writes (handler : Handler Stream α) (bytes : Bytes) : Prop where
  whole : ∀ {stream next : Stream} {value : α},
    handler.exec stream = (.ok value, next) →
      next.outgoing = stream.outgoing ++ bytes
  part : ∀ stream : Stream,
    (handler.exec stream).2.outgoing <+: stream.outgoing ++ bytes

/-- A handler that leaves the written bytes alone writes nothing. -/
theorem writes_nil_of_keeps
    {handler : Handler Stream α}
    (keeps : handler.Keeps Stream.outgoing) :
    Writes handler [] := by
  refine ⟨fun {stream next value} executed => ?_, fun stream => ?_⟩
  · have kept := keeps stream
    rw [executed] at kept
    rw [List.append_nil]
    exact kept
  · rw [keeps stream]
    exact List.prefix_append _ _

theorem writes_pure (value : α) :
    Writes (pure value) [] :=
  writes_nil_of_keeps (Program.keeps_pure _ _)

/-- A handler that fails at once has written a front of anything. -/
theorem writes_liftOutcome_error (fault : Fault AnyError) (bytes : Bytes) :
    Writes (liftOutcome (.error fault) : Handler Stream α) bytes := by
  refine ⟨fun {stream next value} executed => ?_, fun stream => ?_⟩
  · cases executed
  · exact List.prefix_append _ _

theorem writes_readExact (count : Nat) :
    Writes (onSocket (Stream.readExact count)) [] :=
  writes_nil_of_keeps (outgoing_exec_readExact count)

/-- A write writes its bytes. -/
theorem writes_writeAll (bytes : Bytes) :
    Writes (onSocket (Stream.writeAll bytes)) bytes := by
  refine ⟨fun {stream next value} executed => ?_, fun stream => ?_⟩
  · rcases exec_writeAll_cases bytes stream with
      ⟨-, written⟩ | ⟨-, error, after, failed⟩
    · rw [written] at executed
      rw [← (Prod.mk.inj executed).2]
    · rw [failed] at executed
      cases executed
  · rw [onSocket, Program.exec_onStream]
    exact stream.outgoing_writeAll_prefix bytes

/-- A sequence writes what its parts write. -/
theorem Writes.bind
    {first : Handler Stream α}
    {next : α → Handler Stream β}
    {front rest : Bytes}
    (writesFirst : Writes first front)
    (writesNext : ∀ value, Writes (next value) rest) :
    Writes (first >>= next) (front ++ rest) := by
  refine ⟨fun {stream final result} executed => ?_, fun stream => ?_⟩
  · obtain ⟨value, middle, ran, continued⟩ :=
      Program.exec_bind_eq_ok.mp executed
    rw [(writesNext value).whole continued, writesFirst.whole ran,
      List.append_assoc]
  · cases ran : first.exec stream with
    | mk outcome middle =>
        cases outcome with
        | ok value =>
            have behind := (writesNext value).part middle
            rw [writesFirst.whole ran, List.append_assoc] at behind
            rw [Program.exec_bind_of_ok ran]
            exact behind
        | error fault =>
            have part := writesFirst.part stream
            rw [ran] at part
            rw [Program.exec_bind_of_error ran, ← List.append_assoc]
            exact part.trans (List.prefix_append _ _)

/-- A handler writes the answer if it succeeds, and otherwise a front of the
answer or of one of the refusals. -/
structure Answers
    (handler : Handler Stream α)
    (refusals : List Bytes)
    (answer : Bytes) : Prop where
  whole : ∀ {stream next : Stream} {value : α},
    handler.exec stream = (.ok value, next) →
      next.outgoing = stream.outgoing ++ answer
  part : ∀ stream : Stream, ∃ bytes ∈ answer :: refusals,
    (handler.exec stream).2.outgoing <+: stream.outgoing ++ bytes

/-- A handler that writes an answer refuses nothing. -/
theorem Writes.answers
    {handler : Handler Stream α}
    {answer : Bytes}
    (writes : Writes handler answer)
    (refusals : List Bytes) :
    Answers handler refusals answer :=
  ⟨writes.whole, fun stream =>
    ⟨answer, List.mem_cons_self, writes.part stream⟩⟩

/-- An error is an answer that has not been written. -/
theorem answers_bail
    (text : String)
    (refusals : List Bytes)
    (answer : Bytes) :
    Answers (bail text : Handler Stream α) refusals answer := by
  refine ⟨fun {stream next value} executed => ?_, fun stream => ?_⟩
  · cases executed
  · exact ⟨answer, List.mem_cons_self, List.prefix_append _ _⟩

/-- A refusal is written and followed by an error. -/
theorem answers_refusal
    {refusal : Bytes}
    {refusals : List Bytes}
    (member : refusal ∈ refusals)
    (text : String)
    (answer : Bytes) :
    Answers (onSocket (Stream.writeAll refusal) >>= fun _ =>
      (bail text : Handler Stream α)) refusals answer := by
  refine ⟨fun {stream next value} executed => ?_, fun stream => ?_⟩
  · obtain ⟨-, middle, -, failed⟩ := Program.exec_bind_eq_ok.mp executed
    cases failed
  · refine ⟨refusal, List.mem_cons_of_mem _ member, ?_⟩
    rw [Program.observe_exec_bind Stream.outgoing fun _ _ => rfl]
    exact (writes_writeAll refusal).part stream

/-- What is written first stands in front of every answer. -/
theorem Answers.bind
    {first : Handler Stream α}
    {next : α → Handler Stream β}
    {front answer : Bytes}
    {refusals : List Bytes}
    (writes : Writes first front)
    (answers : ∀ value, Answers (next value) refusals answer) :
    Answers (first >>= next) (refusals.map (front ++ ·))
      (front ++ answer) := by
  refine ⟨fun {stream final result} executed => ?_, fun stream => ?_⟩
  · obtain ⟨value, middle, ran, continued⟩ :=
      Program.exec_bind_eq_ok.mp executed
    rw [(answers value).whole continued, writes.whole ran, List.append_assoc]
  · cases ran : first.exec stream with
    | mk outcome middle =>
        cases outcome with
        | ok value =>
            obtain ⟨bytes, member, part⟩ := (answers value).part middle
            refine ⟨front ++ bytes, ?_, ?_⟩
            · exact (List.mem_map.mpr ⟨bytes, member, rfl⟩ : front ++ bytes ∈
                (answer :: refusals).map (front ++ ·))
            · rw [Program.exec_bind_of_ok ran, ← List.append_assoc,
                ← writes.whole ran]
              exact part
        | error fault =>
            have part := writes.part stream
            rw [ran] at part
            refine ⟨front ++ answer, List.mem_cons_self, ?_⟩
            rw [Program.exec_bind_of_error ran, ← List.append_assoc]
            exact part.trans (List.prefix_append _ _)

/-- More refusals are allowed. -/
theorem Answers.mono
    {handler : Handler Stream α}
    {answer : Bytes}
    {refusals more : List Bytes}
    (answers : Answers handler refusals answer)
    (subset : refusals ⊆ more) :
    Answers handler more answer := by
  refine ⟨answers.whole, fun stream => ?_⟩
  obtain ⟨bytes, member, part⟩ := answers.part stream
  exact ⟨bytes, List.cons_subset_cons answer subset member, part⟩

/-- What writes nothing may stand in front. -/
theorem Answers.after
    {first : Handler Stream α}
    {next : α → Handler Stream β}
    {answer : Bytes}
    {refusals : List Bytes}
    (silent : Writes first [])
    (answers : ∀ value, Answers (next value) refusals answer) :
    Answers (first >>= next) refusals answer := by
  have behind := Answers.bind silent answers
  simp only [List.nil_append, List.map_id'] at behind
  exact behind

theorem answers_ite
    {condition : Prop}
    [Decidable condition]
    {first second : Handler Stream α}
    {refusals : List Bytes}
    {answer : Bytes}
    (onTrue : Answers first refusals answer)
    (onFalse : Answers second refusals answer) :
    Answers (if condition then first else second) refusals answer := by
  split_ifs
  · exact onTrue
  · exact onFalse

end Common
end GhostProtocol
