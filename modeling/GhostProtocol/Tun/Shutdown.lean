import GhostProtocol.Tun.Processor

/-!
# The end of a run of the packet relay

The run of a processor reads packets from the interface, while a task of its
own writes the packets that it takes from a channel.  The sessions send into
that channel, each through a sending end of its own, and the writing task ends
when the channel is empty and no sending end is left.  The run keeps the first
sending end until it returns, and returns only after the writing task, so it
never does.
-/

namespace GhostProtocol
namespace Tun

open Foundation

/-- What the run of a processor does next. -/
inductive MainPoint
  | read
  | joinWriter
  | returned
  deriving DecidableEq, Repr

/-- What the task that writes packets does next. -/
inductive WriterPoint
  | receive
  | write (packet : Packet)
  | ended
  deriving DecidableEq, Repr

/-- A processor with its run, its writing task and the channel between the
sessions and that task. -/
structure TunRun where
  processor : TunProcessor
  main : MainPoint
  writer : WriterPoint
  channel : List Packet

/-- Bytes of the buffer for a packet from the interface. -/
def TUN_BUF_LEN : Nat := 65535

/-- Whether a session owns a sending end: its task does until it ends, and the
task that reads from the proxy has one of its own. -/
def TcpSession.ownsSender (session : TcpSession) : Bool :=
  session.phase ≠ .ended || session.socksToTun

/-- Whether the task of a session and the two tasks it has spawned have
ended. -/
def TcpSession.hasEnded (session : TcpSession) : Bool :=
  session.phase = .ended && !session.socksToTun && !session.dataToSocks

/-- What happens next: the interface is read, a session has an event, or the
writing task or the run goes on. -/
inductive RunLabel
  /-- A packet is read and processed. -/
  | readPacket (data : Bytes)
  /-- Reading fails, and is tried again. -/
  | readError
  /-- Reading returns no bytes: the interface is closed. -/
  | readZero
  | session (id : Nat) (event : SessionEvent)
  /-- The writing task takes a packet from the channel. -/
  | receive
  /-- The packet is written, or writing it fails, which is only logged. -/
  | write
  /-- The writing task finds the channel empty and without sending ends. -/
  | channelClosed
  /-- The run finds the writing task ended. -/
  | join
  deriving DecidableEq, Repr

namespace TunRun

/-- A run of a new processor. -/
def new : TunRun where
  processor := .new
  main := .read
  writer := .receive
  channel := []

/-- Whether a sending end of the channel is left. -/
def hasSender (self : TunRun) : Bool :=
  self.main ≠ .returned || self.processor.sessions.any (·.ownsSender)

/-- One step of the run and of the tasks it has spawned. -/
def step
    (parser : HeaderParser)
    (self : TunRun) : RunLabel → Option TunRun
  | .readPacket data =>
      if self.main = .read ∧ data ≠ [] ∧ data.length ≤ TUN_BUF_LEN then
        (self.processor.step parser (.packet data)).map fun processor =>
          { self with processor }
      else none
  | .readError => if self.main = .read then some self else none
  | .readZero =>
      if self.main = .read then some { self with main := .joinWriter }
      else none
  | .session id event =>
      (self.processor.step parser (.session id event)).map fun processor =>
        { self with
          processor
          channel := self.channel ++ (processor.emitted.drop
            self.processor.emitted.length).map Prod.snd }
  | .receive =>
      if self.writer = .receive then
        match self.channel with
        | [] => none
        | packet :: channel =>
            some { self with writer := .write packet, channel }
      else none
  | .write =>
      match self.writer with
      | .write _ => some { self with writer := .receive }
      | _ => none
  | .channelClosed =>
      if self.writer = .receive ∧ self.channel = [] ∧
          self.hasSender = false then
        some { self with writer := .ended }
      else none
  | .join =>
      if self.main = .joinWriter ∧ self.writer = .ended then
        some { self with main := .returned }
      else none

/-- Reading has returned no bytes, and every session has ended. -/
structure ShutDown (state : TunRun) : Prop where
  closed : state.main ≠ .read
  ended : ∀ session ∈ state.processor.sessions, session.hasEnded = true

/-- Once it is shut down, the run of a processor is never stuck before it has
returned. -/
def ReturnsAtShutdown (parser : HeaderParser) : Prop :=
  ∀ labels state, Run.run (step parser) new labels = some state →
    state.ShutDown → state.main ≠ .returned → ¬Run.Stuck (step parser) state

/-! ## The sending end of the run -/

/-- The run has not returned, and its writing task has not ended. -/
structure Waits (state : TunRun) : Prop where
  main : state.main ≠ .returned
  writer : state.writer ≠ .ended

/-- A run that has not returned owns a sending end. -/
theorem Waits.hasSender
    {self : TunRun}
    (waits : self.Waits) :
    self.hasSender = true := by
  rw [TunRun.hasSender, decide_eq_true waits.main, Bool.true_or]

/-- Nothing ends the writing task before the run returns, and nothing lets the
run return before the writing task ends. -/
theorem Waits.step
    {parser : HeaderParser}
    {self next : TunRun}
    {label : RunLabel}
    (waits : self.Waits)
    (stepped : self.step parser label = some next) :
    next.Waits := by
  cases label with
  | readPacket data =>
      rw [TunRun.step] at stepped
      split_ifs at stepped
      obtain ⟨processor, -, rfl⟩ := Option.map_eq_some_iff.mp stepped
      exact ⟨waits.main, waits.writer⟩
  | readError =>
      rw [TunRun.step] at stepped
      split_ifs at stepped
      obtain rfl := Option.some.inj stepped
      exact waits
  | readZero =>
      rw [TunRun.step] at stepped
      split_ifs at stepped
      obtain rfl := Option.some.inj stepped
      exact ⟨MainPoint.noConfusion, waits.writer⟩
  | session id event =>
      rw [TunRun.step] at stepped
      obtain ⟨processor, -, rfl⟩ := Option.map_eq_some_iff.mp stepped
      exact ⟨waits.main, waits.writer⟩
  | receive =>
      rw [TunRun.step] at stepped
      split_ifs at stepped
      cases queued : self.channel with
      | nil =>
          rw [queued] at stepped
          cases stepped
      | cons packet channel =>
          rw [queued] at stepped
          obtain rfl := Option.some.inj stepped
          exact ⟨waits.main, WriterPoint.noConfusion⟩
  | write =>
      rw [TunRun.step] at stepped
      cases point : self.writer with
      | receive =>
          rw [point] at stepped
          cases stepped
      | ended => exact absurd point waits.writer
      | write packet =>
          rw [point] at stepped
          obtain rfl := Option.some.inj stepped
          exact ⟨waits.main, WriterPoint.noConfusion⟩
  | channelClosed =>
      rw [TunRun.step] at stepped
      split_ifs at stepped with closed
      rw [waits.hasSender] at closed
      exact absurd closed.2.2 Bool.noConfusion
  | join =>
      rw [TunRun.step] at stepped
      split_ifs at stepped with ended
      exact absurd ended.2 waits.writer

/-- No run ever returns. -/
theorem waits_of_run
    {parser : HeaderParser}
    {labels : List RunLabel}
    {state : TunRun}
    (reached : Run.run (step parser) new labels = some state) :
    state.Waits :=
  Run.invariant_of_step Waits
    (fun _ _ _ waits stepped => waits.step stepped)
    ⟨MainPoint.noConfusion, WriterPoint.noConfusion⟩ reached

/-! ## Where a run gets stuck -/

/-- Nothing happens to a session that has ended. -/
theorem step_of_hasEnded
    {session : TcpSession}
    (ended : session.hasEnded = true)
    (attached : Bool)
    (event : SessionEvent) :
    session.step attached event = none := by
  simp only [TcpSession.hasEnded, Bool.and_eq_true, decide_eq_true_eq,
    Bool.not_eq_true'] at ended
  obtain ⟨⟨phase, notReading⟩, notWriting⟩ := ended
  cases event with
  | socksWrite count =>
      cases writing : session.writing with
      | none => simp [TcpSession.step, writing]
      | some payload => simp [TcpSession.step, writing, notWriting]
  | _ => simp [TcpSession.step, phase, notReading, notWriting]

/-- A run that is shut down is stuck as soon as the channel is empty and the
writing task waits for a packet. -/
theorem stuck_of_drained
    (parser : HeaderParser)
    {self : TunRun}
    (shutDown : self.ShutDown)
    (waits : self.Waits)
    (drained : self.channel = [])
    (receiving : self.writer = .receive) :
    Run.Stuck (step parser) self := by
  intro label
  cases label with
  | readPacket data => exact if_neg fun reads => shutDown.closed reads.1
  | readError => exact if_neg shutDown.closed
  | readZero => exact if_neg shutDown.closed
  | session id event =>
      rw [step, TunProcessor.step]
      cases found : self.processor.sessions[id]? with
      | none => rfl
      | some session =>
          have ended := shutDown.ended session (List.mem_of_getElem? found)
          simp only [step_of_hasEnded ended]
          rfl
  | receive =>
      rw [step, if_pos receiving, drained]
  | write =>
      rw [step, receiving]
  | channelClosed =>
      refine if_neg fun closed => ?_
      rw [waits.hasSender] at closed
      exact absurd closed.2.2 Bool.noConfusion
  | join => exact if_neg fun ended => waits.writer ended.2

/-- The writing task drains the channel. -/
theorem exists_drained
    (parser : HeaderParser)
    (channel : List Packet)
    {self : TunRun}
    (receiving : self.writer = .receive)
    (queued : self.channel = channel) :
    ∃ labels, Run.run (step parser) self labels =
      some { self with channel := [] } := by
  induction channel generalizing self with
  | nil =>
      refine ⟨[], congrArg some ?_⟩
      rw [← queued]
  | cons packet channel inductionHypothesis =>
      obtain ⟨labels, drained⟩ :=
        @inductionHypothesis { self with channel } receiving rfl
      refine ⟨.receive :: .write :: labels, ?_⟩
      have taken : step parser self .receive =
          some { self with writer := .write packet, channel } := by
        rw [step, if_pos receiving, queued]
      have written : step parser
          { self with writer := .write packet, channel } .write =
            some { self with channel } := by
        rw [step, ← receiving]
      rw [Run.run_cons_eq_some]
      refine ⟨_, taken, ?_⟩
      rw [Run.run_cons_eq_some]
      exact ⟨_, written, drained⟩

/-- From every state in which a run is shut down it comes to a state in which
it is stuck without having returned. -/
theorem stuck_at_shutdown
    {parser : HeaderParser}
    {labels : List RunLabel}
    {state : TunRun}
    (reached : Run.run (step parser) new labels = some state)
    (shutDown : state.ShutDown) :
    ∃ more final, Run.run (step parser) state more = some final ∧
      final.ShutDown ∧ final.main ≠ .returned ∧
      Run.Stuck (step parser) final := by
  have waits := waits_of_run reached
  obtain ⟨first, middle, came, same, receiving, stillWaits⟩ :
      ∃ first middle, Run.run (step parser) state first = some middle ∧
        middle.ShutDown ∧ middle.writer = .receive ∧ middle.Waits := by
    cases point : state.writer with
    | receive => exact ⟨[], state, rfl, shutDown, point, waits⟩
    | ended => exact absurd point waits.writer
    | write packet =>
        refine ⟨[.write], { state with writer := .receive }, ?_,
          ⟨shutDown.closed, shutDown.ended⟩, rfl,
          ⟨waits.main, WriterPoint.noConfusion⟩⟩
        rw [Run.run_cons_eq_some]
        refine ⟨_, ?_, rfl⟩
        rw [step, point]
  obtain ⟨second, drained⟩ := exists_drained parser middle.channel receiving rfl
  refine ⟨first ++ second, _,
    (Run.run_append_eq_some _ _ _ _ _).mpr ⟨middle, came, drained⟩,
    ⟨same.closed, same.ended⟩, stillWaits.main, ?_⟩
  exact stuck_of_drained parser ⟨same.closed, same.ended⟩
    ⟨stillWaits.main, stillWaits.writer⟩ rfl receiving

/-- The session of the web connection after its connection through the proxy has
failed. -/
def failedSession : TcpSession :=
  { TcpSession.new webSynSegment.key webSynSegment.sequenceNumber
      webSynSegment.target with
    phase := .ended }

/-- The packet that tells the application so. -/
def failedPacket : Packet :=
  failedSession.packet 0 (failedSession.clientInitialSeq + 1) true false true
    false false []

/-- The interface is closed after that, while the packet still waits to be
written. -/
def failedRun : TunRun where
  processor := {
    TunProcessor.new.spawn webSynSegment with
    sessions := [failedSession]
    emitted := [(0, failedPacket)] }
  main := .joinWriter
  writer := .receive
  channel := [failedPacket]

/-- The labels that lead there. -/
theorem run_failedRun :
    Run.run (step headerFormats) new
        [.readPacket webSyn, .session 0 .connectFailed, .readZero] =
      some failedRun := by
  have opened : step headerFormats new (.readPacket webSyn) =
      some { new with processor := TunProcessor.new.spawn webSynSegment } := by
    rw [step, if_pos ⟨rfl, by decide, by decide⟩]
    exact congrArg (Option.map fun processor => { new with processor })
      TunProcessor.step_webSyn
  rw [Run.run_cons_eq_some]
  exact ⟨_, opened, rfl⟩

/-- The session has ended and its last packet is written, and then the run is
stuck. -/
theorem stuck_at_shutdown_failed :
    ∃ more final,
      Run.run (step headerFormats) failedRun more = some final ∧
      final.ShutDown ∧ final.main ≠ .returned ∧
      Run.Stuck (step headerFormats) final :=
  stuck_at_shutdown run_failedRun ⟨MainPoint.noConfusion, fun _ member =>
    List.mem_singleton.mp member ▸ rfl⟩

/-- A run is stuck when its interface is closed before any packet is read. -/
theorem not_returnsAtShutdown :
    ¬ReturnsAtShutdown headerFormats := by
  intro returns
  have shutDown : ShutDown { new with main := .joinWriter } :=
    ⟨MainPoint.noConfusion, by simp [new, TunProcessor.new]⟩
  refine returns [.readZero] _ rfl shutDown MainPoint.noConfusion ?_
  exact stuck_of_drained headerFormats shutDown
    ⟨MainPoint.noConfusion, WriterPoint.noConfusion⟩ rfl rfl

end TunRun
end Tun
end GhostProtocol
