import GhostProtocol.Tun.Packet
import Mathlib.Data.List.Infix

/-!
# A TCP session of the packet relay

A session connects to its target through the local proxy, answers the client's
SYN, and then runs two tasks of its own: one turns what the proxy sends into
packets, the other writes what the client sends to the proxy.  The session ends
when the first of the two does; the other one is detached and goes on.
-/

namespace GhostProtocol
namespace Tun

open Foundation Common

/-- Bytes of the buffer for data from the proxy. -/
def SOCKS_BUF_LEN : Nat := 8192

/-- Where the task of a session stands. -/
inductive Phase
  | connecting
  | relaying
  | ended
  deriving DecidableEq, Repr

/-- A session with its two tasks.  `queue` is the channel from the packet
processor, `writing` what is left of the payload being written to the proxy,
`sent` the log of the payloads sent into the channel, and `written` the bytes
that the proxy has accepted. -/
structure TcpSession where
  key : FlowKey
  clientInitialSeq : UInt32
  target : SocketAddr
  phase : Phase
  socksToTun : Bool
  dataToSocks : Bool
  queue : List Bytes
  writing : Option Bytes
  nextServerSeq : UInt32
  nextClientAck : UInt32
  sent : List Bytes
  written : Bytes
  deriving DecidableEq

namespace TcpSession

/-- A session that has just been spawned. -/
def new
    (key : FlowKey)
    (clientInitialSeq : UInt32)
    (target : SocketAddr) : TcpSession where
  key
  clientInitialSeq
  target
  phase := .connecting
  socksToTun := false
  dataToSocks := false
  queue := []
  writing := none
  nextServerSeq := 0
  nextClientAck := clientInitialSeq + 1
  sent := []
  written := []

/-- Whether the receiving end of the channel still exists. -/
def isReceiving (session : TcpSession) : Bool :=
  session.phase = .connecting || session.dataToSocks

/-- Send a payload into the channel.  It is lost when the receiving end is
gone. -/
def send (session : TcpSession) (payload : Bytes) : TcpSession :=
  { session with
    queue :=
      if session.isReceiving then session.queue ++ [payload]
      else session.queue
    sent := session.sent ++ [payload] }

/-- A packet of the session to the client. -/
def packet
    (session : TcpSession)
    (seq ack : UInt32)
    (rst syn ackFlag fin psh : Bool)
    (payload : Bytes) : Packet :=
  sendTcpPacket session.key.dstIp session.key.srcIp session.key.dstPort
    session.key.srcPort seq ack rst syn ackFlag fin psh payload

end TcpSession

/-- What happens to a session. -/
inductive SessionEvent
  /-- The connection through the proxy fails. -/
  | connectFailed
  /-- The connection through the proxy is established. -/
  | connected
  /-- The proxy sends data. -/
  | socksData (data : Bytes)
  /-- The proxy closes its side, or reading from it fails. -/
  | socksClosed
  /-- The next payload is taken from the channel. -/
  | receive
  /-- The proxy accepts part of the payload. -/
  | socksWrite (count : Nat)
  /-- The payload is written and flushed. -/
  | flushed
  /-- Writing to the proxy fails. -/
  | socksWriteFailed
  /-- The channel is empty and its sending end is gone. -/
  | hangUp
  /-- The session notices that one of its tasks has ended. -/
  | finish
  deriving DecidableEq, Repr

/-- One event of a session, with the packets it emits.  `attached` says
whether the sending end of its channel still exists. -/
def TcpSession.step
    (attached : Bool)
    (session : TcpSession) : SessionEvent → Option (TcpSession × List Packet)
  | .connectFailed =>
      if session.phase = .connecting then
        some ({ session with phase := .ended, queue := [] },
          [session.packet 0 (session.clientInitialSeq + 1) true false true
            false false []])
      else none
  | .connected =>
      if session.phase = .connecting then
        some ({ session with
            phase := .relaying
            socksToTun := true
            dataToSocks := true
            nextServerSeq := 1
            nextClientAck := session.clientInitialSeq + 1 },
          [session.packet 0 (session.clientInitialSeq + 1) false true true
            false false []])
      else none
  | .socksData data =>
      if session.socksToTun ∧ data ≠ [] ∧ data.length ≤ SOCKS_BUF_LEN then
        some ({ session with
            nextServerSeq := session.nextServerSeq + UInt32.ofNat data.length },
          [session.packet session.nextServerSeq session.nextClientAck false
            false true false true data])
      else none
  | .socksClosed =>
      if session.socksToTun then
        some ({ session with socksToTun := false },
          [session.packet session.nextServerSeq session.nextClientAck false
            false true true false []])
      else none
  | .receive =>
      if session.dataToSocks ∧ session.writing = none then
        match session.queue with
        | [] => none
        | payload :: queue =>
            some ({ session with
              queue
              writing := if payload = [] then none else some payload }, [])
      else none
  | .socksWrite count =>
      match session.writing with
      | none => none
      | some payload =>
          if session.dataToSocks ∧ 0 < count ∧ count ≤ payload.length then
            some ({ session with
              writing := some (payload.drop count)
              written := session.written ++ payload.take count }, [])
          else none
  | .flushed =>
      if session.dataToSocks ∧ session.writing = some [] then
        some ({ session with writing := none }, [])
      else none
  | .socksWriteFailed =>
      if session.dataToSocks ∧ session.writing ≠ none then
        some ({ session with
          dataToSocks := false
          writing := none
          queue := [] }, [])
      else none
  | .hangUp =>
      if session.dataToSocks ∧ session.writing = none ∧ session.queue = [] ∧
          attached = false then
        some ({ session with dataToSocks := false }, [])
      else none
  | .finish =>
      if session.phase = .relaying ∧
          (session.socksToTun = false ∨ session.dataToSocks = false) then
        some ({ session with phase := .ended }, [])
      else none

namespace TcpSession

/-- Everything one event can do to a session. -/
inductive Transition (attached : Bool) :
    TcpSession → SessionEvent → TcpSession → List Packet → Prop
  | connectFailed {session}
      (connecting : session.phase = .connecting) :
      Transition attached session .connectFailed
        { session with phase := .ended, queue := [] }
        [session.packet 0 (session.clientInitialSeq + 1) true false true false
          false []]
  | connected {session}
      (connecting : session.phase = .connecting) :
      Transition attached session .connected
        { session with
          phase := .relaying
          socksToTun := true
          dataToSocks := true
          nextServerSeq := 1
          nextClientAck := session.clientInitialSeq + 1 }
        [session.packet 0 (session.clientInitialSeq + 1) false true true false
          false []]
  | socksData {session data}
      (reading : session.socksToTun = true)
      (nonempty : data ≠ [])
      (fits : data.length ≤ SOCKS_BUF_LEN) :
      Transition attached session (.socksData data)
        { session with
          nextServerSeq := session.nextServerSeq + UInt32.ofNat data.length }
        [session.packet session.nextServerSeq session.nextClientAck false
          false true false true data]
  | socksClosed {session}
      (reading : session.socksToTun = true) :
      Transition attached session .socksClosed
        { session with socksToTun := false }
        [session.packet session.nextServerSeq session.nextClientAck false
          false true true false []]
  | receive {session payload queue}
      (running : session.dataToSocks = true)
      (waiting : session.writing = none)
      (queued : session.queue = payload :: queue) :
      Transition attached session .receive
        { session with
          queue
          writing := if payload = [] then none else some payload } []
  | socksWrite {session payload count}
      (running : session.dataToSocks = true)
      (writing : session.writing = some payload)
      (positive : 0 < count)
      (fits : count ≤ payload.length) :
      Transition attached session (.socksWrite count)
        { session with
          writing := some (payload.drop count)
          written := session.written ++ payload.take count } []
  | flushed {session}
      (running : session.dataToSocks = true)
      (writing : session.writing = some []) :
      Transition attached session .flushed
        { session with writing := none } []
  | socksWriteFailed {session}
      (running : session.dataToSocks = true)
      (writing : session.writing ≠ none) :
      Transition attached session .socksWriteFailed
        { session with dataToSocks := false, writing := none, queue := [] } []
  | hangUp {session}
      (running : session.dataToSocks = true)
      (waiting : session.writing = none)
      (drained : session.queue = [])
      (detached : attached = false) :
      Transition attached session .hangUp
        { session with dataToSocks := false } []
  | finish {session}
      (relaying : session.phase = .relaying)
      (taskEnded : session.socksToTun = false ∨ session.dataToSocks = false) :
      Transition attached session .finish { session with phase := .ended } []

/-- Every step is one of the listed transitions. -/
theorem transition_of_step
    {attached : Bool}
    {session next : TcpSession}
    {event : SessionEvent}
    {packets : List Packet}
    (stepped : session.step attached event = some (next, packets)) :
    Transition attached session event next packets := by
  cases event with
  | connectFailed =>
      rw [step] at stepped
      split_ifs at stepped with connecting
      cases stepped
      exact .connectFailed connecting
  | connected =>
      rw [step] at stepped
      split_ifs at stepped with connecting
      cases stepped
      exact .connected connecting
  | socksData data =>
      rw [step] at stepped
      split_ifs at stepped with enabled
      cases stepped
      exact .socksData enabled.1 enabled.2.1 enabled.2.2
  | socksClosed =>
      rw [step] at stepped
      split_ifs at stepped with reading
      cases stepped
      exact .socksClosed reading
  | receive =>
      rw [step] at stepped
      split_ifs at stepped with enabled
      split at stepped
      · cases stepped
      · rename_i queued
        cases stepped
        exact .receive enabled.1 enabled.2 queued
  | socksWrite count =>
      rw [step] at stepped
      split at stepped
      · cases stepped
      · rename_i writing
        split_ifs at stepped with enabled
        cases stepped
        exact .socksWrite enabled.1 writing enabled.2.1 enabled.2.2
  | flushed =>
      rw [step] at stepped
      split_ifs at stepped with enabled
      cases stepped
      exact .flushed enabled.1 enabled.2
  | socksWriteFailed =>
      rw [step] at stepped
      split_ifs at stepped with enabled
      cases stepped
      exact .socksWriteFailed enabled.1 enabled.2
  | hangUp =>
      rw [step] at stepped
      split_ifs at stepped with enabled
      cases stepped
      exact .hangUp enabled.1 enabled.2.1 enabled.2.2.1 enabled.2.2.2
  | finish =>
      rw [step] at stepped
      split_ifs at stepped with enabled
      cases stepped
      exact .finish enabled.1 enabled.2

/-! ## What one event keeps -/

/-- The key of a session never changes. -/
theorem Transition.key
    {attached : Bool}
    {session next : TcpSession}
    {event : SessionEvent}
    {packets : List Packet}
    (transition : Transition attached session event next packets) :
    next.key = session.key := by
  cases transition <;> rfl

/-- The sequence number of the client's SYN never changes. -/
theorem Transition.clientInitialSeq
    {attached : Bool}
    {session next : TcpSession}
    {event : SessionEvent}
    {packets : List Packet}
    (transition : Transition attached session event next packets) :
    next.clientInitialSeq = session.clientInitialSeq := by
  cases transition <;> rfl

/-- Only the packet processor sends into the channel. -/
theorem Transition.sent
    {attached : Bool}
    {session next : TcpSession}
    {event : SessionEvent}
    {packets : List Packet}
    (transition : Transition attached session event next packets) :
    next.sent = session.sent := by
  cases transition <;> rfl

/-- A session ends when its connection fails or it notices the end of a
task. -/
theorem Transition.running
    {attached : Bool}
    {session next : TcpSession}
    {event : SessionEvent}
    {packets : List Packet}
    (transition : Transition attached session event next packets)
    (running : session.phase ≠ .ended)
    (goesOn : event ≠ .connectFailed ∧ event ≠ .finish) :
    next.phase ≠ .ended := by
  cases transition with
  | connectFailed connecting => exact absurd rfl goesOn.1
  | connected connecting => exact Phase.noConfusion
  | finish relaying taskEnded => exact absurd rfl goesOn.2
  | socksData reading nonempty fits => exact running
  | socksClosed reading => exact running
  | receive writes waiting queued => exact running
  | socksWrite writes writing positive fits => exact running
  | flushed writes writing => exact running
  | socksWriteFailed writes writing => exact running
  | hangUp writes waiting drained detached => exact running

/-- A session whose connection fails, or that notices the end of a task, has
ended. -/
theorem Transition.ended
    {attached : Bool}
    {session next : TcpSession}
    {event : SessionEvent}
    {packets : List Packet}
    (transition : Transition attached session event next packets)
    (isEnd : event = .connectFailed ∨ event = .finish) :
    next.phase = .ended := by
  rcases isEnd with rfl | rfl
  · cases transition with
    | connectFailed connecting => rfl
  · cases transition with
    | finish relaying taskEnded => rfl

/-- Whether a session can emit a packet: its connection is not decided, or the
task that reads from the proxy is running. -/
def isEmitting (session : TcpSession) : Bool :=
  session.phase = .connecting || session.socksToTun

/-- A session that cannot emit a packet emits none, and never will. -/
theorem Transition.silent
    {attached : Bool}
    {session next : TcpSession}
    {event : SessionEvent}
    {packets : List Packet}
    (transition : Transition attached session event next packets)
    (silent : session.isEmitting = false) :
    next.isEmitting = false ∧ packets = [] := by
  obtain ⟨decided, idle⟩ := Bool.or_eq_false_iff.mp silent
  have notConnecting := of_decide_eq_false decided
  cases transition with
  | connectFailed connecting => exact absurd connecting notConnecting
  | connected connecting => exact absurd connecting notConnecting
  | socksData reading nonempty fits =>
      rw [idle] at reading
      cases reading
  | socksClosed reading =>
      rw [idle] at reading
      cases reading
  | receive writes waiting queued => exact ⟨silent, rfl⟩
  | socksWrite writes writing positive fits => exact ⟨silent, rfl⟩
  | flushed writes writing => exact ⟨silent, rfl⟩
  | socksWriteFailed writes writing => exact ⟨silent, rfl⟩
  | hangUp writes waiting drained detached => exact ⟨silent, rfl⟩
  | finish relaying taskEnded => exact ⟨idle, rfl⟩

/-- What has been written, is being written and is queued is what has been
sent, as long as somebody receives it; afterwards what has been written is part
of it.  Nothing is written before the session is connected. -/
structure Forwarding (session : TcpSession) : Prop where
  exact : session.isReceiving = true →
    session.written ++ session.writing.getD [] ++ session.queue.flatten =
      session.sent.flatten
  written : session.written <+: session.sent.flatten
  idle : session.phase = .connecting → session.dataToSocks = false

/-- A new session forwards nothing yet. -/
theorem forwarding_new
    (key : FlowKey)
    (clientInitialSeq : UInt32)
    (target : SocketAddr) :
    (new key clientInitialSeq target).Forwarding where
  exact _ := rfl
  written := List.nil_prefix
  idle _ := rfl

/-- Sending into the channel keeps the order of what is forwarded. -/
theorem Forwarding.send
    {session : TcpSession}
    (forwarding : session.Forwarding)
    (payload : Bytes) :
    (session.send payload).Forwarding where
  exact receiving := by
    have receives : session.isReceiving = true := receiving
    simp only [TcpSession.send, receives, if_true, List.flatten_append,
      ← List.append_assoc, forwarding.exact receives]
  written := by
    rw [TcpSession.send, List.flatten_append]
    exact forwarding.written.trans (List.prefix_append _ _)
  idle := forwarding.idle

/-- One event keeps the order of what is forwarded. -/
theorem Transition.forwarding
    {attached : Bool}
    {session next : TcpSession}
    {event : SessionEvent}
    {packets : List Packet}
    (transition : Transition attached session event next packets)
    (forwarding : session.Forwarding) :
    next.Forwarding := by
  have receives : session.dataToSocks = true → session.isReceiving = true := by
    intro running
    rw [isReceiving, running, Bool.or_true]
  have connects : session.phase = .connecting →
      session.isReceiving = true := by
    intro connecting
    rw [isReceiving, connecting]
    rfl
  cases transition with
  | connectFailed connecting =>
      refine ⟨fun receiving => ?_, forwarding.written, Phase.noConfusion⟩
      have running : session.dataToSocks = true := receiving
      rw [forwarding.idle connecting] at running
      cases running
  | connected connecting =>
      exact ⟨fun _ => forwarding.exact (connects connecting),
        forwarding.written, Phase.noConfusion⟩
  | socksData reading nonempty fits =>
      exact ⟨forwarding.exact, forwarding.written, forwarding.idle⟩
  | socksClosed reading =>
      exact ⟨forwarding.exact, forwarding.written, forwarding.idle⟩
  | @receive payload queue running waiting queued =>
      refine ⟨fun _ => ?_, forwarding.written, forwarding.idle⟩
      have exact := forwarding.exact (receives running)
      rw [waiting, queued, List.flatten_cons] at exact
      rw [← exact]
      by_cases empty : payload = []
      · simp [empty]
      · simp [empty]
  | @socksWrite payload count running writing positive fits =>
      have exact := forwarding.exact (receives running)
      rw [writing, Option.getD_some] at exact
      have moved : session.written ++ payload.take count ++
          payload.drop count ++ session.queue.flatten =
            session.sent.flatten := by
        rw [← exact, List.append_assoc session.written, List.take_append_drop]
      refine ⟨fun _ => moved, ?_, forwarding.idle⟩
      rw [List.append_assoc] at moved
      exact ⟨_, moved⟩
  | flushed running writing =>
      refine ⟨fun _ => ?_, forwarding.written, forwarding.idle⟩
      have exact := forwarding.exact (receives running)
      rw [writing] at exact
      exact exact
  | socksWriteFailed running writing =>
      refine ⟨fun receiving => ?_, forwarding.written, fun _ => rfl⟩
      have connecting : session.phase = .connecting :=
        of_decide_eq_true ((Bool.or_false _).symm.trans receiving)
      rw [forwarding.idle connecting] at running
      cases running
  | hangUp running waiting drained detached =>
      exact ⟨fun _ => forwarding.exact (receives running),
        forwarding.written, fun _ => rfl⟩
  | finish relaying taskEnded =>
      refine ⟨fun receiving => ?_, forwarding.written, Phase.noConfusion⟩
      exact forwarding.exact (receives receiving)

end TcpSession
end Tun
end GhostProtocol
