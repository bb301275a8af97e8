import GhostProtocol.Tun.Endpoint

/-!
# The stream of a session to its client

What a session emits is determined by the events of its connection: the answer
to the SYN, one segment for every read from the proxy, and a FIN.  The sequence
numbers of the segments count the bytes read, modulo `2^32`.
-/

namespace GhostProtocol
namespace Tun

open Foundation Common

/-- The packet of a flow to its client with the given fields. -/
def reply
    (key : FlowKey)
    (seq ack : UInt32)
    (rst syn ackFlag fin psh : Bool)
    (payload : Bytes) : Packet :=
  sendTcpPacket key.dstIp key.srcIp key.dstPort key.srcPort seq ack rst syn
    ackFlag fin psh payload

/-- The RST+ACK that answers the SYN of a flow. -/
def rstAck (key : FlowKey) (isn : UInt32) : Packet :=
  reply key 0 (isn + 1) true false true false false []

/-- The SYN+ACK that answers the SYN of a flow. -/
def synAck (key : FlowKey) (isn : UInt32) : Packet :=
  reply key 0 (isn + 1) false true true false false []

/-- The PSH+ACK segments of reads from the proxy, the first of which follows
the given number of bytes. -/
def dataSegments
    (key : FlowKey)
    (isn : UInt32) : Nat → List Bytes → List Packet
  | _, [] => []
  | sent, read :: reads =>
      reply key (UInt32.ofNat (1 + sent)) (isn + 1) false false true false true
          read ::
        dataSegments key isn (sent + read.length) reads

/-- The FIN+ACK behind the given number of bytes. -/
def finAck (key : FlowKey) (isn : UInt32) (sent : Nat) : Packet :=
  reply key (UInt32.ofNat (1 + sent)) (isn + 1) false false true true false []

/-- The bytes of some reads. -/
def total (reads : List Bytes) : Nat :=
  reads.flatten.length

/-- Reads fit into the buffer and are not empty. -/
def Fits (reads : List Bytes) : Prop :=
  ∀ read ∈ reads, read ≠ [] ∧ read.length ≤ SOCKS_BUF_LEN

/-- Whether an event belongs to the stream to the client. -/
def SessionEvent.isDownstream : SessionEvent → Bool
  | .connectFailed | .connected | .socksData _ | .socksClosed => true
  | _ => false

/-- The events of a session that belong to its stream to the client, and the
packets it emits at them. -/
inductive Downstream (session : TcpSession) :
    List SessionEvent → List Packet → Prop
  | connecting
      (phase : session.phase = .connecting)
      (reading : session.socksToTun = false) :
      Downstream session [] []
  | failed
      (phase : session.phase ≠ .connecting)
      (reading : session.socksToTun = false) :
      Downstream session [.connectFailed]
        [rstAck session.key session.clientInitialSeq]
  | reading
      (phase : session.phase ≠ .connecting)
      (reading : session.socksToTun = true)
      (reads : List Bytes)
      (fits : Fits reads)
      (seq : session.nextServerSeq = UInt32.ofNat (1 + total reads))
      (ack : session.nextClientAck = session.clientInitialSeq + 1) :
      Downstream session (.connected :: reads.map .socksData)
        (synAck session.key session.clientInitialSeq ::
          dataSegments session.key session.clientInitialSeq 0 reads)
  | closed
      (phase : session.phase ≠ .connecting)
      (reading : session.socksToTun = false)
      (reads : List Bytes)
      (fits : Fits reads) :
      Downstream session (.connected :: reads.map .socksData ++ [.socksClosed])
        (synAck session.key session.clientInitialSeq ::
          dataSegments session.key session.clientInitialSeq 0 reads ++
          [finAck session.key session.clientInitialSeq (total reads)])

/-! ## The packets of a stream -/

/-- The segment of one more read follows the bytes read before it. -/
theorem dataSegments_append
    (key : FlowKey)
    (isn : UInt32)
    (sent : Nat)
    (reads : List Bytes)
    (read : Bytes) :
    dataSegments key isn sent (reads ++ [read]) =
      dataSegments key isn sent reads ++
        [reply key (UInt32.ofNat (1 + (sent + total reads))) (isn + 1) false
          false true false true read] := by
  induction reads generalizing sent with
  | nil => rfl
  | cons first reads inductionHypothesis =>
      have behind : sent + first.length + total reads =
          sent + total (first :: reads) := by
        rw [total, total, List.flatten_cons, List.length_append]
        omega
      rw [List.cons_append, dataSegments, dataSegments, inductionHypothesis,
        behind, List.cons_append]

/-- One more read adds its bytes. -/
theorem total_append (reads : List Bytes) (read : Bytes) :
    total (reads ++ [read]) = total reads + read.length := by
  simp [total]

/-! ## What one event adds to a stream -/

/-- The stream of a session is kept by changes of its other fields. -/
theorem Downstream.congr
    {session next : TcpSession}
    {events : List SessionEvent}
    {packets : List Packet}
    (downstream : Downstream session events packets)
    (key : next.key = session.key)
    (isn : next.clientInitialSeq = session.clientInitialSeq)
    (phase : next.phase = .connecting ↔ session.phase = .connecting)
    (reading : next.socksToTun = session.socksToTun)
    (seq : next.nextServerSeq = session.nextServerSeq)
    (ack : next.nextClientAck = session.nextClientAck) :
    Downstream next events packets := by
  cases downstream with
  | connecting there idle =>
      exact .connecting (phase.mpr there) (reading.trans idle)
  | failed there idle =>
      rw [← key, ← isn]
      exact .failed (fun back => there (phase.mp back)) (reading.trans idle)
  | reading there runs reads fits number acknowledged =>
      rw [← key, ← isn]
      exact .reading (fun back => there (phase.mp back)) (reading.trans runs)
        reads fits (seq.trans number) (by rw [ack, isn, acknowledged])
  | closed there idle reads fits =>
      rw [← key, ← isn]
      exact .closed (fun back => there (phase.mp back)) (reading.trans idle)
        reads fits

/-- An event that does not belong to the stream adds no event to it. -/
theorem Downstream.append_nil
    {session : TcpSession}
    {events : List SessionEvent}
    {packets : List Packet}
    (downstream : Downstream session events packets)
    (event : SessionEvent)
    (other : event.isDownstream = false) :
    Downstream session (events ++ [event].filter SessionEvent.isDownstream)
      packets := by
  rw [List.filter_cons_of_neg (by simp [other]), List.filter_nil,
    List.append_nil]
  exact downstream

/-- A session that is connecting has emitted nothing. -/
theorem Downstream.of_connecting
    {session : TcpSession}
    {events : List SessionEvent}
    {packets : List Packet}
    (downstream : Downstream session events packets)
    (connecting : session.phase = .connecting) :
    events = [] ∧ packets = [] ∧ session.socksToTun = false := by
  cases downstream with
  | connecting phase idle => exact ⟨rfl, rfl, idle⟩
  | failed phase idle => exact absurd connecting phase
  | reading phase runs reads fits seq ack => exact absurd connecting phase
  | closed phase idle reads fits => exact absurd connecting phase

/-- A session that reads from the proxy has sent what it has read. -/
theorem Downstream.of_reading
    {session : TcpSession}
    {events : List SessionEvent}
    {packets : List Packet}
    (downstream : Downstream session events packets)
    (runs : session.socksToTun = true) :
    ∃ reads, Fits reads ∧ session.phase ≠ .connecting ∧
      session.nextServerSeq = UInt32.ofNat (1 + total reads) ∧
      session.nextClientAck = session.clientInitialSeq + 1 ∧
      events = .connected :: reads.map .socksData ∧
      packets = synAck session.key session.clientInitialSeq ::
        dataSegments session.key session.clientInitialSeq 0 reads := by
  cases downstream with
  | connecting phase idle => cases idle.symm.trans runs
  | failed phase idle => cases idle.symm.trans runs
  | reading phase _ reads fits seq ack =>
      exact ⟨reads, fits, phase, seq, ack, rfl, rfl⟩
  | closed phase idle reads fits => cases idle.symm.trans runs

/-- A read adds its segment to the stream of a session. -/
theorem Downstream.socksData
    {session : TcpSession}
    {events : List SessionEvent}
    {packets : List Packet}
    (downstream : Downstream session events packets)
    (runs : session.socksToTun = true)
    {data : Bytes}
    (nonempty : data ≠ [])
    (short : data.length ≤ SOCKS_BUF_LEN) :
    Downstream
      { session with
        nextServerSeq := session.nextServerSeq + UInt32.ofNat data.length }
      (events ++ [.socksData data])
      (packets ++ [reply session.key session.nextServerSeq
        session.nextClientAck false false true false true data]) := by
  obtain ⟨reads, fits, phase, seq, ack, rfl, rfl⟩ := downstream.of_reading runs
  have longer : Fits (reads ++ [data]) := by
    intro read member
    rcases List.mem_append.mp member with old | new
    · exact fits read old
    · obtain rfl := List.mem_singleton.mp new
      exact ⟨nonempty, short⟩
  have counted : session.nextServerSeq + UInt32.ofNat data.length =
      UInt32.ofNat (1 + total (reads ++ [data])) := by
    rw [seq, total_append, ← Nat.add_assoc, ← UInt32.ofNat_add]
  have grown := @Downstream.reading
    { session with
      nextServerSeq := session.nextServerSeq + UInt32.ofNat data.length }
    phase runs (reads ++ [data]) longer counted ack
  rw [dataSegments_append, Nat.zero_add, ← seq, ← ack, List.map_append] at grown
  exact grown

/-- The end of the proxy's stream adds the last segment to the stream of a
session. -/
theorem Downstream.socksClosed
    {session : TcpSession}
    {events : List SessionEvent}
    {packets : List Packet}
    (downstream : Downstream session events packets)
    (runs : session.socksToTun = true) :
    Downstream { session with socksToTun := false }
      (events ++ [.socksClosed])
      (packets ++ [reply session.key session.nextServerSeq
        session.nextClientAck false false true true false []]) := by
  obtain ⟨reads, fits, phase, seq, ack, rfl, rfl⟩ := downstream.of_reading runs
  have ended := @Downstream.closed { session with socksToTun := false }
    phase rfl reads fits
  rw [finAck, ← seq, ← ack] at ended
  exact ended

/-- One event adds its packets to the stream of a session. -/
theorem Downstream.step
    {attached : Bool}
    {session next : TcpSession}
    {event : SessionEvent}
    {events : List SessionEvent}
    {packets added : List Packet}
    (downstream : Downstream session events packets)
    (transition : TcpSession.Transition attached session event next added) :
    Downstream next (events ++ [event].filter SessionEvent.isDownstream)
      (packets ++ added) := by
  cases transition with
  | connectFailed connecting =>
      obtain ⟨rfl, rfl, idle⟩ := downstream.of_connecting connecting
      exact .failed Phase.noConfusion idle
  | connected connecting =>
      obtain ⟨rfl, rfl, idle⟩ := downstream.of_connecting connecting
      exact .reading Phase.noConfusion rfl []
        (fun _ member => (List.not_mem_nil member).elim) rfl rfl
  | socksData reading nonempty short =>
      exact downstream.socksData reading nonempty short
  | socksClosed reading => exact downstream.socksClosed reading
  | receive writes waiting queued =>
      rw [List.append_nil]
      refine Downstream.append_nil ?_ .receive rfl
      exact downstream.congr rfl rfl Iff.rfl rfl rfl rfl
  | socksWrite writes writing positive fits =>
      rw [List.append_nil]
      refine Downstream.append_nil ?_ (.socksWrite _) rfl
      exact downstream.congr rfl rfl Iff.rfl rfl rfl rfl
  | flushed writes writing =>
      rw [List.append_nil]
      refine Downstream.append_nil ?_ .flushed rfl
      exact downstream.congr rfl rfl Iff.rfl rfl rfl rfl
  | socksWriteFailed writes writing =>
      rw [List.append_nil]
      refine Downstream.append_nil ?_ .socksWriteFailed rfl
      exact downstream.congr rfl rfl Iff.rfl rfl rfl rfl
  | hangUp writes waiting drained detached =>
      rw [List.append_nil]
      refine Downstream.append_nil ?_ .hangUp rfl
      exact downstream.congr rfl rfl Iff.rfl rfl rfl rfl
  | finish relaying taskEnded =>
      rw [List.append_nil]
      refine Downstream.append_nil ?_ .finish rfl
      refine downstream.congr rfl rfl ?_ rfl rfl rfl
      constructor
      · exact Phase.noConfusion
      · intro connecting
        cases connecting.symm.trans relaying

/-! ## The streams of all sessions -/

namespace TunProcessor

/-- The event of the stream of a session. -/
def eventOf (id : Nat) : Label → Option SessionEvent
  | .packet _ => none
  | .session other event =>
      if other = id ∧ event.isDownstream = true then some event else none

/-- The events of the stream of a session, in their order. -/
def eventsOf (id : Nat) (labels : List Label) : List SessionEvent :=
  labels.filterMap (eventOf id)

/-- The packets that a session has emitted, in their order. -/
def packetsOf (self : TunProcessor) (id : Nat) : List Packet :=
  (self.emittedBy id).map Prod.snd

/-- Every session has emitted the packets of its stream, and positions without
a session have emitted nothing. -/
structure Streams (labels : List Label) (processor : TunProcessor) : Prop where
  session : ∀ (id : Nat) (session : TcpSession),
    processor.sessions[id]? = some session →
      Downstream session (eventsOf id labels) (processor.packetsOf id)
  outside : ∀ id, processor.sessions[id]? = none →
    eventsOf id labels = [] ∧ processor.packetsOf id = []

/-- The events of a stream after one more label. -/
theorem eventsOf_append (id : Nat) (labels : List Label) (label : Label) :
    eventsOf id (labels ++ [label]) =
      eventsOf id labels ++ (eventOf id label).toList := by
  rw [eventsOf, List.filterMap_append]
  cases found : eventOf id label with
  | none => simp [eventsOf, found]
  | some event => simp [eventsOf, found]

/-- A packet from the interface is no event of a stream. -/
theorem eventsOf_packet (id : Nat) (labels : List Label) (data : Bytes) :
    eventsOf id (labels ++ [.packet data]) = eventsOf id labels := by
  rw [eventsOf_append, eventOf, Option.toList_none, List.append_nil]

/-- An event of a session may be one of its stream. -/
theorem eventsOf_session
    (id target : Nat)
    (labels : List Label)
    (event : SessionEvent) :
    eventsOf id (labels ++ [.session target event]) =
      eventsOf id labels ++
        if target = id then [event].filter SessionEvent.isDownstream
        else [] := by
  rw [eventsOf_append, eventOf]
  by_cases here : target = id
  · cases visible : event.isDownstream with
    | true => simp [here, visible]
    | false => simp [here, visible]
  · simp [here]

/-- What a session emits is added to its own log. -/
theorem packetsOf_emit
    (self : TunProcessor)
    (sessions : List TcpSession)
    (packets : List Packet)
    (target id : Nat) :
    { self with
      sessions
      emitted := self.emitted ++ packets.map (target, ·) }.packetsOf id =
      self.packetsOf id ++ if target = id then packets else [] := by
  rw [packetsOf, emittedBy_append, List.map_append, packetsOf]
  by_cases here : target = id
  · rw [if_pos here, if_pos here, List.map_map]
    exact congrArg _ (List.map_id packets)
  · rw [if_neg here, if_neg here, List.map_nil]

/-- The stream of a session is kept when payloads are sent to it. -/
theorem downstream_send
    {session : TcpSession}
    {events : List SessionEvent}
    {packets : List Packet}
    (downstream : Downstream session events packets)
    (payload : Bytes) :
    Downstream (session.send payload) events packets :=
  downstream.congr rfl rfl Iff.rfl rfl rfl rfl

/-- A packet from the interface adds nothing to the log of any session. -/
theorem packetsOf_of_packet
    {parser : HeaderParser}
    {self next : TunProcessor}
    {data : Bytes}
    (transition : Transition parser self (.packet data) next)
    (id : Nat) :
    next.packetsOf id = self.packetsOf id := by
  cases transition with
  | ignored noSegment => rfl
  | reset parsed rst => rfl
  | known parsed rst opens entry => rfl
  | spawned parsed rst opens entry => rfl
  | unknown parsed rst later entry => rfl
  | closed parsed rst later entry fin => rfl
  | queued parsed rst later entry fin nonempty => rfl
  | acknowledged parsed rst later entry fin empty => rfl

/-- A packet from the interface keeps the streams of all sessions. -/
theorem Streams.of_packet
    {parser : HeaderParser}
    {self next : TunProcessor}
    {labels : List Label}
    {data : Bytes}
    (streams : Streams labels self)
    (transition : Transition parser self (.packet data) next) :
    Streams (labels ++ [.packet data]) next := by
  constructor
  · intro id after found
    rw [eventsOf_packet, packetsOf_of_packet transition]
    rcases transition.spawned_or_evolves found with
      ⟨-, -, -, -, -, -, -, rfl, rfl⟩ | ⟨before, was, evolution⟩
    · obtain ⟨noEvents, noPackets⟩ := streams.outside
        self.sessions.length (List.getElem?_eq_none le_rfl)
      rw [noEvents, noPackets]
      exact .connecting rfl rfl
    · have downstream := streams.session id before was
      cases evolution with
      | same => exact downstream
      | sent payload => exact downstream_send downstream payload
  · intro id nothing
    rw [eventsOf_packet, packetsOf_of_packet transition]
    refine streams.outside id ?_
    by_contra there
    obtain ⟨before, was⟩ := Option.ne_none_iff_exists'.mp there
    obtain ⟨after, found, -⟩ := transition.evolves was
    rw [nothing] at found
    cases found

/-- An event of a session keeps the streams of all sessions. -/
theorem Streams.of_session
    {attached : Bool}
    {self : TunProcessor}
    {labels : List Label}
    {target : Nat}
    {session changed : TcpSession}
    {event : SessionEvent}
    {packets : List Packet}
    (streams : Streams labels self)
    (found : self.sessions[target]? = some session)
    (moved : TcpSession.Transition attached session event changed packets) :
    Streams (labels ++ [.session target event])
      { self with
        sessions := self.sessions.set target changed
        emitted := self.emitted ++ packets.map (target, ·) } := by
  constructor
  · intro id after there
    rw [eventsOf_session, packetsOf_emit]
    rcases Table.found_of_set there with ⟨rfl, rfl⟩ | ⟨other, known⟩
    · rw [if_pos rfl, if_pos rfl]
      exact (streams.session _ session found).step moved
    · rw [if_neg (Ne.symm other), if_neg (Ne.symm other), List.append_nil,
        List.append_nil]
      exact streams.session id after known
  · intro id nothing
    have outside := List.getElem?_eq_none_iff.mp nothing
    rw [List.length_set] at outside
    obtain ⟨inside, -⟩ := List.getElem?_eq_some_iff.mp found
    have here : target ≠ id := Nat.ne_of_lt (Nat.lt_of_lt_of_le inside outside)
    rw [eventsOf_session, packetsOf_emit, if_neg here, if_neg here,
      List.append_nil, List.append_nil]
    exact streams.outside id (List.getElem?_eq_none outside)

/-- One event keeps the streams of all sessions. -/
theorem Streams.step
    {parser : HeaderParser}
    {self next : TunProcessor}
    {labels : List Label}
    {label : Label}
    (streams : Streams labels self)
    (transition : Transition parser self label next) :
    Streams (labels ++ [label]) next := by
  cases label with
  | packet data => exact streams.of_packet transition
  | session target event =>
      cases transition with
      | session found moved => exact streams.of_session found moved

/-- The streams of all sessions of a reachable processor. -/
theorem streams_of_run
    {parser : HeaderParser}
    {labels : List Label}
    {final : TunProcessor}
    (reached : Run.run (step parser) new labels = some final) :
    Streams labels final := by
  induction labels using List.reverseRecOn generalizing final with
  | nil =>
      obtain rfl := Option.some.inj reached
      constructor
      · intro id session nothing
        cases nothing
      · exact fun _ _ => ⟨rfl, rfl⟩
  | append_singleton labels label inductionHypothesis =>
      obtain ⟨middle, first, last⟩ := (Run.run_append_eq_some ..).mp reached
      obtain ⟨next, stepped, done⟩ := (Run.run_cons_eq_some ..).mp last
      obtain rfl := Option.some.inj done
      exact (inductionHypothesis first).step (transition_of_step stepped)

/-! ## Every sequence of reads has its stream -/

/-- The events of a connection that is read to its end. -/
def connection (reads : List Bytes) : List SessionEvent :=
  .connected :: reads.map .socksData ++ [.socksClosed]

end TunProcessor

end Tun
end GhostProtocol
