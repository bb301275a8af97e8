import GhostProtocol.Tun.Downstream
import GhostProtocol.Tun.Ordering

/-!
# Acknowledgements

The acknowledgement number of a session is computed once, from the client's
SYN.  It is the number that a receiver would send as long as nothing that the
client sends advances it.
-/

namespace GhostProtocol
namespace Tun

open Foundation Common

/-- What a receiver has taken of the client's stream: whether the flow is still
open, the bytes taken in order, and whether the FIN has been processed. -/
structure Received where
  isOpen : Bool
  bytes : Nat
  fin : Bool
  deriving DecidableEq, Repr

namespace Received

/-- A receiver that has taken the SYN. -/
def new : Received where
  isOpen := true
  bytes := 0
  fin := false

/-- The acknowledgement number of a receiver. -/
def number (isn : UInt32) (received : Received) : UInt32 :=
  isn + 1 + UInt32.ofNat received.bytes + if received.fin then 1 else 0

/-- Take a segment: the bytes of its payload behind those taken already, if it
starts at or before the next byte, and its FIN. -/
def accept
    (isn : UInt32)
    (received : Received)
    (segment : Segment) : Received :=
  if received.isOpen = false then received
  else if segment.rst then { received with isOpen := false }
  else if segment.syn && !segment.ack then received
  else
    let taken :=
      isn + 1 + UInt32.ofNat received.bytes - segment.sequenceNumber
    { isOpen := !segment.fin
      bytes := received.bytes + (segment.payload.length - taken.toNat)
      fin := received.fin || segment.fin }

end Received

namespace TunProcessor

/-- The position of the session that the SYN has started. -/
def Opening.id {parser : HeaderParser} (run : Opening parser) : Nat :=
  run.before.sessions.length

/-- The acknowledgement number after some labels of the run. -/
def Opening.number
    {parser : HeaderParser}
    (run : Opening parser)
    (labels : List Label) : UInt32 :=
  ((segmentsOf parser run.segment.key labels).foldl
    (Received.accept run.segment.sequenceNumber) .new).number
      run.segment.sequenceNumber

/-- The state of the run after some labels behind the SYN. -/
def Opening.Reaches
    {parser : HeaderParser}
    (run : Opening parser)
    (labels : List Label)
    (state : TunProcessor) : Prop :=
  Run.run (step parser) run.before (.packet run.data :: labels) = some state

/-- Every packet of the session carries the acknowledgement number of the
moment it is emitted, and, once the session can emit nothing more, everything
that has advanced the number has been answered by a packet with the new
number. -/
structure Opening.Acknowledged
    {parser : HeaderParser}
    (run : Opening parser) : Prop where
  emitted : ∀ first label rest middle next packets,
    run.later = first ++ label :: rest →
    run.Reaches first middle →
    middle.step parser label = some next →
    next.packetsOf run.id = middle.packetsOf run.id ++ packets →
    ∀ packet ∈ packets, packet.ack = run.number first
  answered : ∀ first label rest middle packets,
    run.later = first ++ label :: rest →
    run.Reaches first middle →
    run.number (first ++ [label]) ≠ run.number first →
    run.final.SilentAt run.id →
    run.final.packetsOf run.id = middle.packetsOf run.id ++ packets →
    ∃ packet ∈ packets, packet.ack = run.number (first ++ [label])

/-- Nothing that the client sends advances the acknowledgement number. -/
def Opening.NothingAdvances
    {parser : HeaderParser}
    (run : Opening parser) : Prop :=
  ∀ first label rest, run.later = first ++ label :: rest →
    run.number (first ++ [label]) = run.number first

/-- The acknowledgement number after the SYN. -/
theorem Opening.number_nil {parser : HeaderParser} (run : Opening parser) :
    run.number [] = run.segment.sequenceNumber + 1 := by
  change run.segment.sequenceNumber + 1 + UInt32.ofNat 0 + 0 = _
  simp

end TunProcessor

/-- Every packet of a stream acknowledges the SYN alone. -/
theorem Downstream.ack
    {session : TcpSession}
    {events : List SessionEvent}
    {packets : List Packet}
    (downstream : Downstream session events packets) :
    ∀ packet ∈ packets, packet.ack = session.clientInitialSeq + 1 := by
  have segments : ∀ sent reads, ∀ packet ∈
      dataSegments session.key session.clientInitialSeq sent reads,
      packet.ack = session.clientInitialSeq + 1 := by
    intro sent reads
    induction reads generalizing sent with
    | nil =>
        intro packet member
        cases member
    | cons read reads inductionHypothesis =>
        intro packet member
        rcases List.mem_cons.mp member with rfl | member
        · rfl
        · exact inductionHypothesis _ packet member
  intro packet member
  cases downstream with
  | connecting phase reading => cases member
  | failed phase reading =>
      obtain rfl := List.mem_singleton.mp member
      rfl
  | reading phase reading reads fits seq ack =>
      rcases List.mem_cons.mp member with rfl | member
      · rfl
      · exact segments 0 reads packet member
  | closed phase reading reads fits =>
      rcases List.mem_append.mp member with member | member
      · rcases List.mem_cons.mp member with rfl | member
        · rfl
        · exact segments 0 reads packet member
      · obtain rfl := List.mem_singleton.mp member
        rfl

namespace TunProcessor

/-- A run only adds to the log of a session. -/
theorem packetsOf_of_run
    {parser : HeaderParser}
    {self final : TunProcessor}
    {labels : List Label}
    (id : Nat)
    (reached : Run.run (step parser) self labels = some final) :
    ∃ packets, final.packetsOf id = self.packetsOf id ++ packets := by
  refine Run.invariant_of_step (fun state : TunProcessor =>
    ∃ packets, state.packetsOf id = self.packetsOf id ++ packets) ?_
    ⟨[], (List.append_nil _).symm⟩ reached
  rintro state label next ⟨packets, log⟩ stepped
  have transition := transition_of_step stepped
  cases label with
  | packet data =>
      exact ⟨packets, (packetsOf_of_packet transition id).trans log⟩
  | session target event =>
      cases transition with
      | @session _ session _ changed added found moved =>
          refine ⟨packets ++ if target = id then added else [], ?_⟩
          rw [packetsOf_emit, log, List.append_assoc]

/-- Every packet of the session that the SYN has started acknowledges the SYN
alone. -/
theorem Opening.ack
    {parser : HeaderParser}
    (run : Opening parser)
    {labels : List Label}
    {state : TunProcessor}
    (reached : run.Reaches labels state) :
    ∀ packet ∈ state.packetsOf run.id,
      packet.ack = run.segment.sequenceNumber + 1 := by
  obtain ⟨spawned, stepped, rest⟩ := (Run.run_cons_eq_some ..).mp reached
  rw [step_packet run.before run.parsed,
    handleTcp_of_opens run.opens run.unknown] at stepped
  obtain rfl := Option.some.inj stepped
  obtain ⟨session, found, -, isn⟩ :=
    origin_of_run List.getElem?_concat_length rest
  have whole := (Run.run_append_eq_some ..).mpr ⟨_, run.reached, reached⟩
  have downstream := (streams_of_run whole).session run.id session found
  intro packet member
  rw [downstream.ack packet member, isn]
  rfl

/-- If no label of the run advances the acknowledgement number from that of the
SYN, it stays there. -/
theorem Opening.number_eq
    {parser : HeaderParser}
    {run : Opening parser}
    (stays : ∀ first label rest, run.later = first ++ label :: rest →
      run.number first = run.segment.sequenceNumber + 1 →
      run.number (first ++ [label]) = run.segment.sequenceNumber + 1)
    {first rest : List Label}
    (split : run.later = first ++ rest) :
    run.number first = run.segment.sequenceNumber + 1 := by
  induction first using List.reverseRecOn generalizing rest with
  | nil => exact run.number_nil
  | append_singleton first label inductionHypothesis =>
      rw [List.append_assoc] at split
      exact stays first label rest split (inductionHypothesis split)

/-- A session is acknowledged if nothing that the client sends advances the
number. -/
theorem Opening.NothingAdvances.acknowledged
    {parser : HeaderParser}
    {run : Opening parser}
    (nothing : run.NothingAdvances) :
    run.Acknowledged where
  emitted := by
    intro first label rest middle next packets split reached stepped log packet
      member
    have constant := run.number_eq (fun first label rest split same =>
      (nothing first label rest split).trans same) split
    have after : run.Reaches (first ++ [label]) next :=
      (Run.run_append_eq_some (step parser) run.before next
        (.packet run.data :: first) [label]).mpr
        ⟨middle, reached, (Run.run_cons_eq_some ..).mpr
          ⟨next, stepped, rfl⟩⟩
    rw [constant]
    refine run.ack after packet ?_
    rw [log]
    exact List.mem_append_right _ member
  answered := by
    intro first label rest middle packets split reached advances
    exact absurd (nothing first label rest split) advances

/-- A label that advances the number from that of the SYN is not answered. -/
theorem Opening.Acknowledged.number_concat
    {parser : HeaderParser}
    {run : Opening parser}
    (acknowledged : run.Acknowledged)
    (silent : run.final.SilentAt run.id)
    {first rest : List Label}
    {label : Label}
    (split : run.later = first ++ label :: rest)
    (before : run.number first = run.segment.sequenceNumber + 1) :
    run.number (first ++ [label]) = run.segment.sequenceNumber + 1 := by
  by_contra advances
  have whole := run.ran
  rw [split] at whole
  obtain ⟨middle, reached, behind⟩ :=
    (Run.run_append_eq_some (step parser) run.before run.final
      (.packet run.data :: first) (label :: rest)).mp whole
  obtain ⟨packets, log⟩ := packetsOf_of_run run.id behind
  obtain ⟨packet, member, answer⟩ := acknowledged.answered first label rest
    middle packets split reached (by rwa [before]) silent log
  refine advances (answer.symm.trans (run.ack run.ran packet ?_))
  rw [log]
  exact List.mem_append_right _ member

/-- The acknowledgements of a session are right if nothing that the client
sends advances them, and in a run that ends with the session silent only
then. -/
theorem acknowledged_iff
    (parser : HeaderParser)
    (run : Opening parser) :
    (run.NothingAdvances → run.Acknowledged) ∧
    (run.final.SilentAt run.id → run.Acknowledged → run.NothingAdvances) := by
  refine ⟨Opening.NothingAdvances.acknowledged, ?_⟩
  intro silent acknowledged first label rest split
  have before := run.number_eq
    (fun _ _ _ => acknowledged.number_concat silent) split
  rw [before, acknowledged.number_concat silent split before]

/-- A run that opens the web connection and then sees the given labels. -/
def webRun
    (later : List Label)
    (final : TunProcessor)
    (ran : Run.run (step headerFormats) (new.spawn webSynSegment) later =
      some final) :
    Opening headerFormats :=
  { webOpening webData webFin webDataSegment webFinSegment
      parsePacket_webData parsePacket_webFin with
    later
    final
    ran := (Run.run_cons_eq_some ..).mpr ⟨_, step_webSyn, ran⟩ }

/-- A session without data from the client acknowledges the SYN. -/
theorem acknowledged_of_connected :
    ∃ run : Opening headerFormats,
      run.later = [.session 0 .connected, .session 0 .socksClosed] ∧
      run.Acknowledged := by
  refine ⟨webRun [.session 0 .connected, .session 0 .socksClosed] _ rfl, rfl,
    (acknowledged_iff _ _).1 ?_⟩
  intro first label rest split
  have member : label ∈
      [.session 0 .connected, Label.session 0 .socksClosed] := by
    rw [show [.session 0 .connected, Label.session 0 .socksClosed] =
      first ++ label :: rest from split]
    exact List.mem_append_right _ List.mem_cons_self
  have noSegment : ∀ key, segmentOf headerFormats key label = none := by
    intro key
    rcases List.mem_cons.mp member with rfl | member
    · rfl
    · obtain rfl := List.mem_singleton.mp member
      rfl
  rw [Opening.number, Opening.number, segmentsOf, segmentsOf,
    List.filterMap_append, List.filterMap_cons_none (noSegment _),
    List.filterMap_nil, List.append_nil]

/-- The byte that a client has sent is not acknowledged. -/
theorem not_acknowledged_of_data :
    ¬ ∀ parser (run : Opening parser), run.Acknowledged := by
  intro acknowledged
  have received : Run.run (step headerFormats) (new.spawn webSynSegment)
      [.session 0 .connected, .packet webData] = some _ :=
    (Run.run_cons_eq_some ..).mpr ⟨_, rfl,
      (Run.run_cons_eq_some ..).mpr
        ⟨_, step_packet _ parsePacket_webData, rfl⟩⟩
  have ran := (Run.run_append_eq_some (step headerFormats) _ _
    [.session 0 .connected, .packet webData]
    [.session 0 (.socksData [7])]).mpr ⟨_, received, rfl⟩
  have answer := (acknowledged headerFormats (webRun _ _ ran)).emitted
    [.session 0 .connected, .packet webData] (.session 0 (.socksData [7])) []
    _ _ [reply webEnds.key 1 1 false false true false true [7]] rfl
    ((Run.run_cons_eq_some ..).mpr ⟨_, step_webSyn, received⟩) rfl rfl _
    List.mem_cons_self
  have key : webDataSegment.key = webSynSegment.key := rfl
  have segments : segmentsOf headerFormats webSynSegment.key
      [.session 0 .connected, .packet webData] = [webDataSegment] := by
    have data : segmentOf headerFormats webSynSegment.key (.packet webData) =
        some webDataSegment := by
      simp [segmentOf, parsePacket_webData, key]
    rw [segmentsOf, List.filterMap_cons_none rfl,
      List.filterMap_cons_some data, List.filterMap_nil]
  rw [Opening.number] at answer
  change (1 : UInt32) = ((segmentsOf headerFormats webSynSegment.key
    [.session 0 .connected, .packet webData]).foldl (Received.accept 0)
      .new).number 0 at answer
  rw [segments] at answer
  exact absurd answer (by decide)

end TunProcessor
end Tun
end GhostProtocol
