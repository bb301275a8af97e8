import GhostProtocol.Tun.Channel
import Mathlib.Data.List.ModifyLast

/-!
# Flow isolation

What the processor does for one flow is a function of the segments of that flow
alone.  The abstract flow below starts sessions and feeds the last of them; the
processor refines the flows of all keys at once, so removing the packets of the
other flows changes nothing that a flow can see.
-/

namespace GhostProtocol
namespace Tun

open Foundation Common

/-- What a flow sees of one of its sessions: the sequence number and the target
it was started with, and the payloads sent to it. -/
structure Started where
  clientInitialSeq : UInt32
  target : SocketAddr
  sent : List Bytes
  deriving DecidableEq

/-- What a flow sees of a session. -/
def TcpSession.started (session : TcpSession) : Started where
  clientInitialSeq := session.clientInitialSeq
  target := session.target
  sent := session.sent

/-- Send a payload to a started session. -/
def Started.send (started : Started) (payload : Bytes) : Started :=
  { started with sent := started.sent ++ [payload] }

/-- What the processor keeps for a flow: whether the flow has a table entry,
and the sessions started for it, the last of which the entry names. -/
structure Flow where
  isOpen : Bool
  sessions : List Started
  deriving DecidableEq

namespace Flow

/-- A flow without packets. -/
def new : Flow where
  isOpen := false
  sessions := []

/-- Send a payload to the last session. -/
def send (flow : Flow) (payload : Bytes) : Flow :=
  { flow with sessions := flow.sessions.modifyLast (·.send payload) }

/-- What a segment does to its flow. -/
def accept (flow : Flow) (segment : Segment) : Flow :=
  if segment.rst then { flow with isOpen := false }
  else if segment.syn && !segment.ack then
    if flow.isOpen then flow
    else {
      isOpen := true
      sessions := flow.sessions ++
        [{ clientInitialSeq := segment.sequenceNumber
           target := segment.target
           sent := [] }] }
  else if flow.isOpen = false then flow
  else if segment.fin then { flow.send [] with isOpen := false }
  else if segment.payload ≠ [] then flow.send segment.payload
  else flow

end Flow

namespace TunProcessor

/-- The flow of a key in the processor. -/
def flowOf (self : TunProcessor) (key : FlowKey) : Flow where
  isOpen := (self.nat key).isSome
  sessions := (self.sessions.filter (·.key = key)).map TcpSession.started

/-- What one event does to a flow. -/
def acceptFlow
    (parser : HeaderParser)
    (key : FlowKey)
    (flow : Flow)
    (label : Label) : Flow :=
  ((segmentOf parser key label).map flow.accept).getD flow

/-- Every table entry names the last session of its flow. -/
def EntriesLast (self : TunProcessor) : Prop :=
  ∀ key id, self.nat key = some id →
    ∃ earlier session later,
      self.sessions = earlier ++ session :: later ∧
      earlier.length = id ∧
      session.key = key ∧
      ∀ other ∈ later, other.key ≠ key

/-! ## Changing one session in the list -/

/-- Changing a session to one that its flow sees alike changes no flow. -/
theorem started_set
    {sessions : List TcpSession}
    {id : Nat}
    {before after : TcpSession}
    (key : FlowKey)
    (found : sessions[id]? = some before)
    (keyed : after.key = before.key)
    (alike : after.started = before.started) :
    ((sessions.set id after).filter (·.key = key)).map TcpSession.started =
      (sessions.filter (·.key = key)).map TcpSession.started := by
  obtain ⟨inside, rfl⟩ := List.getElem?_eq_some_iff.mp found
  conv_rhs => rw [← List.take_append_drop id sessions,
    List.drop_eq_getElem_cons inside]
  rw [List.set_eq_take_append_cons_drop, if_pos inside]
  simp only [List.filter_append, List.filter_cons, keyed, List.map_append]
  by_cases here : sessions[id].key = key
  · simp [here, alike]
  · simp [here]

/-- A payload sent to a session of another flow changes no flow. -/
theorem started_modify_of_ne
    {earlier later : List TcpSession}
    {session : TcpSession}
    {key : FlowKey}
    (payload : Bytes)
    (other : session.key ≠ key) :
    (((earlier ++ session :: later).modify earlier.length
        (·.send payload)).filter (·.key = key)).map TcpSession.started =
      ((earlier ++ session :: later).filter (·.key = key)).map
        TcpSession.started := by
  have sent : (session.send payload).key ≠ key := other
  rw [List.modify_eq_take_cons_drop (by simp)]
  simp [other, sent]

/-- A payload sent to the last session of a flow is sent to the last session
that the flow sees. -/
theorem started_modify_last
    {earlier later : List TcpSession}
    {session : TcpSession}
    {key : FlowKey}
    (payload : Bytes)
    (here : session.key = key)
    (last : ∀ other ∈ later, other.key ≠ key) :
    (((earlier ++ session :: later).modify earlier.length
        (·.send payload)).filter (·.key = key)).map TcpSession.started =
      (((earlier ++ session :: later).filter (·.key = key)).map
        TcpSession.started).modifyLast (·.send payload) := by
  have none : later.filter (·.key = key) = [] :=
    List.filter_eq_nil_iff.mpr fun other member => by
      simpa using last other member
  have sent : (session.send payload).key = key := here
  have alike : (session.send payload).started =
      session.started.send payload := rfl
  rw [List.modify_eq_take_cons_drop (by simp)]
  simp [here, sent, none, alike, List.modifyLast_concat]

/-- Removing an entry keeps the others at the last sessions of their flows. -/
theorem EntriesLast.remove
    {self : TunProcessor}
    (lasts : self.EntriesLast)
    (key : FlowKey) :
    (self.remove key).EntriesLast := by
  intro other id entry
  by_cases here : key = other
  · subst here
    rw [nat_remove] at entry
    cases entry
  · rw [nat_remove_of_ne self here] at entry
    exact lasts other id entry

/-- Changing a session but not its key keeps the entries at the last sessions
of their flows. -/
theorem entriesLast_of_keys
    {self next : TunProcessor}
    (lasts : self.EntriesLast)
    (entries : next.nat = self.nat)
    (keys : next.sessions.map TcpSession.key =
      self.sessions.map TcpSession.key) :
    next.EntriesLast := by
  intro key id entry
  rw [entries] at entry
  obtain ⟨earlier, session, later, split, position, keyed, last⟩ :=
    lasts key id entry
  rw [split, List.map_append, List.map_cons] at keys
  obtain ⟨first, rest, equal, firstKeys, restKeys⟩ :=
    List.map_eq_append_iff.mp keys
  obtain ⟨middle, final, rfl, middleKey, finalKeys⟩ :=
    List.map_eq_cons_iff.mp restKeys
  refine ⟨first, middle, final, equal, ?_, middleKey.trans keyed, ?_⟩
  · rw [← position, ← List.length_map TcpSession.key, firstKeys,
      List.length_map]
  · intro other member same
    have there : other.key ∈ later.map TcpSession.key := by
      rw [← finalKeys]
      exact List.mem_map_of_mem member
    obtain ⟨old, oldMember, oldKey⟩ := List.mem_map.mp there
    exact last old oldMember (oldKey.trans same)

/-- Sending a payload changes no key. -/
theorem keys_sendTo
    (self : TunProcessor)
    (id : Nat)
    (payload : Bytes) :
    (self.sendTo id payload).sessions.map TcpSession.key =
      self.sessions.map TcpSession.key := by
  refine List.ext_getElem? fun position => ?_
  rw [List.getElem?_map, List.getElem?_map, sessions_sendTo]
  split_ifs
  · cases self.sessions[position]? <;> rfl
  · rfl

/-- Sending a payload keeps the entries at the last sessions of their
flows. -/
theorem EntriesLast.sendTo
    {self : TunProcessor}
    (lasts : self.EntriesLast)
    (id : Nat)
    (payload : Bytes) :
    (self.sendTo id payload).EntriesLast :=
  entriesLast_of_keys lasts rfl (keys_sendTo self id payload)

/-- Every event keeps the entries at the last sessions of their flows. -/
theorem Transition.entriesLast
    {parser : HeaderParser}
    {self next : TunProcessor}
    {label : Label}
    (transition : Transition parser self label next)
    (lasts : self.EntriesLast) :
    next.EntriesLast := by
  cases transition with
  | ignored noSegment => exact lasts
  | reset parsed rst => exact lasts.remove _
  | known parsed rst opens entry => exact lasts
  | unknown parsed rst later entry => exact lasts
  | acknowledged parsed rst later entry fin empty => exact lasts
  | closed parsed rst later entry fin =>
      exact (lasts.sendTo _ []).remove _
  | queued parsed rst later entry fin nonempty =>
      exact lasts.sendTo _ _
  | @session target session event changed packets there moved =>
      refine entriesLast_of_keys lasts rfl ?_
      rw [List.map_set, moved.key]
      refine List.ext_getElem? fun position => ?_
      rw [List.getElem?_set]
      split_ifs with here inside
      · subst here
        rw [List.getElem?_map, there]
        rfl
      · subst here
        rw [List.getElem?_eq_none (Nat.not_lt.mp inside)]
      · rfl
  | @spawned data segment parsed rst opens entry =>
      intro key id known
      by_cases here : segment.key = key
      · subst here
        rw [nat_spawn] at known
        obtain rfl := Option.some.inj known
        exact ⟨self.sessions, _, [], rfl, rfl, rfl,
          fun _ member => (List.not_mem_nil member).elim⟩
      · rw [nat_spawn_of_ne self here] at known
        obtain ⟨earlier, session, later, split, position, keyed, last⟩ :=
          lasts key id known
        refine ⟨earlier, session, later ++ [.new segment.key
          segment.sequenceNumber segment.target], ?_, position, keyed, ?_⟩
        · rw [spawn, split, List.append_assoc, List.cons_append]
        · intro other member
          rcases List.mem_append.mp member with old | new
          · exact last other old
          · obtain rfl := List.mem_singleton.mp new
            exact here

/-! ## The processor refines its flows -/

/-- The flow of a key whose entry is removed is closed. -/
theorem flowOf_remove (self : TunProcessor) (key : FlowKey) :
    (self.remove key).flowOf key =
      { self.flowOf key with isOpen := false } := by
  simp [flowOf, remove]

/-- The flows of the other keys stay as they are. -/
theorem flowOf_remove_of_ne
    (self : TunProcessor)
    {key other : FlowKey}
    (different : other ≠ key) :
    (self.remove other).flowOf key = self.flowOf key := by
  rw [flowOf, flowOf, nat_remove_of_ne self different]
  rfl

/-- A payload sent to the session of an entry is sent by its flow. -/
theorem flowOf_sendTo
    {self : TunProcessor}
    {key : FlowKey}
    {id : Nat}
    (lasts : self.EntriesLast)
    (entry : self.nat key = some id)
    (payload : Bytes) :
    (self.sendTo id payload).flowOf key = (self.flowOf key).send payload := by
  obtain ⟨earlier, session, later, split, rfl, keyed, last⟩ :=
    lasts key id entry
  rw [flowOf, Flow.send, flowOf, sendTo, split]
  simp only [started_modify_last payload keyed last]

/-- A payload sent to the session of another entry is not sent by a flow. -/
theorem flowOf_sendTo_of_ne
    {self : TunProcessor}
    {key other : FlowKey}
    {id : Nat}
    (lasts : self.EntriesLast)
    (entry : self.nat other = some id)
    (different : other ≠ key)
    (payload : Bytes) :
    (self.sendTo id payload).flowOf key = self.flowOf key := by
  obtain ⟨earlier, session, later, split, rfl, keyed, -⟩ :=
    lasts other id entry
  rw [flowOf, flowOf, sendTo, split]
  simp only [started_modify_of_ne payload (keyed ▸ different)]

/-- A new session is started by its flow. -/
theorem flowOf_spawn (self : TunProcessor) (segment : Segment) :
    (self.spawn segment).flowOf segment.key = {
      isOpen := true
      sessions := (self.flowOf segment.key).sessions ++
        [{ clientInitialSeq := segment.sequenceNumber
           target := segment.target
           sent := [] }] } := by
  simp [flowOf, spawn, TcpSession.new, TcpSession.started]

/-- The other flows do not see a new session. -/
theorem flowOf_spawn_of_ne
    (self : TunProcessor)
    {key : FlowKey}
    {segment : Segment}
    (different : segment.key ≠ key) :
    (self.spawn segment).flowOf key = self.flowOf key := by
  rw [flowOf, flowOf, nat_spawn_of_ne self different]
  simp [spawn, TcpSession.new, different]

/-- Acting on a segment does to its flow what the flow says. -/
theorem flowOf_handleTcp
    {self : TunProcessor}
    (lasts : self.EntriesLast)
    (segment : Segment) :
    (self.handleTcp segment).flowOf segment.key =
      (self.flowOf segment.key).accept segment := by
  rw [handleTcp, Flow.accept]
  by_cases rst : segment.rst = true
  · rw [if_pos rst, if_pos rst, flowOf_remove]
  rw [if_neg rst, if_neg rst]
  by_cases opens : (segment.syn && !segment.ack) = true
  · rw [if_pos opens, if_pos opens]
    cases entry : self.nat segment.key with
    | none =>
        rw [if_neg (by simp [flowOf, entry])]
        exact flowOf_spawn self segment
    | some id => rw [if_pos (by simp [flowOf, entry])]
  rw [if_neg opens, if_neg opens]
  cases entry : self.nat segment.key with
  | none => rw [if_pos (by simp [flowOf, entry])]
  | some id =>
      rw [if_neg (by simp [flowOf, entry])]
      dsimp only
      by_cases fin : segment.fin = true
      · rw [if_pos fin, if_pos fin, flowOf_remove,
          flowOf_sendTo lasts entry]
      rw [if_neg fin, if_neg fin]
      by_cases nonempty : segment.payload ≠ []
      · rw [if_pos nonempty, if_pos nonempty, flowOf_sendTo lasts entry]
      · rw [if_neg nonempty, if_neg nonempty]

/-- Acting on a segment of another flow does nothing to a flow. -/
theorem flowOf_handleTcp_of_ne
    {self : TunProcessor}
    {key : FlowKey}
    {segment : Segment}
    (lasts : self.EntriesLast)
    (different : segment.key ≠ key) :
    (self.handleTcp segment).flowOf key = self.flowOf key := by
  have handled := handled_handleTcp self segment
  generalize self.handleTcp segment = next at handled ⊢
  cases handled with
  | reset rst => exact flowOf_remove_of_ne self different
  | known rst opens entry => rfl
  | spawned rst opens entry => exact flowOf_spawn_of_ne self different
  | unknown rst later entry => rfl
  | closed rst later entry fin =>
      rw [flowOf_remove_of_ne _ different,
        flowOf_sendTo_of_ne lasts entry different]
  | queued rst later entry fin nonempty =>
      exact flowOf_sendTo_of_ne lasts entry different segment.payload
  | acknowledged rst later entry fin empty => rfl

/-- No event changes what a session was started with or was sent. -/
theorem started_of_transition
    {attached : Bool}
    {session next : TcpSession}
    {event : SessionEvent}
    {packets : List Packet}
    (transition : TcpSession.Transition attached session event next packets) :
    next.started = session.started := by
  cases transition <;> rfl

/-- One event does to a flow what the flow says. -/
theorem flowOf_step
    {parser : HeaderParser}
    {self next : TunProcessor}
    {label : Label}
    (lasts : self.EntriesLast)
    (stepped : self.step parser label = some next)
    (key : FlowKey) :
    next.flowOf key = acceptFlow parser key (self.flowOf key) label := by
  cases label with
  | packet data =>
      rw [acceptFlow, segmentOf]
      cases parsed : parsePacket parser data with
      | error error =>
          rw [step, processPacket, parsed] at stepped
          obtain rfl := Option.some.inj stepped
          rfl
      | ok content =>
          cases content with
          | none =>
              rw [step, processPacket, parsed] at stepped
              obtain rfl := Option.some.inj stepped
              rfl
          | some segment =>
              rw [step_packet self parsed] at stepped
              obtain rfl := Option.some.inj stepped
              by_cases here : segment.key = key
              · subst here
                simp [flowOf_handleTcp lasts]
              · simp [here, flowOf_handleTcp_of_ne lasts here]
  | session id event =>
      cases transition_of_step stepped with
      | session found transition =>
          rw [acceptFlow, segmentOf, flowOf, flowOf]
          simp only [started_set key found transition.key
            (started_of_transition transition)]
          rfl

/-- A run does to a flow what its segments do. -/
theorem flowOf_run
    {parser : HeaderParser}
    {self final : TunProcessor}
    {labels : List Label}
    (lasts : self.EntriesLast)
    (reached : Run.run (step parser) self labels = some final)
    (key : FlowKey) :
    final.flowOf key =
      (segmentsOf parser key labels).foldl Flow.accept (self.flowOf key) := by
  induction labels generalizing self with
  | nil =>
      obtain rfl := Option.some.inj reached
      rfl
  | cons label labels inductionHypothesis =>
      obtain ⟨next, stepped, rest⟩ := (Run.run_cons_eq_some ..).mp reached
      rw [inductionHypothesis ((transition_of_step stepped).entriesLast lasts)
        rest, flowOf_step lasts stepped, acceptFlow, segmentsOf, segmentsOf,
        List.filterMap_cons]
      cases segmentOf parser key label with
      | none => rfl
      | some segment => rfl

/-- A processor without sessions has no entries. -/
theorem entriesLast_new : new.EntriesLast := by
  intro key id entry
  cases entry

/-- Packets are never refused. -/
theorem exists_run_of_packets
    {parser : HeaderParser}
    {labels : List Label}
    (packets : ∀ label ∈ labels, ∃ data, label = .packet data)
    (self : TunProcessor) :
    ∃ final, Run.run (step parser) self labels = some final := by
  induction labels generalizing self with
  | nil => exact ⟨self, rfl⟩
  | cons label labels inductionHypothesis =>
      obtain ⟨data, rfl⟩ := packets label List.mem_cons_self
      have stepped : ∃ next, self.step parser (.packet data) = some next := by
        rw [step]
        cases self.processPacket parser data with
        | error error => exact ⟨self, rfl⟩
        | ok next => exact ⟨next, rfl⟩
      obtain ⟨next, stepped⟩ := stepped
      obtain ⟨final, rest⟩ := inductionHypothesis
        (fun other member => packets other (List.mem_cons_of_mem _ member))
        next
      exact ⟨final, (Run.run_cons_eq_some ..).mpr ⟨next, stepped, rest⟩⟩

/-- Until an event of a session happens, a session is connecting and what it
was sent is queued. -/
theorem queue_of_packets
    {parser : HeaderParser}
    {labels : List Label}
    {final : TunProcessor}
    (packets : ∀ label ∈ labels, ∃ data, label = .packet data)
    (reached : Run.run (step parser) new labels = some final)
    (id : Nat)
    (session : TcpSession)
    (found : final.sessions[id]? = some session) :
    session.phase = .connecting ∧ session.queue = session.sent := by
  refine Run.invariant_of_guarded (fun _ label => ∃ data, label = .packet data)
    (fun state : TunProcessor => ∀ (id : Nat) (session : TcpSession),
      state.sessions[id]? = some session →
        session.phase = .connecting ∧ session.queue = session.sent)
    ?_ ?_ (Run.guarded_of_forall packets) reached id session found
  · rintro self label next holds ⟨data, rfl⟩ stepped id after there
    rcases (transition_of_step stepped).spawned_or_evolves there with
      ⟨-, -, -, -, -, -, -, -, rfl⟩ | ⟨before, was, evolution⟩
    · exact ⟨rfl, rfl⟩
    · obtain ⟨connecting, queued⟩ := holds id before was
      cases evolution with
      | same => exact ⟨connecting, queued⟩
      | sent payload =>
          refine ⟨connecting, ?_⟩
          simp [TcpSession.send, TcpSession.isReceiving, connecting, queued]
  · intro id session nothing
    cases nothing

end TunProcessor

/-! ## Removing the packets of the other flows -/

/-- The ends in the headers of an IPv4 packet with a TCP segment. -/
def endsOf (parser : HeaderParser) (data : Bytes) : Option Endpoints :=
  if data.length < 20 then none
  else if (data.headD 0 >>> 4) &&& 0x0F ≠ 4 then none
  else
    match parser.ipv4 data with
    | none => none
    | some ip =>
        if ip.protocol = TCP then
          (parser.tcp (data.drop ip.length)).map fun tcp => {
            source := ip.source
            sourcePort := tcp.sourcePort
            destination := ip.destination
            destinationPort := tcp.destinationPort }
        else none

/-- Whether an event is a packet between the given ends. -/
def isBetween
    (parser : HeaderParser)
    (ends : Endpoints) : TunProcessor.Label → Bool
  | .packet data => endsOf parser data = some ends
  | .session _ _ => false

/-- A packet has ends exactly when it has a segment, and the key of the segment
is that of the ends. -/
theorem endsOf_eq
    (parser : HeaderParser)
    (data : Bytes) :
    (endsOf parser data).map Endpoints.key =
      match parsePacket parser data with
      | .ok (some segment) => some segment.key
      | _ => none := by
  rw [endsOf, parsePacket]
  split_ifs with short version
  · rfl
  · rfl
  · cases parser.ipv4 data with
    | none => rfl
    | some ip =>
        dsimp only
        split_ifs with protocol
        · rw [parseSegment]
          cases parser.tcp (data.drop ip.length) with
          | none => rfl
          | some tcp => rfl
        · rfl

/-- The key of a flow determines its ends. -/
theorem Endpoints.key_injective : Function.Injective Endpoints.key := by
  rintro ⟨source, sourcePort, destination, destinationPort⟩
    ⟨otherSource, otherSourcePort, otherDestination, otherDestinationPort⟩
    equal
  obtain ⟨sources, sourcePorts, destinations, destinationPorts⟩ :=
    FlowKey.mk.inj equal
  obtain rfl := u32FromBlock_injective sources
  obtain rfl := u32FromBlock_injective destinations
  obtain rfl : sourcePort = otherSourcePort := sourcePorts
  obtain rfl : destinationPort = otherDestinationPort := destinationPorts
  rfl

/-- An event is a packet between the ends of a flow exactly when it holds a
segment of the flow. -/
theorem isBetween_iff
    (parser : HeaderParser)
    (ends : Endpoints)
    (label : TunProcessor.Label) :
    isBetween parser ends label = true ↔
      (segmentOf parser ends.key label).isSome = true := by
  cases label with
  | session id event => simp [isBetween, segmentOf]
  | packet data =>
      have keys := endsOf_eq parser data
      rw [isBetween, decide_eq_true_iff, segmentOf,
        ← Option.map_inj_right Endpoints.key_injective, Option.map_some, keys]
      cases parsePacket parser data with
      | error error => simp
      | ok content =>
          cases content with
          | none => simp
          | some segment =>
              by_cases here : segment.key = ends.key
              · simp [here]
              · simp [here]

/-- Removing the packets of the other flows removes no segment of a flow. -/
theorem segmentsOf_filter
    (parser : HeaderParser)
    (ends : Endpoints)
    (labels : List TunProcessor.Label) :
    segmentsOf parser ends.key (labels.filter (isBetween parser ends)) =
      segmentsOf parser ends.key labels := by
  rw [segmentsOf, segmentsOf, List.filterMap_filter]
  refine List.filterMap_congr fun label _ => ?_
  split_ifs with between
  · rfl
  · rw [isBetween_iff, Option.not_isSome_iff_eq_none] at between
    exact between.symm

/-- Whatever the packets of other flows, of other protocols or without valid
headers do, a flow sees what it sees when its own packets are processed
alone: the presence of its entry, and the sessions started for it with their
sequence numbers, their targets and the payloads sent to them.  In a run of
packets these payloads are what the sessions have queued. -/
theorem TunProcessor.flow_isolated
    (parser : HeaderParser)
    (labels : List Label)
    (final : TunProcessor)
    (ends : Endpoints)
    (reached : Run.run (step parser) new labels = some final) :
    (∃ alone,
      Run.run (step parser) new (labels.filter (isBetween parser ends)) =
        some alone ∧
      alone.flowOf ends.key = final.flowOf ends.key) ∧
    ((∀ label ∈ labels, ∃ data, label = .packet data) →
      ∀ (id : Nat) (session : TcpSession),
        final.sessions[id]? = some session →
          session.queue = session.sent) := by
  constructor
  · have packets : ∀ label ∈ labels.filter (isBetween parser ends),
        ∃ data, label = .packet data := by
      intro label member
      cases label with
      | packet data => exact ⟨data, rfl⟩
      | session id event => cases (List.mem_filter.mp member).2
    obtain ⟨alone, ran⟩ := exists_run_of_packets packets new
    refine ⟨alone, ran, ?_⟩
    rw [flowOf_run entriesLast_new ran, flowOf_run entriesLast_new reached,
      segmentsOf_filter]
  · intro packets id session found
    exact (queue_of_packets packets reached id session found).2

/-- The ends of another connection to the web server. -/
def otherEnds : Endpoints :=
  { webEnds with sourcePort := 40001 }

/-- The SYN of that connection. -/
def otherSyn : Bytes :=
  segmentBytes otherEnds (Block.ofBytes 4 [])
    { syn := true, ack := false, fin := false, rst := false } []

/-- The segment of that SYN. -/
def otherSynSegment : Segment :=
  { webSynSegment with key := otherEnds.key }

/-- That segment is read back. -/
theorem parsePacket_otherSyn :
    parsePacket headerFormats otherSyn = .ok (some otherSynSegment) :=
  parsePacket_segmentBytes otherEnds (Block.ofBytes 4 []) _ []

/-- A SYN of another connection between the SYN and the data of the web
connection. -/
theorem TunProcessor.flow_isolated_web :
    ∃ alone,
      Run.run (step headerFormats) new
        ([.packet webSyn, .packet otherSyn, .packet webData].filter
          (isBetween headerFormats webEnds)) = some alone ∧
      alone.flowOf webEnds.key =
        (((new.spawn webSynSegment).handleTcp otherSynSegment).handleTcp
          webDataSegment).flowOf webEnds.key := by
  have reached : Run.run (step headerFormats) new
      [.packet webSyn, .packet otherSyn, .packet webData] =
        some (((new.spawn webSynSegment).handleTcp otherSynSegment).handleTcp
          webDataSegment) :=
    (Run.run_cons_eq_some ..).mpr ⟨_, step_webSyn,
      (Run.run_cons_eq_some ..).mpr ⟨_, step_packet _ parsePacket_otherSyn,
        (Run.run_cons_eq_some ..).mpr
          ⟨_, step_packet _ parsePacket_webData, rfl⟩⟩⟩
  exact (flow_isolated headerFormats _ _ webEnds reached).1

end Tun
end GhostProtocol
