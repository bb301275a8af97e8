import GhostProtocol.Foundation.Run
import GhostProtocol.Foundation.Table
import GhostProtocol.Tun.Headers
import GhostProtocol.Tun.Session

/-!
# The packet processor

The processor keeps a table from flows to the sending ends of session
channels.  A SYN of an unknown flow spawns a session, later segments are sent
to it, and a FIN or an RST removes the table entry.  Sessions run on their own
and never touch the table.
-/

namespace GhostProtocol
namespace Tun

open Foundation Common

/-- The state of the processor and of all sessions it has spawned.  The table
`nat` names a session by its position, and `emitted` is the log of the packets
to the interface with the sessions that sent them. -/
structure TunProcessor where
  nat : FlowKey → Option Nat
  sessions : List TcpSession
  emitted : List (Nat × Packet)

namespace TunProcessor

/-- A processor without sessions. -/
def new : TunProcessor where
  nat _ := none
  sessions := []
  emitted := []

/-- Remove the table entry of a flow. -/
def remove (self : TunProcessor) (key : FlowKey) : TunProcessor :=
  { self with nat := Function.update self.nat key none }

/-- Send a payload to a session. -/
def sendTo (self : TunProcessor) (id : Nat) (payload : Bytes) : TunProcessor :=
  { self with sessions := self.sessions.modify id (·.send payload) }

/-- Spawn a session for the flow of a segment. -/
def spawn (self : TunProcessor) (segment : Segment) : TunProcessor :=
  { self with
    nat := Function.update self.nat segment.key (some self.sessions.length)
    sessions := self.sessions ++
      [.new segment.key segment.sequenceNumber segment.target] }

/-- A removed flow has no table entry. -/
@[simp] theorem nat_remove
    (self : TunProcessor)
    (key : FlowKey) :
    (self.remove key).nat key = none :=
  Function.update_self ..

/-- Removing a flow leaves the other entries as they are. -/
theorem nat_remove_of_ne
    (self : TunProcessor)
    {key other : FlowKey}
    (different : other ≠ key) :
    (self.remove other).nat key = self.nat key :=
  Function.update_of_ne (Ne.symm different) ..

/-- A new flow leaves the other entries as they are. -/
theorem nat_spawn_of_ne
    (self : TunProcessor)
    {key : FlowKey}
    {segment : Segment}
    (different : segment.key ≠ key) :
    (self.spawn segment).nat key = self.nat key :=
  Function.update_of_ne (Ne.symm different) ..

/-- The table entry of a new flow is that of its session. -/
@[simp] theorem nat_spawn
    (self : TunProcessor)
    (segment : Segment) :
    (self.spawn segment).nat segment.key = some self.sessions.length :=
  Function.update_self ..

/-- Act on a TCP segment. -/
def handleTcp (self : TunProcessor) (segment : Segment) : TunProcessor :=
  if segment.rst then self.remove segment.key
  else if segment.syn && !segment.ack then
    match self.nat segment.key with
    | some _ => self
    | none => self.spawn segment
  else
    match self.nat segment.key with
    | none => self
    | some id =>
        if segment.fin then (self.sendTo id []).remove segment.key
        else if segment.payload ≠ [] then self.sendTo id segment.payload
        else self

/-- Act on a packet from the interface. -/
def processPacket
    (parser : HeaderParser)
    (self : TunProcessor)
    (data : Bytes) : Except HeaderError TunProcessor :=
  match parsePacket parser data with
  | .error error => .error error
  | .ok none => .ok self
  | .ok (some segment) => .ok (self.handleTcp segment)

/-- What happens next: a packet from the interface, which is skipped if it
does not parse, or an event of a session. -/
inductive Label
  | packet (data : Bytes)
  | session (id : Nat) (event : SessionEvent)
  deriving DecidableEq, Repr

/-- One event of the processor and its sessions. -/
def step
    (parser : HeaderParser)
    (self : TunProcessor) : Label → Option TunProcessor
  | .packet data =>
      match self.processPacket parser data with
      | .error _ => some self
      | .ok next => some next
  | .session id event =>
      match self.sessions[id]? with
      | none => none
      | some session =>
          match session.step (self.nat session.key = some id) event with
          | none => none
          | some (next, packets) => some {
              self with
              sessions := self.sessions.set id next
              emitted := self.emitted ++ packets.map (id, ·) }

/-- A packet with a segment is acted on. -/
theorem step_packet
    {parser : HeaderParser}
    {data : Bytes}
    {segment : Segment}
    (self : TunProcessor)
    (parsed : parsePacket parser data = .ok (some segment)) :
    self.step parser (.packet data) = some (self.handleTcp segment) := by
  rw [step, processPacket, parsed]

/-- An event that a session takes is an event of the processor. -/
theorem exists_step_session
    (parser : HeaderParser)
    {self : TunProcessor}
    {id : Nat}
    {session next : TcpSession}
    {packets : List Packet}
    (event : SessionEvent)
    (found : self.sessions[id]? = some session)
    (taken : session.step (self.nat session.key = some id) event =
      some (next, packets)) :
    ∃ after, self.step parser (.session id event) = some after ∧
      after.sessions[id]? = some next := by
  obtain ⟨inside, -⟩ := List.getElem?_eq_some_iff.mp found
  refine ⟨{
    self with
    sessions := self.sessions.set id next
    emitted := self.emitted ++ packets.map (id, ·) }, ?_,
    List.getElem?_set_self inside⟩
  rw [step, found]
  simp only [taken]

/-- A SYN of an unknown flow spawns a session. -/
theorem handleTcp_of_opens
    {self : TunProcessor}
    {segment : Segment}
    (opens : segment.Opens)
    (entry : self.nat segment.key = none) :
    self.handleTcp segment = self.spawn segment := by
  rw [handleTcp, opens.rst, opens.syn, opens.ack, entry]
  rfl

/-- A SYN of a known flow is dropped. -/
theorem handleTcp_of_known
    {self : TunProcessor}
    {segment : Segment}
    {id : Nat}
    (opens : segment.Opens)
    (entry : self.nat segment.key = some id) :
    self.handleTcp segment = self := by
  rw [handleTcp, opens.rst, opens.syn, opens.ack, entry]
  rfl

/-- A reset removes the entry of its flow. -/
theorem handleTcp_of_rst
    (self : TunProcessor)
    {segment : Segment}
    (rst : segment.rst = true) :
    self.handleTcp segment = self.remove segment.key :=
  if_pos rst

/-- A segment of an unknown flow that does not open it is dropped. -/
theorem handleTcp_of_unknown
    {self : TunProcessor}
    {segment : Segment}
    (rst : segment.rst = false)
    (later : (segment.syn && !segment.ack) = false)
    (unknown : self.nat segment.key = none) :
    self.handleTcp segment = self := by
  simp [handleTcp, rst, later, unknown]

/-- A FIN is sent as an empty payload and removes the entry of its flow. -/
theorem handleTcp_of_fin
    {self : TunProcessor}
    {segment : Segment}
    {id : Nat}
    (rst : segment.rst = false)
    (later : (segment.syn && !segment.ack) = false)
    (entry : self.nat segment.key = some id)
    (fin : segment.fin = true) :
    self.handleTcp segment = (self.sendTo id []).remove segment.key := by
  simp [handleTcp, rst, later, entry, fin]

/-- The payload of a segment is sent unless it is empty. -/
theorem handleTcp_of_data
    {self : TunProcessor}
    {segment : Segment}
    {id : Nat}
    (rst : segment.rst = false)
    (later : (segment.syn && !segment.ack) = false)
    (entry : self.nat segment.key = some id)
    (fin : segment.fin = false) :
    self.handleTcp segment =
      if segment.payload ≠ [] then self.sendTo id segment.payload
      else self := by
  simp [handleTcp, rst, later, entry, fin]

/-- The SYN of the web connection spawns the first session. -/
theorem step_webSyn :
    new.step headerFormats (.packet webSyn) =
      some (new.spawn webSynSegment) := by
  rw [step_packet new parsePacket_webSyn,
    handleTcp_of_opens ⟨rfl, rfl, rfl⟩ rfl]

/-- Everything one event can do. -/
inductive Transition (parser : HeaderParser) :
    TunProcessor → Label → TunProcessor → Prop
  | ignored {self data}
      (noSegment : ∀ segment, parsePacket parser data ≠ .ok (some segment)) :
      Transition parser self (.packet data) self
  | reset {self data segment}
      (parsed : parsePacket parser data = .ok (some segment))
      (rst : segment.rst = true) :
      Transition parser self (.packet data) (self.remove segment.key)
  | known {self data segment id}
      (parsed : parsePacket parser data = .ok (some segment))
      (rst : segment.rst = false)
      (opens : (segment.syn && !segment.ack) = true)
      (entry : self.nat segment.key = some id) :
      Transition parser self (.packet data) self
  | spawned {self data segment}
      (parsed : parsePacket parser data = .ok (some segment))
      (rst : segment.rst = false)
      (opens : (segment.syn && !segment.ack) = true)
      (entry : self.nat segment.key = none) :
      Transition parser self (.packet data) (self.spawn segment)
  | unknown {self data segment}
      (parsed : parsePacket parser data = .ok (some segment))
      (rst : segment.rst = false)
      (later : (segment.syn && !segment.ack) = false)
      (entry : self.nat segment.key = none) :
      Transition parser self (.packet data) self
  | closed {self data segment id}
      (parsed : parsePacket parser data = .ok (some segment))
      (rst : segment.rst = false)
      (later : (segment.syn && !segment.ack) = false)
      (entry : self.nat segment.key = some id)
      (fin : segment.fin = true) :
      Transition parser self (.packet data)
        ((self.sendTo id []).remove segment.key)
  | queued {self data segment id}
      (parsed : parsePacket parser data = .ok (some segment))
      (rst : segment.rst = false)
      (later : (segment.syn && !segment.ack) = false)
      (entry : self.nat segment.key = some id)
      (fin : segment.fin = false)
      (nonempty : segment.payload ≠ []) :
      Transition parser self (.packet data)
        (self.sendTo id segment.payload)
  | acknowledged {self data segment id}
      (parsed : parsePacket parser data = .ok (some segment))
      (rst : segment.rst = false)
      (later : (segment.syn && !segment.ack) = false)
      (entry : self.nat segment.key = some id)
      (fin : segment.fin = false)
      (empty : segment.payload = []) :
      Transition parser self (.packet data) self
  | session {self id session event next packets}
      (found : self.sessions[id]? = some session)
      (transition : TcpSession.Transition (self.nat session.key = some id)
        session event next packets) :
      Transition parser self (.session id event)
        { self with
          sessions := self.sessions.set id next
          emitted := self.emitted ++ packets.map (id, ·) }

/-- What becomes of the processor when it acts on a segment. -/
inductive Handled (state : TunProcessor) (segment : Segment) :
    TunProcessor → Prop
  | reset
      (rst : segment.rst = true) :
      Handled state segment (state.remove segment.key)
  | known {id}
      (rst : segment.rst = false)
      (opens : (segment.syn && !segment.ack) = true)
      (entry : state.nat segment.key = some id) :
      Handled state segment state
  | spawned
      (rst : segment.rst = false)
      (opens : (segment.syn && !segment.ack) = true)
      (entry : state.nat segment.key = none) :
      Handled state segment (state.spawn segment)
  | unknown
      (rst : segment.rst = false)
      (later : (segment.syn && !segment.ack) = false)
      (entry : state.nat segment.key = none) :
      Handled state segment state
  | closed {id}
      (rst : segment.rst = false)
      (later : (segment.syn && !segment.ack) = false)
      (entry : state.nat segment.key = some id)
      (fin : segment.fin = true) :
      Handled state segment ((state.sendTo id []).remove segment.key)
  | queued {id}
      (rst : segment.rst = false)
      (later : (segment.syn && !segment.ack) = false)
      (entry : state.nat segment.key = some id)
      (fin : segment.fin = false)
      (nonempty : segment.payload ≠ []) :
      Handled state segment (state.sendTo id segment.payload)
  | acknowledged {id}
      (rst : segment.rst = false)
      (later : (segment.syn && !segment.ack) = false)
      (entry : state.nat segment.key = some id)
      (fin : segment.fin = false)
      (empty : segment.payload = []) :
      Handled state segment state

/-- Acting on a segment does one of the listed things. -/
theorem handled_handleTcp (self : TunProcessor) (segment : Segment) :
    Handled self segment (self.handleTcp segment) := by
  rw [handleTcp]
  by_cases rst : segment.rst = true
  · rw [if_pos rst]
    exact .reset rst
  · rw [if_neg rst]
    have noReset := Bool.eq_false_of_not_eq_true rst
    by_cases opens : (segment.syn && !segment.ack) = true
    · rw [if_pos opens]
      cases entry : self.nat segment.key with
      | none => exact .spawned noReset opens entry
      | some id => exact .known noReset opens entry
    · rw [if_neg opens]
      have later := Bool.eq_false_of_not_eq_true opens
      cases entry : self.nat segment.key with
      | none => exact .unknown noReset later entry
      | some id =>
          dsimp only
          by_cases fin : segment.fin = true
          · rw [if_pos fin]
            exact .closed noReset later entry fin
          · rw [if_neg fin]
            have goesOn := Bool.eq_false_of_not_eq_true fin
            by_cases nonempty : segment.payload ≠ []
            · rw [if_pos nonempty]
              exact .queued noReset later entry goesOn nonempty
            · rw [if_neg nonempty]
              exact .acknowledged noReset later entry goesOn
                (not_not.mp nonempty)

/-- Acting on a segment is one of the listed transitions. -/
theorem transition_of_handleTcp
    {parser : HeaderParser}
    {data : Bytes}
    {segment : Segment}
    (self : TunProcessor)
    (parsed : parsePacket parser data = .ok (some segment)) :
    Transition parser self (.packet data) (self.handleTcp segment) := by
  have handled := handled_handleTcp self segment
  generalize self.handleTcp segment = next at handled ⊢
  cases handled with
  | reset rst => exact .reset parsed rst
  | known rst opens entry => exact .known parsed rst opens entry
  | spawned rst opens entry => exact .spawned parsed rst opens entry
  | unknown rst later entry => exact .unknown parsed rst later entry
  | closed rst later entry fin => exact .closed parsed rst later entry fin
  | queued rst later entry fin nonempty =>
      exact .queued parsed rst later entry fin nonempty
  | acknowledged rst later entry fin empty =>
      exact .acknowledged parsed rst later entry fin empty

/-- Every step is one of the listed transitions. -/
theorem transition_of_step
    {parser : HeaderParser}
    {self next : TunProcessor}
    {label : Label}
    (stepped : self.step parser label = some next) :
    Transition parser self label next := by
  cases label with
  | packet data =>
      rw [step, processPacket] at stepped
      cases parsed : parsePacket parser data with
      | error error =>
          rw [parsed] at stepped
          obtain rfl := Option.some.inj stepped
          refine .ignored fun segment equal => ?_
          rw [parsed] at equal
          cases equal
      | ok content =>
          rw [parsed] at stepped
          cases content with
          | none =>
              obtain rfl := Option.some.inj stepped
              refine .ignored fun segment equal => ?_
              rw [parsed] at equal
              cases equal
          | some segment =>
              obtain rfl := Option.some.inj stepped
              exact transition_of_handleTcp self parsed
  | session id event =>
      rw [step] at stepped
      cases found : self.sessions[id]? with
      | none =>
          rw [found] at stepped
          cases stepped
      | some session =>
          rw [found] at stepped
          dsimp only at stepped
          cases ran : session.step (self.nat session.key = some id) event with
          | none =>
              rw [ran] at stepped
              cases stepped
          | some result =>
              rw [ran] at stepped
              obtain rfl := Option.some.inj stepped
              exact .session found (TcpSession.transition_of_step ran)

/-- A table entry after an event is that of the session just spawned or was
there before. -/
theorem Transition.spawned_or_entry
    {parser : HeaderParser}
    {self next : TunProcessor}
    {label : Label}
    {key : FlowKey}
    {id : Nat}
    (transition : Transition parser self label next)
    (entry : next.nat key = some id) :
    (∃ data segment,
      label = .packet data ∧
      parsePacket parser data = .ok (some segment) ∧
      segment.Opens ∧
      segment.key = key ∧
      self.nat key = none ∧
      next = self.spawn segment ∧
      id = self.sessions.length) ∨
    self.nat key = some id := by
  have removing : ∀ other,
      Function.update self.nat other none key = some id →
        self.nat key = some id := by
    intro other removed
    by_cases here : key = other
    · rw [here, Function.update_self] at removed
      cases removed
    · rwa [Function.update_of_ne here] at removed
  cases transition with
  | ignored noSegment => exact .inr entry
  | reset parsed rst => exact .inr (removing _ entry)
  | known parsed rst opens known => exact .inr entry
  | unknown parsed rst later unknown => exact .inr entry
  | acknowledged parsed rst later known fin empty => exact .inr entry
  | closed parsed rst later known fin => exact .inr (removing _ entry)
  | queued parsed rst later known fin nonempty => exact .inr entry
  | session there moved => exact .inr entry
  | @spawned data segment parsed rst opens unknown =>
      have updated : Function.update self.nat segment.key
          (some self.sessions.length) key = some id := entry
      by_cases here : key = segment.key
      · subst here
        rw [Function.update_self] at updated
        exact .inl ⟨data, segment, rfl, parsed,
          (Segment.opens_iff rst).mpr opens, rfl, unknown, rfl,
          (Option.some.inj updated).symm⟩
      · rw [Function.update_of_ne here] at updated
        exact .inr updated

/-! ## What one event does to one session -/

/-- What one event can do to the session at a position: nothing, a payload
sent to it, or an event of its own. -/
inductive Evolution (id : Nat) : Label → TcpSession → TcpSession → Prop
  | same {label session} : Evolution id label session session
  | sent {data session} (payload : Bytes) :
      Evolution id (.packet data) session (session.send payload)
  | moved {attached session event next packets}
      (transition : TcpSession.Transition attached session event next
        packets) :
      Evolution id (.session id event) session next

/-- The sessions before and after sending a payload to one of them. -/
theorem sessions_sendTo
    (self : TunProcessor)
    (id other : Nat)
    (payload : Bytes) :
    (self.sendTo id payload).sessions[other]? =
      if id = other then self.sessions[other]?.map (·.send payload)
      else self.sessions[other]? := by
  rw [sendTo, List.getElem?_modify]
  split_ifs <;> simp

/-- A session goes on after every event, and evolves as listed. -/
theorem Transition.evolves
    {parser : HeaderParser}
    {self next : TunProcessor}
    {label : Label}
    {id : Nat}
    {before : TcpSession}
    (transition : Transition parser self label next)
    (found : self.sessions[id]? = some before) :
    ∃ after, next.sessions[id]? = some after ∧
      Evolution id label before after := by
  have sending : ∀ data target payload,
      ∃ after, (self.sendTo target payload).sessions[id]? = some after ∧
        Evolution id (.packet data) before after := by
    intro data target payload
    rw [sessions_sendTo, found]
    split_ifs with here
    · exact ⟨_, rfl, .sent payload⟩
    · exact ⟨_, rfl, .same⟩
  cases transition with
  | ignored noSegment => exact ⟨before, found, .same⟩
  | reset parsed rst => exact ⟨before, found, .same⟩
  | known parsed rst opens entry => exact ⟨before, found, .same⟩
  | unknown parsed rst later entry => exact ⟨before, found, .same⟩
  | acknowledged parsed rst later entry fin empty =>
      exact ⟨before, found, .same⟩
  | spawned parsed rst opens entry =>
      obtain ⟨inside, -⟩ := List.getElem?_eq_some_iff.mp found
      refine ⟨before, ?_, .same⟩
      rw [spawn, List.getElem?_append_left inside, found]
  | closed parsed rst later entry fin => exact sending _ _ _
  | queued parsed rst later entry fin nonempty => exact sending _ _ _
  | @session target session event after packets there moved =>
      by_cases here : target = id
      · subst here
        obtain rfl := Option.some.inj (there.symm.trans found)
        obtain ⟨inside, -⟩ := List.getElem?_eq_some_iff.mp found
        exact ⟨after, List.getElem?_set_self inside, .moved moved⟩
      · refine ⟨before, ?_, .same⟩
        rw [List.getElem?_set_ne here, found]

/-- A session after an event is the one just spawned or was there before. -/
theorem Transition.spawned_or_evolves
    {parser : HeaderParser}
    {self next : TunProcessor}
    {label : Label}
    {id : Nat}
    {after : TcpSession}
    (transition : Transition parser self label next)
    (found : next.sessions[id]? = some after) :
    (∃ data segment,
      label = .packet data ∧
      parsePacket parser data = .ok (some segment) ∧
      segment.Opens ∧
      self.nat segment.key = none ∧
      next = self.spawn segment ∧
      id = self.sessions.length ∧
      after = .new segment.key segment.sequenceNumber segment.target) ∨
    ∃ before, self.sessions[id]? = some before ∧
      Evolution id label before after := by
  cases was : self.sessions[id]? with
  | some before =>
      obtain ⟨evolved, there, evolution⟩ := transition.evolves was
      obtain rfl := Option.some.inj (found.symm.trans there)
      exact .inr ⟨before, rfl, evolution⟩
  | none =>
      have sending : ∀ target payload,
          (self.sendTo target payload).sessions[id]? = none := by
        intro target payload
        rw [sessions_sendTo, was]
        split_ifs <;> rfl
      left
      cases transition with
      | ignored noSegment =>
          rw [was] at found
          cases found
      | reset parsed rst =>
          rw [remove, was] at found
          cases found
      | known parsed rst opens entry =>
          rw [was] at found
          cases found
      | unknown parsed rst later entry =>
          rw [was] at found
          cases found
      | acknowledged parsed rst later entry fin empty =>
          rw [was] at found
          cases found
      | @spawned data segment parsed rst opens entry =>
          rcases Table.found_of_concat found with known | ⟨last, isNew⟩
          · cases was.symm.trans known
          · exact ⟨data, segment, rfl, parsed,
              (Segment.opens_iff rst).mpr opens, entry, rfl, last, isNew⟩
      | closed parsed rst later entry fin =>
          rw [remove, sending] at found
          cases found
      | queued parsed rst later entry fin nonempty =>
          rw [sending] at found
          cases found
      | @session target session event changed packets there moved =>
          rw [List.getElem?_set, was] at found
          split_ifs at found with here inside
          subst here
          rw [there] at was
          cases was

/-- One event keeps the key of every session and the sequence number it was
started with. -/
theorem Evolution.origin
    {id : Nat}
    {label : Label}
    {before after : TcpSession}
    (evolution : Evolution id label before after) :
    after.key = before.key ∧
      after.clientInitialSeq = before.clientInitialSeq := by
  cases evolution with
  | same => exact ⟨rfl, rfl⟩
  | sent payload => exact ⟨rfl, rfl⟩
  | moved moved => exact ⟨moved.key, moved.clientInitialSeq⟩

/-- A run keeps every session, its key and the sequence number it was started
with. -/
theorem origin_of_run
    {parser : HeaderParser}
    {self final : TunProcessor}
    {labels : List Label}
    {id : Nat}
    {before : TcpSession}
    (found : self.sessions[id]? = some before)
    (reached : Run.run (step parser) self labels = some final) :
    ∃ after, final.sessions[id]? = some after ∧
      after.key = before.key ∧
      after.clientInitialSeq = before.clientInitialSeq := by
  refine Run.invariant_of_step (fun state : TunProcessor =>
    ∃ after, state.sessions[id]? = some after ∧
      after.key = before.key ∧
      after.clientInitialSeq = before.clientInitialSeq) ?_
    ⟨before, found, rfl, rfl⟩ reached
  rintro state label next ⟨middle, there, key, isn⟩ stepped
  obtain ⟨after, last, evolution⟩ := (transition_of_step stepped).evolves there
  exact ⟨after, last, evolution.origin.1.trans key,
    evolution.origin.2.trans isn⟩

end TunProcessor
end Tun
end GhostProtocol
