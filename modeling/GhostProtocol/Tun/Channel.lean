import GhostProtocol.Tun.Processor

/-!
# The channel of a session

Seen from one flow, a session is a channel: segments of the flow are sent into
it until a FIN or an RST detaches it.  The processor refines this channel, so
what a session is sent is a function of the segments of its flow alone.
-/

namespace GhostProtocol
namespace Tun

open Foundation Common

/-- The channel from the packet processor to a session: whether its sending
end still exists, and the payloads sent so far. -/
structure Channel where
  attached : Bool
  sent : List Bytes
  deriving DecidableEq

namespace Channel

/-- What a segment of its flow does to a channel. -/
def accept (channel : Channel) (segment : Segment) : Channel :=
  if channel.attached = false then channel
  else if segment.rst then { channel with attached := false }
  else if segment.syn && !segment.ack then channel
  else if segment.fin then
    { attached := false, sent := channel.sent ++ [[]] }
  else if segment.payload ≠ [] then
    { channel with sent := channel.sent ++ [segment.payload] }
  else channel

/-- A detached channel accepts nothing. -/
theorem accept_of_detached
    {channel : Channel}
    (segment : Segment)
    (detached : channel.attached = false) :
    channel.accept segment = channel :=
  if_pos detached

/-- A reset detaches the channel. -/
theorem accept_of_rst
    (channel : Channel)
    {segment : Segment}
    (rst : segment.rst = true) :
    channel.accept segment = { channel with attached := false } := by
  obtain ⟨attached, sent⟩ := channel
  cases attached with
  | false => rfl
  | true => exact if_pos rst

/-- A SYN of a known flow is not sent. -/
theorem accept_of_opens
    (channel : Channel)
    {segment : Segment}
    (rst : segment.rst = false)
    (opens : (segment.syn && !segment.ack) = true) :
    channel.accept segment = channel := by
  obtain ⟨attached, sent⟩ := channel
  cases attached with
  | false => rfl
  | true => simp [accept, rst, opens]

/-- A FIN is sent as an empty payload and detaches the channel. -/
theorem accept_of_fin
    {channel : Channel}
    {segment : Segment}
    (attached : channel.attached = true)
    (rst : segment.rst = false)
    (later : (segment.syn && !segment.ack) = false)
    (fin : segment.fin = true) :
    channel.accept segment =
      { attached := false, sent := channel.sent ++ [[]] } := by
  simp [accept, attached, rst, later, fin]

/-- A payload is sent. -/
theorem accept_of_payload
    {channel : Channel}
    {segment : Segment}
    (attached : channel.attached = true)
    (rst : segment.rst = false)
    (later : (segment.syn && !segment.ack) = false)
    (fin : segment.fin = false)
    (nonempty : segment.payload ≠ []) :
    channel.accept segment =
      { attached := true, sent := channel.sent ++ [segment.payload] } := by
  simp [accept, attached, rst, later, fin, nonempty]

/-- A segment without data is not sent. -/
theorem accept_of_empty
    (channel : Channel)
    {segment : Segment}
    (rst : segment.rst = false)
    (later : (segment.syn && !segment.ack) = false)
    (fin : segment.fin = false)
    (empty : segment.payload = []) :
    channel.accept segment = channel := by
  simp [accept, rst, later, fin, empty]

end Channel

/-- The segment of a flow in a packet. -/
def segmentOf
    (parser : HeaderParser)
    (key : FlowKey) : TunProcessor.Label → Option Segment
  | .session _ _ => none
  | .packet data =>
      match parsePacket parser data with
      | .ok (some segment) => if segment.key = key then some segment else none
      | _ => none

/-- The segments of a flow, in the order of their arrival. -/
def segmentsOf
    (parser : HeaderParser)
    (key : FlowKey)
    (labels : List TunProcessor.Label) : List Segment :=
  labels.filterMap (segmentOf parser key)

namespace TunProcessor

/-- Every table entry names a session of its flow. -/
def EntriesOwned (self : TunProcessor) : Prop :=
  ∀ key id, self.nat key = some id →
    ∃ session, self.sessions[id]? = some session ∧ session.key = key

/-- Every event keeps the owners of the entries. -/
theorem Transition.entriesOwned
    {parser : HeaderParser}
    {self next : TunProcessor}
    {label : Label}
    (transition : Transition parser self label next)
    (owned : self.EntriesOwned) :
    next.EntriesOwned := by
  intro key id entry
  rcases transition.spawned_or_entry entry with
    ⟨data, segment, -, -, -, rfl, unknown, rfl, rfl⟩ | known
  · exact ⟨_, List.getElem?_concat_length, rfl⟩
  · obtain ⟨before, found, keyed⟩ := owned key id known
    obtain ⟨after, there, evolution⟩ := transition.evolves found
    exact ⟨after, there, evolution.origin.1.trans keyed⟩

/-- The entries of every reachable processor are owned. -/
theorem entriesOwned_of_run
    {parser : HeaderParser}
    {labels : List Label}
    {final : TunProcessor}
    (reached : Run.run (step parser) new labels = some final) :
    final.EntriesOwned := by
  refine Run.invariant_of_step EntriesOwned ?_ ?_ reached
  · intro self label next owned stepped
    exact (transition_of_step stepped).entriesOwned owned
  · intro key id entry
    cases entry

/-- The channel of the session at a position. -/
def channelAt
    (self : TunProcessor)
    (session : TcpSession)
    (id : Nat) : Channel where
  attached := self.nat session.key = some id
  sent := session.sent

/-- What one event does to the channel of a session of a flow. -/
def acceptLabel
    (parser : HeaderParser)
    (key : FlowKey)
    (channel : Channel)
    (label : Label) : Channel :=
  ((segmentOf parser key label).map channel.accept).getD channel

/-- A packet without a segment does nothing to a channel. -/
theorem acceptLabel_of_noSegment
    {parser : HeaderParser}
    {data : Bytes}
    (key : FlowKey)
    (channel : Channel)
    (noSegment : ∀ segment, parsePacket parser data ≠ .ok (some segment)) :
    acceptLabel parser key channel (.packet data) = channel := by
  rw [acceptLabel, segmentOf]
  split
  · rename_i segment parsed
    exact absurd parsed (noSegment segment)
  · rfl

/-- A segment of its flow is accepted by a channel. -/
theorem acceptLabel_of_eq
    {parser : HeaderParser}
    {data : Bytes}
    {segment : Segment}
    {key : FlowKey}
    (channel : Channel)
    (parsed : parsePacket parser data = .ok (some segment))
    (here : segment.key = key) :
    acceptLabel parser key channel (.packet data) =
      channel.accept segment := by
  simp [acceptLabel, segmentOf, parsed, here]

/-- A segment of another flow does nothing to a channel. -/
theorem acceptLabel_of_ne
    {parser : HeaderParser}
    {data : Bytes}
    {segment : Segment}
    {key : FlowKey}
    (channel : Channel)
    (parsed : parsePacket parser data = .ok (some segment))
    (other : segment.key ≠ key) :
    acceptLabel parser key channel (.packet data) = channel := by
  simp [acceptLabel, segmentOf, parsed, other]

/-- A payload sent to another session leaves a session as it is. -/
theorem sessions_sendTo_of_ne
    (self : TunProcessor)
    {id other : Nat}
    (payload : Bytes)
    (different : other ≠ id) :
    (self.sendTo other payload).sessions[id]? = self.sessions[id]? := by
  rw [sessions_sendTo, if_neg different]

/-- A payload sent to a session. -/
theorem sessions_sendTo_self
    {self : TunProcessor}
    {id : Nat}
    {session : TcpSession}
    (payload : Bytes)
    (found : self.sessions[id]? = some session) :
    (self.sendTo id payload).sessions[id]? = some (session.send payload) := by
  rw [sessions_sendTo, if_pos rfl, found]
  rfl

/-- A channel stays as it is when neither its log nor the entry of its flow
changes. -/
theorem channelAt_of_eq
    {self next : TunProcessor}
    {before after : TcpSession}
    {id : Nat}
    (keyed : after.key = before.key)
    (sent : after.sent = before.sent)
    (entry : next.nat before.key = self.nat before.key) :
    next.channelAt after id = self.channelAt before id := by
  rw [channelAt, channelAt, keyed, sent, entry]

/-- The channel of a session whose flow has no entry is detached. -/
theorem attached_of_none
    {self : TunProcessor}
    {session : TcpSession}
    (id : Nat)
    (unknown : self.nat session.key = none) :
    (self.channelAt session id).attached = false := by
  simp [channelAt, unknown]

/-- After a label a session is found under its key, and its channel is what the
label makes of it. -/
def ChannelAccepts
    (parser : HeaderParser)
    (self next : TunProcessor)
    (id : Nat)
    (before : TcpSession)
    (label : Label) : Prop :=
  ∃ after, next.sessions[id]? = some after ∧
    after.key = before.key ∧
    next.channelAt after id =
      acceptLabel parser before.key (self.channelAt before id) label

/-- A segment that changes neither the session nor its entry. -/
theorem channelAccepts_kept
    {parser : HeaderParser}
    {self next : TunProcessor}
    {id : Nat}
    {before : TcpSession}
    {data : Bytes}
    {segment : Segment}
    (parsed : parsePacket parser data = .ok (some segment))
    (unchanged : segment.key = before.key →
      (self.channelAt before id).accept segment = self.channelAt before id)
    (there : next.sessions[id]? = some before)
    (entry : next.nat before.key = self.nat before.key) :
    ChannelAccepts parser self next id before (.packet data) := by
  refine ⟨before, there, rfl, (channelAt_of_eq rfl rfl entry).trans ?_⟩
  by_cases here : segment.key = before.key
  · rw [acceptLabel_of_eq _ parsed here, unchanged here]
  · rw [acceptLabel_of_ne _ parsed here]

/-- The entry of a session is that of its own flow. -/
theorem EntriesOwned.key_eq
    {self : TunProcessor}
    (owned : self.EntriesOwned)
    {id : Nat}
    {session : TcpSession}
    (found : self.sessions[id]? = some session)
    {key : FlowKey}
    (entry : self.nat key = some id) :
    key = session.key := by
  obtain ⟨other, there, keyed⟩ := owned key id entry
  obtain rfl := Option.some.inj (there.symm.trans found)
  exact keyed.symm

/-- A FIN closes the channel of its flow. -/
theorem channelAccepts_closed
    {parser : HeaderParser}
    {self : TunProcessor}
    (owned : self.EntriesOwned)
    {id target : Nat}
    {before : TcpSession}
    (found : self.sessions[id]? = some before)
    {data : Bytes}
    {segment : Segment}
    (parsed : parsePacket parser data = .ok (some segment))
    (rst : segment.rst = false)
    (later : (segment.syn && !segment.ack) = false)
    (entry : self.nat segment.key = some target)
    (fin : segment.fin = true) :
    ChannelAccepts parser self ((self.sendTo target []).remove segment.key) id
      before (.packet data) := by
  by_cases here : segment.key = before.key
  · by_cases same : target = id
    · subst same
      refine ⟨_, sessions_sendTo_self [] found, rfl, ?_⟩
      rw [acceptLabel_of_eq _ parsed here,
        Channel.accept_of_fin (by simp [channelAt, ← here, entry]) rst later
          fin]
      simp [channelAt, here, TcpSession.send]
    · refine ⟨before, ?_, rfl, ?_⟩
      · exact (sessions_sendTo_of_ne self [] same).trans found
      · rw [acceptLabel_of_eq _ parsed here,
          Channel.accept_of_detached _
            (by simp [channelAt, ← here, entry, same])]
        simp [channelAt, ← here, entry, same]
  · have other : target ≠ id := by
      rintro rfl
      exact here (owned.key_eq found entry)
    exact channelAccepts_kept parsed (fun same => absurd same here)
      ((sessions_sendTo_of_ne self [] other).trans found)
      (nat_remove_of_ne _ here)

/-- A payload is queued to the channel of its flow. -/
theorem channelAccepts_queued
    {parser : HeaderParser}
    {self : TunProcessor}
    (owned : self.EntriesOwned)
    {id target : Nat}
    {before : TcpSession}
    (found : self.sessions[id]? = some before)
    {data : Bytes}
    {segment : Segment}
    (parsed : parsePacket parser data = .ok (some segment))
    (rst : segment.rst = false)
    (later : (segment.syn && !segment.ack) = false)
    (entry : self.nat segment.key = some target)
    (fin : segment.fin = false)
    (nonempty : segment.payload ≠ []) :
    ChannelAccepts parser self (self.sendTo target segment.payload) id before
      (.packet data) := by
  by_cases same : target = id
  · subst same
    have here := owned.key_eq found entry
    refine ⟨_, sessions_sendTo_self _ found, rfl, ?_⟩
    have attached : (self.channelAt before target).attached = true := by
      simp [channelAt, ← here, entry]
    rw [acceptLabel_of_eq _ parsed here,
      Channel.accept_of_payload attached rst later fin nonempty]
    simp [channelAt, ← here, entry, TcpSession.send, sendTo]
  · refine channelAccepts_kept parsed (fun here => ?_)
      ((sessions_sendTo_of_ne self _ same).trans found) rfl
    exact Channel.accept_of_detached _
      (by simp [channelAt, ← here, entry, same])

/-- One event does to the channel of a session what the channel says. -/
theorem Transition.channel
    {parser : HeaderParser}
    {self next : TunProcessor}
    {label : Label}
    {id : Nat}
    {before : TcpSession}
    (transition : Transition parser self label next)
    (owned : self.EntriesOwned)
    (found : self.sessions[id]? = some before) :
    ChannelAccepts parser self next id before label := by
  cases transition with
  | ignored noSegment =>
      refine ⟨before, found, rfl, ?_⟩
      rw [acceptLabel_of_noSegment _ _ noSegment]
  | @reset data segment parsed rst =>
      by_cases here : segment.key = before.key
      · refine ⟨before, found, rfl, ?_⟩
        rw [acceptLabel_of_eq _ parsed here, Channel.accept_of_rst _ rst]
        simp [channelAt, here]
      · exact channelAccepts_kept parsed (fun same => absurd same here) found
          (nat_remove_of_ne self here)
  | known parsed rst opens entry =>
      exact channelAccepts_kept parsed
        (fun _ => Channel.accept_of_opens _ rst opens) found rfl
  | unknown parsed rst later entry =>
      refine channelAccepts_kept parsed (fun here => ?_) found rfl
      exact Channel.accept_of_detached _ (attached_of_none id (here ▸ entry))
  | acknowledged parsed rst later entry fin empty =>
      exact channelAccepts_kept parsed
        (fun _ => Channel.accept_of_empty _ rst later fin empty) found rfl
  | @spawned data segment parsed rst opens entry =>
      obtain ⟨inside, -⟩ := List.getElem?_eq_some_iff.mp found
      have there : (self.spawn segment).sessions[id]? = some before := by
        rw [spawn, List.getElem?_append_left inside, found]
      by_cases here : segment.key = before.key
      · refine ⟨before, there, rfl, ?_⟩
        rw [acceptLabel_of_eq _ parsed here,
          Channel.accept_of_opens _ rst opens]
        have last : self.sessions.length ≠ id := Nat.ne_of_gt inside
        simp [channelAt, ← here, entry, last]
      · exact channelAccepts_kept parsed (fun same => absurd same here) there
          (nat_spawn_of_ne self here)
  | closed parsed rst later entry fin =>
      exact channelAccepts_closed owned found parsed rst later entry fin
  | queued parsed rst later entry fin nonempty =>
      exact channelAccepts_queued owned found parsed rst later entry fin
        nonempty
  | @session target session event changed packets there moved =>
      by_cases here : target = id
      · subst here
        obtain rfl := Option.some.inj (there.symm.trans found)
        obtain ⟨inside, -⟩ := List.getElem?_eq_some_iff.mp found
        exact ⟨changed, List.getElem?_set_self inside, moved.key,
          channelAt_of_eq moved.key moved.sent rfl⟩
      · exact ⟨before, (List.getElem?_set_ne here).trans found, rfl, rfl⟩

/-- A run sends into the channel of a session what the channel accepts of the
segments of its flow. -/
theorem channel_of_run
    {parser : HeaderParser}
    {self final : TunProcessor}
    {labels : List Label}
    {id : Nat}
    {before : TcpSession}
    (owned : self.EntriesOwned)
    (found : self.sessions[id]? = some before)
    (reached : Run.run (step parser) self labels = some final) :
    ∃ after, final.sessions[id]? = some after ∧
      after.key = before.key ∧
      final.channelAt after id =
        (segmentsOf parser before.key labels).foldl Channel.accept
          (self.channelAt before id) := by
  induction labels generalizing self before with
  | nil =>
      obtain rfl := Option.some.inj reached
      exact ⟨before, found, rfl, rfl⟩
  | cons label labels inductionHypothesis =>
      obtain ⟨next, stepped, rest⟩ :=
        (Run.run_cons_eq_some ..).mp reached
      have transition := transition_of_step stepped
      obtain ⟨middle, there, keyed, accepted⟩ :=
        transition.channel owned found
      obtain ⟨after, last, sameKey, folded⟩ :=
        inductionHypothesis (transition.entriesOwned owned) there rest
      refine ⟨after, last, sameKey.trans keyed, ?_⟩
      rw [folded, accepted, keyed, acceptLabel, segmentsOf, segmentsOf,
        List.filterMap_cons]
      cases segmentOf parser before.key label with
      | none => rfl
      | some segment => rfl

end TunProcessor
end Tun
end GhostProtocol
