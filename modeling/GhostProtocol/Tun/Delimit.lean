import GhostProtocol.Tun.Channel

/-!
# Where a packet ends

An IPv4 packet ends at its total length, whatever else a read returns, and a
fragment with an offset does not start with a TCP header.  The processor reads
neither field, so what follows the total length counts as payload and the
middle of a segment counts as a header.  This module says which packets are
acted on all the same as their headers demand.
-/

namespace GhostProtocol
namespace Tun

open Foundation Common

/-- The total length in an IPv4 header. -/
def ipv4TotalLength (data : Bytes) : Nat :=
  (u16FromBuffer (data.drop 2)).toNat

/-- The fragment offset in an IPv4 header, behind the three flags. -/
def ipv4FragmentOffset (data : Bytes) : Nat :=
  (u16FromBuffer (data.drop 6)).toNat % 8192

/-! ## Parsers that read the front of their input -/

/-- A header parser that finds each header in front of the bytes behind it,
and finds it within the bytes it is given. -/
structure HeaderParser.ReadsFront (parser : HeaderParser) : Prop where
  ipv4 : ∀ {data ip} (more : Bytes), parser.ipv4 data = some ip →
    parser.ipv4 (data ++ more) = some ip
  ipv4_length : ∀ {data ip}, parser.ipv4 data = some ip →
    20 ≤ ip.length ∧ ip.length ≤ data.length
  tcp : ∀ {data tcp} (more : Bytes), parser.tcp data = some tcp →
    parser.tcp (data ++ more) = some tcp
  tcp_length : ∀ {data tcp}, parser.tcp data = some tcp →
    tcp.length ≤ data.length

/-- Reading a byte does not depend on what follows. -/
theorem getD_append_left
    {data : Bytes}
    {index : Nat}
    (more : Bytes)
    (inside : index < data.length) :
    (data ++ more).getD index 0 = data.getD index 0 := by
  rw [List.getD_eq_getElem?_getD, List.getD_eq_getElem?_getD,
    List.getElem?_append_left inside]

/-- Reading a word does not depend on what follows. -/
theorem u16FromBuffer_append_left
    {data : Bytes}
    (more : Bytes)
    (two : 2 ≤ data.length) :
    u16FromBuffer (data ++ more) = u16FromBuffer data := by
  rw [u16FromBuffer, u16FromBuffer, getD_append_left more (by omega),
    getD_append_left more (by omega)]

/-- Reading an array does not depend on what follows. -/
theorem ofBytes_append_left
    {size : Nat}
    {data : Bytes}
    (more : Bytes)
    (inside : size ≤ data.length) :
    Block.ofBytes size (data ++ more) = Block.ofBytes size data := by
  apply Subtype.ext
  change (data ++ more).takeD size 0 = data.takeD size 0
  rw [List.takeD_eq_take 0 inside,
    List.takeD_eq_take 0 (by rw [List.length_append]; omega),
    List.take_append_of_le_length inside]

/-- Reading an array at an offset does not depend on what follows. -/
theorem ofBytes_drop_append_left
    {size offset : Nat}
    {data : Bytes}
    (more : Bytes)
    (inside : offset + size ≤ data.length) :
    Block.ofBytes size ((data ++ more).drop offset) =
      Block.ofBytes size (data.drop offset) := by
  rw [List.drop_append_of_le_length (by omega)]
  exact ofBytes_append_left more (by rw [List.length_drop]; omega)

/-- The parser of the header formats reads the front of its input. -/
theorem readsFront_headerFormats : headerFormats.ReadsFront where
  ipv4 := by
    intro data ip more parsed
    simp only [headerFormats, parseIpv4Header] at parsed ⊢
    split_ifs at parsed with invalid
    rw [not_or, not_or, not_or] at invalid
    obtain ⟨long, version, header, whole⟩ := invalid
    rw [getD_append_left more (by omega), getD_append_left more (by omega),
      ofBytes_drop_append_left more (by omega),
      ofBytes_drop_append_left more (by omega), if_neg]
    · exact parsed
    · rw [List.length_append, not_or, not_or, not_or]
      exact ⟨by omega, version, header, by omega⟩
  ipv4_length := by
    intro data ip parsed
    simp only [headerFormats, parseIpv4Header] at parsed
    split_ifs at parsed with invalid
    obtain rfl := Option.some.inj parsed
    dsimp only
    omega
  tcp := by
    intro data tcp more parsed
    simp only [headerFormats, parseTcpHeader] at parsed ⊢
    split_ifs at parsed with invalid
    rw [not_or, not_or] at invalid
    obtain ⟨long, header, whole⟩ := invalid
    rw [getD_append_left more (by omega), getD_append_left more (by omega),
      ofBytes_drop_append_left more (by omega),
      u16FromBuffer_append_left more (by omega),
      List.drop_append_of_le_length (by omega),
      u16FromBuffer_append_left more (by rw [List.length_drop]; omega), if_neg]
    · exact parsed
    · rw [List.length_append, not_or, not_or]
      exact ⟨by omega, header, by omega⟩
  tcp_length := by
    intro data tcp parsed
    simp only [headerFormats, parseTcpHeader] at parsed
    split_ifs at parsed with invalid
    obtain rfl := Option.some.inj parsed
    dsimp only
    omega

/-! ## The effect of a segment -/

namespace TunProcessor

/-- A segment that starts a session. -/
def Starts (self : TunProcessor) (segment : Segment) : Prop :=
  segment.Opens ∧ self.nat segment.key = none

/-- A segment that removes a session. -/
def Removes (self : TunProcessor) (segment : Segment) : Prop :=
  self.nat segment.key ≠ none ∧
    (segment.rst = true ∨ ¬segment.Opens ∧ segment.fin = true)

/-- A segment whose payload is queued for a session that still receives. -/
structure Feeds (state : TunProcessor) (segment : Segment) : Prop where
  rst : segment.rst = false
  later : (segment.syn && !segment.ack) = false
  fin : segment.fin = false
  nonempty : segment.payload ≠ []
  received : ∃ id session, state.nat segment.key = some id ∧
    state.sessions[id]? = some session ∧ session.isReceiving = true

/-- A FIN for a session that still receives. -/
structure Closes (state : TunProcessor) (segment : Segment) : Prop where
  rst : segment.rst = false
  later : (segment.syn && !segment.ack) = false
  fin : segment.fin = true
  received : ∃ id session, state.nat segment.key = some id ∧
    state.sessions[id]? = some session ∧ session.isReceiving = true

/-- A segment that starts, removes or feeds a session. -/
def Acts (self : TunProcessor) (segment : Segment) : Prop :=
  self.Starts segment ∨ self.Removes segment ∨ self.Feeds segment

/-- The processor without the logs of what was sent, which no code reads. -/
def forgetSent (self : TunProcessor) : TunProcessor :=
  { self with
    sessions := self.sessions.map fun session => { session with sent := [] } }

/-- Two processors that differ in the logs of what was sent at most. -/
def SameEffect (first second : TunProcessor) : Prop :=
  first.forgetSent = second.forgetSent

/-- A FIN for a session that still receives removes it. -/
theorem Closes.acts
    {self : TunProcessor}
    {segment : Segment}
    (closes : self.Closes segment) :
    self.Acts segment := by
  obtain ⟨id, session, entry, -, -⟩ := closes.received
  refine .inr (.inl ⟨?_, .inr ⟨?_, closes.fin⟩⟩)
  · rw [entry]
    exact Option.some_ne_none id
  · rw [Segment.opens_iff closes.rst, closes.later]
    exact Bool.false_ne_true

/-- Processors of the same effect have the same table. -/
theorem SameEffect.nat
    {first second : TunProcessor}
    (same : first.SameEffect second) :
    first.nat = second.nat := by
  have tables := congrArg TunProcessor.nat same
  exact tables

/-- Processors of the same effect have as many sessions. -/
theorem SameEffect.length
    {first second : TunProcessor}
    (same : first.SameEffect second) :
    first.sessions.length = second.sessions.length := by
  have mapped := congrArg (List.length ∘ TunProcessor.sessions) same
  simpa [forgetSent] using mapped

/-- Processors of the same effect have the same queues. -/
theorem SameEffect.queue
    {first second : TunProcessor}
    (same : first.SameEffect second)
    {id : Nat}
    {one other : TcpSession}
    (found : first.sessions[id]? = some one)
    (there : second.sessions[id]? = some other) :
    one.queue = other.queue := by
  have mapped := congrArg (fun self : TunProcessor => self.sessions[id]?) same
  simp only [forgetSent, List.getElem?_map, found, there, Option.map_some,
    Option.some.injEq] at mapped
  have queues := congrArg TcpSession.queue mapped
  exact queues

/-- A payload for a session that no longer receives has no effect. -/
theorem sameEffect_sendTo
    {self : TunProcessor}
    {id : Nat}
    {session : TcpSession}
    (payload : Bytes)
    (found : self.sessions[id]? = some session)
    (gone : session.isReceiving = false) :
    (self.sendTo id payload).SameEffect self := by
  have unchanged : (self.sendTo id payload).sessions.map
        (fun session => { session with sent := [] }) =
      self.sessions.map fun session => { session with sent := [] } := by
    apply List.ext_getElem?
    intro other
    rw [List.getElem?_map, List.getElem?_map, sessions_sendTo]
    split_ifs with here
    · subst here
      simp [found, TcpSession.send, gone]
    · rfl
  rw [SameEffect, forgetSent, unchanged]
  rfl

/-- A payload for a session that receives is queued. -/
theorem queue_sendTo
    {self : TunProcessor}
    {id : Nat}
    {session : TcpSession}
    (payload : Bytes)
    (found : self.sessions[id]? = some session)
    (receiving : session.isReceiving = true) :
    ∃ after, (self.sendTo id payload).sessions[id]? = some after ∧
      after.queue = session.queue ++ [payload] :=
  ⟨_, sessions_sendTo_self payload found, if_pos receiving⟩

/-- Removing a flow without an entry changes nothing. -/
theorem remove_of_none
    {self : TunProcessor}
    {key : FlowKey}
    (unknown : self.nat key = none) :
    self.remove key = self := by
  rw [remove, ← unknown, Function.update_eq_self]

/-- A segment that removes a session leaves its flow without an entry. -/
theorem nat_handleTcp_of_removes
    {self : TunProcessor}
    {segment : Segment}
    (removes : self.Removes segment) :
    (self.handleTcp segment).nat segment.key = none := by
  obtain ⟨known, closes⟩ := removes
  by_cases rst : segment.rst = true
  · rw [handleTcp_of_rst self rst, nat_remove]
  · have noReset := Bool.eq_false_of_not_eq_true rst
    obtain ⟨notOpen, fin⟩ := closes.resolve_left rst
    rw [Segment.opens_iff noReset, Bool.not_eq_true] at notOpen
    obtain ⟨id, entry⟩ := Option.ne_none_iff_exists'.mp known
    rw [handleTcp_of_fin noReset notOpen entry fin, nat_remove]

/-- A segment has an effect if and only if it starts, removes or feeds a
session. -/
theorem sameEffect_handleTcp_iff
    {self : TunProcessor}
    (owned : self.EntriesOwned)
    (segment : Segment) :
    (self.handleTcp segment).SameEffect self ↔ ¬self.Acts segment := by
  constructor
  · rintro same (⟨opens, unknown⟩ | removes | feeds)
    · rw [handleTcp_of_opens opens unknown] at same
      simpa [spawn] using same.length
    · have cleared := nat_handleTcp_of_removes removes
      rw [same.nat] at cleared
      exact removes.1 cleared
    · obtain ⟨id, session, entry, found, receiving⟩ := feeds.received
      rw [handleTcp_of_data feeds.rst feeds.later entry feeds.fin,
        if_pos feeds.nonempty] at same
      obtain ⟨after, there, grown⟩ :=
        queue_sendTo segment.payload found receiving
      have unchanged := same.queue there found
      rw [grown] at unchanged
      simp at unchanged
  · intro idle
    have handled := handled_handleTcp self segment
    generalize self.handleTcp segment = next at handled ⊢
    cases handled with
    | reset rst =>
        have unknown : self.nat segment.key = none := by
          by_contra known
          exact idle (.inr (.inl ⟨known, .inl rst⟩))
        rw [remove_of_none unknown]
        rfl
    | known rst opens entry => rfl
    | spawned rst opens entry =>
        exact absurd (.inl ⟨(Segment.opens_iff rst).mpr opens, entry⟩) idle
    | unknown rst later entry => rfl
    | closed rst later entry fin =>
        refine absurd (.inr (.inl ⟨?_, .inr ⟨?_, fin⟩⟩)) idle
        · rw [entry]
          exact Option.some_ne_none _
        · rw [Segment.opens_iff rst, later]
          exact Bool.false_ne_true
    | queued rst later entry fin nonempty =>
        obtain ⟨session, found, -⟩ := owned _ _ entry
        have gone : session.isReceiving = false := by
          rw [← Bool.not_eq_true]
          intro receiving
          exact idle (.inr (.inr ⟨rst, later, fin, nonempty,
            _, session, entry, found, receiving⟩))
        exact sameEffect_sendTo _ found gone
    | acknowledged rst later entry fin empty => rfl

/-! ## Bytes behind a payload -/

/-- A later segment that goes on has an effect only if it feeds a session. -/
theorem feeds_of_acts
    {self : TunProcessor}
    {segment : Segment}
    (rst : segment.rst = false)
    (later : (segment.syn && !segment.ack) = false)
    (fin : segment.fin = false)
    (acts : self.Acts segment) :
    self.Feeds segment := by
  rcases acts with ⟨opens, -⟩ | ⟨-, closes⟩ | feeds
  · simp [opens.syn, opens.ack] at later
  · simp [rst, fin] at closes
  · exact feeds

/-- Only a later segment that goes on is treated by its payload. -/
theorem handleTcp_payload
    (self : TunProcessor)
    {segment : Segment}
    (payload : Bytes)
    (control : segment.rst = true ∨
      (segment.syn && !segment.ack) = true ∨ segment.fin = true) :
    self.handleTcp { segment with payload } = self.handleTcp segment := by
  by_cases rst : segment.rst = true
  · rw [handleTcp_of_rst self rst]
    exact handleTcp_of_rst self rst
  · have noReset := Bool.eq_false_of_not_eq_true rst
    by_cases opens : (segment.syn && !segment.ack) = true
    · rw [handleTcp, handleTcp, if_neg rst, if_neg rst, if_pos opens,
        if_pos opens]
      rfl
    · have later := Bool.eq_false_of_not_eq_true opens
      have fin := (control.resolve_left rst).resolve_left opens
      cases entry : self.nat segment.key with
      | none =>
          rw [handleTcp_of_unknown noReset later entry]
          exact handleTcp_of_unknown noReset later entry
      | some id =>
          rw [handleTcp_of_fin noReset later entry fin]
          exact handleTcp_of_fin noReset later entry fin

/-- Bytes behind the payload of a segment make a difference if and only if the
segment feeds a session. -/
theorem sameEffect_append_iff
    {self : TunProcessor}
    (owned : self.EntriesOwned)
    (segment : Segment)
    (extra : Bytes) :
    (self.handleTcp { segment with payload := segment.payload ++ extra }
        ).SameEffect (self.handleTcp segment) ↔
      (self.Feeds { segment with payload := segment.payload ++ extra } →
        extra = []) := by
  constructor
  · intro same feeds
    obtain ⟨id, session, entry, found, receiving⟩ := feeds.received
    rw [handleTcp_of_data feeds.rst feeds.later entry feeds.fin,
      if_pos feeds.nonempty,
      @handleTcp_of_data self segment id feeds.rst feeds.later entry
        feeds.fin] at same
    obtain ⟨whole, there, grown⟩ :=
      queue_sendTo (segment.payload ++ extra) found receiving
    by_cases nonempty : segment.payload ≠ []
    · rw [if_pos nonempty] at same
      obtain ⟨cut, cutThere, cutGrown⟩ :=
        queue_sendTo segment.payload found receiving
      have queues := same.queue there cutThere
      rw [grown, cutGrown] at queues
      simpa using queues
    · rw [if_neg nonempty] at same
      have queues := same.queue there found
      rw [grown] at queues
      simp at queues
  · intro alone
    by_cases control : segment.rst = true ∨
        (segment.syn && !segment.ack) = true ∨ segment.fin = true
    · rw [handleTcp_payload self _ control]
      rfl
    · simp only [not_or, Bool.not_eq_true] at control
      obtain ⟨rst, later, fin⟩ := control
      by_cases feeds :
          self.Feeds { segment with payload := segment.payload ++ extra }
      · rw [alone feeds, List.append_nil]
        rfl
      · have idle : ¬self.Acts { segment with
            payload := segment.payload ++ extra } := fun acts =>
          feeds (feeds_of_acts rst later fin acts)
        have cutIdle : ¬self.Acts segment := fun acts =>
          have cutFeeds := feeds_of_acts rst later fin acts
          feeds ⟨rst, later, fin,
            List.append_ne_nil_of_left_ne_nil cutFeeds.nonempty extra,
            cutFeeds.received⟩
        exact ((sameEffect_handleTcp_iff owned _).mpr idle).trans
          ((sameEffect_handleTcp_iff owned segment).mpr cutIdle).symm

/-- A payload has been queued for a session. -/
def Queues
    (self next : TunProcessor)
    (id : Nat)
    (payload : Bytes) : Prop :=
  ∃ before after, self.sessions[id]? = some before ∧
    next.sessions[id]? = some after ∧
    after.queue = before.queue ++ [payload]

/-- Processors with the same sessions have queued nothing. -/
theorem not_queues_of_found
    {self next : TunProcessor}
    {id : Nat}
    {payload : Bytes}
    (kept : ∀ session, self.sessions[id]? = some session →
      next.sessions[id]? = some session) :
    ¬self.Queues next id payload := by
  rintro ⟨before, after, found, there, grown⟩
  obtain rfl := Option.some.inj ((kept before found).symm.trans there)
  simp at grown

/-- What sending a payload queues is that payload, for a session that
receives. -/
theorem of_queues_sendTo
    {self : TunProcessor}
    {id target : Nat}
    {payload other : Bytes}
    (queues : self.Queues (self.sendTo target payload) id other) :
    other = payload ∧ ∃ session, self.sessions[target]? = some session ∧
      session.isReceiving = true := by
  obtain ⟨before, after, found, there, grown⟩ := queues
  by_cases here : target = id
  · subst here
    rw [sessions_sendTo_self payload found] at there
    obtain rfl := Option.some.inj there
    simp only [TcpSession.send] at grown
    split_ifs at grown with receiving
    · exact ⟨by simpa using grown.symm, before, found, receiving⟩
    · simp at grown
  · rw [sessions_sendTo_of_ne self payload here, found] at there
    obtain rfl := Option.some.inj there
    simp at grown

/-- A FIN for a session that receives queues the empty payload. -/
theorem Closes.queues
    {self : TunProcessor}
    {segment : Segment}
    (closes : self.Closes segment) :
    ∃ id, self.Queues (self.handleTcp segment) id [] := by
  obtain ⟨id, session, entry, found, receiving⟩ := closes.received
  rw [handleTcp_of_fin closes.rst closes.later entry closes.fin]
  obtain ⟨after, there, grown⟩ := queue_sendTo [] found receiving
  exact ⟨id, session, after, found, there, grown⟩

/-- A segment that queues a payload feeds its own, or is a FIN and the payload
is empty. -/
theorem feeds_or_closes_of_queues
    {self : TunProcessor}
    {segment : Segment}
    {id : Nat}
    {payload : Bytes}
    (queues : self.Queues (self.handleTcp segment) id payload) :
    self.Feeds segment ∧ payload = segment.payload ∨
      self.Closes segment ∧ payload = [] := by
  have handled := handled_handleTcp self segment
  generalize self.handleTcp segment = next at handled queues
  cases handled with
  | reset rst => exact absurd queues (not_queues_of_found fun _ found => found)
  | known rst opens entry =>
      exact absurd queues (not_queues_of_found fun _ found => found)
  | spawned rst opens entry =>
      refine absurd queues (not_queues_of_found fun session found => ?_)
      obtain ⟨inside, -⟩ := List.getElem?_eq_some_iff.mp found
      rw [spawn, List.getElem?_append_left inside, found]
  | unknown rst later entry =>
      exact absurd queues (not_queues_of_found fun _ found => found)
  | closed rst later entry fin =>
      obtain ⟨rfl, session, found, receiving⟩ := of_queues_sendTo queues
      exact .inr ⟨⟨rst, later, fin, _, session, entry, found, receiving⟩, rfl⟩
  | queued rst later entry fin filled =>
      obtain ⟨rfl, session, found, receiving⟩ := of_queues_sendTo queues
      exact .inl
        ⟨⟨rst, later, fin, filled, _, session, entry, found, receiving⟩, rfl⟩
  | acknowledged rst later entry fin empty =>
      exact absurd queues (not_queues_of_found fun _ found => found)

/-! ## Packets and what follows them -/

end TunProcessor

/-- An IPv4 packet: a valid header in front of as many bytes as it says. -/
structure IsIpv4Packet
    (parser : HeaderParser)
    (packet : Bytes)
    (ip : Ipv4Header) : Prop where
  version : (packet.headD 0 >>> 4) &&& 0x0F = 4
  header : parser.ipv4 packet = some ip
  whole : packet.length = ipv4TotalLength packet

/-- The segment behind the header of a packet, whatever follows the packet. -/
theorem IsIpv4Packet.parsePacket_append
    {parser : HeaderParser}
    {packet : Bytes}
    {ip : Ipv4Header}
    (isPacket : IsIpv4Packet parser packet ip)
    (front : parser.ReadsFront)
    (extra : Bytes) :
    parsePacket parser (packet ++ extra) =
      if ip.protocol = TCP then
        (parseSegment parser ip (packet.drop ip.length ++ extra)).map some
      else .ok none := by
  obtain ⟨header, inside⟩ := front.ipv4_length isPacket.header
  have long : ¬(packet ++ extra).length < 20 := by
    rw [List.length_append]
    omega
  have first : (packet ++ extra).headD 0 = packet.headD 0 := by
    cases packet with
    | nil => exact absurd inside (by rw [List.length_nil]; omega)
    | cons byte rest => rfl
  rw [parsePacket, if_neg long, first, isPacket.version,
    if_neg (not_not.mpr rfl), front.ipv4 extra isPacket.header,
    ← List.drop_append_of_le_length inside]

/-- The segment in a packet, whatever follows the packet. -/
theorem IsIpv4Packet.parsePacket_self
    {parser : HeaderParser}
    {packet : Bytes}
    {ip : Ipv4Header}
    (isPacket : IsIpv4Packet parser packet ip)
    (front : parser.ReadsFront) :
    parsePacket parser packet =
      if ip.protocol = TCP then
        (parseSegment parser ip (packet.drop ip.length)).map some
      else .ok none := by
  simpa using isPacket.parsePacket_append front []

/-- What follows a packet is appended to the payload of its segment. -/
theorem IsIpv4Packet.segment_append
    {parser : HeaderParser}
    {packet : Bytes}
    {ip : Ipv4Header}
    {tcp : TcpHeader}
    {segment : Segment}
    (isPacket : IsIpv4Packet parser packet ip)
    (front : parser.ReadsFront)
    (extra : Bytes)
    (header : parser.tcp (packet.drop ip.length) = some tcp)
    (parsed : parsePacket parser (packet ++ extra) = .ok (some segment)) :
    ∃ cut, parsePacket parser packet = .ok (some cut) ∧
      cut.payload = packet.drop (ip.length + tcp.length) ∧
      segment = { cut with payload := cut.payload ++ extra } := by
  rw [isPacket.parsePacket_append front] at parsed
  rw [isPacket.parsePacket_self front]
  by_cases protocol : ip.protocol = TCP
  · rw [if_pos protocol, parseSegment, front.tcp extra header] at parsed
    dsimp only at parsed
    rw [List.drop_append_of_le_length (front.tcp_length header)] at parsed
    obtain rfl := Option.some.inj (Except.ok.inj parsed)
    rw [if_pos protocol, parseSegment, header]
    exact ⟨_, rfl, List.drop_drop .., rfl⟩
  · rw [if_neg protocol] at parsed
    cases parsed

/-- A packet with a segment holds the TCP header, and what follows it is
appended to the payload. -/
theorem IsIpv4Packet.append_segment
    {parser : HeaderParser}
    {packet : Bytes}
    {ip : Ipv4Header}
    {cut : Segment}
    (isPacket : IsIpv4Packet parser packet ip)
    (front : parser.ReadsFront)
    (extra : Bytes)
    (parsed : parsePacket parser packet = .ok (some cut)) :
    parser.tcp (packet.drop ip.length) ≠ none ∧
      parsePacket parser (packet ++ extra) =
        .ok (some { cut with payload := cut.payload ++ extra }) := by
  rw [isPacket.parsePacket_self front] at parsed
  rw [isPacket.parsePacket_append front]
  by_cases protocol : ip.protocol = TCP
  · rw [if_pos protocol, parseSegment] at parsed
    cases header : parser.tcp (packet.drop ip.length) with
    | none =>
        rw [header] at parsed
        cases parsed
    | some tcp =>
        rw [header] at parsed
        obtain rfl := Option.some.inj (Except.ok.inj parsed)
        refine ⟨Option.some_ne_none tcp, ?_⟩
        rw [if_pos protocol, parseSegment, front.tcp extra header]
        dsimp only
        rw [List.drop_append_of_le_length (front.tcp_length header)]
        rfl
  · rw [if_neg protocol] at parsed
    cases parsed

namespace TunProcessor

/-- The processor after a packet, which is skipped if it does not parse. -/
def received
    (parser : HeaderParser)
    (self : TunProcessor)
    (data : Bytes) : TunProcessor :=
  match self.processPacket parser data with
  | .error _ => self
  | .ok next => next

/-- Receiving a packet is a step of the processor. -/
theorem step_packet_received
    (parser : HeaderParser)
    (self : TunProcessor)
    (data : Bytes) :
    self.step parser (.packet data) = some (self.received parser data) := by
  rw [step, received]
  cases self.processPacket parser data with
  | error error => rfl
  | ok next => rfl

/-- A segment that is received is acted on. -/
theorem received_of_segment
    {parser : HeaderParser}
    {data : Bytes}
    {segment : Segment}
    (self : TunProcessor)
    (parsed : parsePacket parser data = .ok (some segment)) :
    self.received parser data = self.handleTcp segment := by
  rw [received, processPacket, parsed]

/-- A packet without a segment is skipped. -/
theorem received_of_no_segment
    {parser : HeaderParser}
    {data : Bytes}
    (self : TunProcessor)
    (noSegment : ∀ segment, parsePacket parser data ≠ .ok (some segment)) :
    self.received parser data = self := by
  rw [received, processPacket]
  cases parsed : parsePacket parser data with
  | error error => rfl
  | ok content =>
      cases content with
      | none => rfl
      | some segment => exact absurd parsed (noSegment segment)

/-- Either there is a segment, which is acted on, or the packet is skipped. -/
theorem received_cases
    (parser : HeaderParser)
    (self : TunProcessor)
    (data : Bytes) :
    (∃ segment, parsePacket parser data = .ok (some segment) ∧
      self.received parser data = self.handleTcp segment) ∨
    (∀ segment, parsePacket parser data ≠ .ok (some segment)) ∧
      self.received parser data = self := by
  by_cases found : ∃ segment, parsePacket parser data = .ok (some segment)
  · obtain ⟨segment, parsed⟩ := found
    exact .inl ⟨segment, parsed, received_of_segment self parsed⟩
  · have noSegment := not_exists.mp found
    exact .inr ⟨noSegment, received_of_no_segment self noSegment⟩

/-- A packet is delimited by its headers: bytes behind it make no difference,
a payload that is queued is that of the TCP segment, and a fragment with an
offset has no effect. -/
structure Delimits
    (parser : HeaderParser)
    (state : TunProcessor)
    (packet : Bytes)
    (ip : Ipv4Header)
    (extra : Bytes) : Prop where
  cut : (state.received parser (packet ++ extra)).SameEffect
    (state.received parser packet)
  payload : ∀ id payload,
    state.Queues (state.received parser (packet ++ extra)) id payload →
    ∃ tcp, parser.tcp (packet.drop ip.length) = some tcp ∧
      payload = packet.drop (ip.length + tcp.length) ∧
      payload.length + ip.length + tcp.length = ipv4TotalLength packet
  fragment : ipv4FragmentOffset packet ≠ 0 →
    (state.received parser (packet ++ extra)).SameEffect state

/-- If the bytes of a packet and behind it would start, remove or feed a
session, the packet is no fragment with an offset, it holds the TCP header, and
nothing follows it that would be fed; and with a FIN for a session that still
receives, the packet has no payload, since none is queued. -/
def EndsWell
    (parser : HeaderParser)
    (self : TunProcessor)
    (packet : Bytes)
    (ip : Ipv4Header)
    (extra : Bytes) : Prop :=
  ∀ segment, parsePacket parser (packet ++ extra) = .ok (some segment) →
    self.Acts segment →
    ipv4FragmentOffset packet = 0 ∧
      (∃ tcp, parser.tcp (packet.drop ip.length) = some tcp ∧
        (self.Closes segment → packet.drop (ip.length + tcp.length) = [])) ∧
      (self.Feeds segment → extra = [])

/-- A packet that ends well and queues a payload acts by a segment whose TCP
header it holds. -/
theorem EndsWell.payload
    {parser : HeaderParser}
    {self : TunProcessor}
    {packet : Bytes}
    {ip : Ipv4Header}
    {extra : Bytes}
    (endsWell : self.EndsWell parser packet ip extra)
    (front : parser.ReadsFront)
    (isPacket : IsIpv4Packet parser packet ip)
    {id : Nat}
    {payload : Bytes}
    (queues :
      self.Queues (self.received parser (packet ++ extra)) id payload) :
    ∃ tcp, parser.tcp (packet.drop ip.length) = some tcp ∧
      payload = packet.drop (ip.length + tcp.length) ∧
      payload.length + ip.length + tcp.length = ipv4TotalLength packet := by
  rcases received_cases parser self (packet ++ extra) with
    ⟨segment, parsed, received⟩ | ⟨-, skipped⟩
  · rw [received] at queues
    obtain ⟨-, inside⟩ := front.ipv4_length isPacket.header
    rcases feeds_or_closes_of_queues queues with
      ⟨feeds, rfl⟩ | ⟨closes, rfl⟩
    · obtain ⟨-, ⟨tcp, found, -⟩, alone⟩ :=
        endsWell segment parsed (.inr (.inr feeds))
      obtain ⟨cut, -, payload, rfl⟩ :=
        isPacket.segment_append front extra found parsed
      have behind := front.tcp_length found
      rw [List.length_drop] at behind
      refine ⟨tcp, found, ?_, ?_⟩
      · rw [← payload, alone feeds, List.append_nil]
      · rw [alone feeds, List.append_nil, payload, List.length_drop,
          ← isPacket.whole]
        omega
    · obtain ⟨-, ⟨tcp, found, empty⟩, -⟩ :=
        endsWell segment parsed closes.acts
      have behind := front.tcp_length found
      have ends := List.drop_eq_nil_iff.mp (empty closes)
      rw [List.length_drop] at behind
      refine ⟨tcp, found, (empty closes).symm, ?_⟩
      rw [List.length_nil, ← isPacket.whole]
      omega
  · rw [skipped] at queues
    exact absurd queues (not_queues_of_found fun _ found => found)

/-- Bytes behind a packet that ends well make no difference. -/
theorem EndsWell.cut
    {parser : HeaderParser}
    {self : TunProcessor}
    {packet : Bytes}
    {ip : Ipv4Header}
    {extra : Bytes}
    (endsWell : self.EndsWell parser packet ip extra)
    (front : parser.ReadsFront)
    (owned : self.EntriesOwned)
    (isPacket : IsIpv4Packet parser packet ip) :
    (self.received parser (packet ++ extra)).SameEffect
      (self.received parser packet) := by
  rcases received_cases parser self packet with
    ⟨cut, parsed, received⟩ | ⟨noCut, skipped⟩
  · obtain ⟨-, wholeParsed⟩ := isPacket.append_segment front extra parsed
    rw [received, received_of_segment self wholeParsed]
    refine (sameEffect_append_iff owned cut extra).mpr fun feeds => ?_
    exact (endsWell _ wholeParsed (.inr (.inr feeds))).2.2 feeds
  · rw [skipped]
    rcases received_cases parser self (packet ++ extra) with
      ⟨segment, parsed, received⟩ | ⟨-, wholeSkipped⟩
    · rw [received]
      refine (sameEffect_handleTcp_iff owned segment).mpr fun acts => ?_
      obtain ⟨-, ⟨tcp, found, -⟩, -⟩ := endsWell segment parsed acts
      obtain ⟨cut, cutParsed, -⟩ :=
        isPacket.segment_append front extra found parsed
      exact noCut cut cutParsed
    · rw [wholeSkipped]
      rfl

/-- A packet that ends well and is a fragment with an offset has no effect. -/
theorem EndsWell.fragment
    {parser : HeaderParser}
    {self : TunProcessor}
    {packet : Bytes}
    {ip : Ipv4Header}
    {extra : Bytes}
    (endsWell : self.EndsWell parser packet ip extra)
    (owned : self.EntriesOwned)
    (offset : ipv4FragmentOffset packet ≠ 0) :
    (self.received parser (packet ++ extra)).SameEffect self := by
  rcases received_cases parser self (packet ++ extra) with
    ⟨segment, parsed, received⟩ | ⟨-, skipped⟩
  · rw [received]
    refine (sameEffect_handleTcp_iff owned segment).mpr fun acts => ?_
    exact offset (endsWell segment parsed acts).1
  · rw [skipped]
    rfl

/-- A packet is delimited by its headers if and only if it ends well. -/
theorem delimits_iff
    {parser : HeaderParser}
    (front : parser.ReadsFront)
    {labels : List Label}
    {self : TunProcessor}
    (reached : Run.run (step parser) new labels = some self)
    {packet : Bytes}
    {ip : Ipv4Header}
    (isPacket : IsIpv4Packet parser packet ip)
    (extra : Bytes) :
    self.Delimits parser packet ip extra ↔
      self.EndsWell parser packet ip extra := by
  have owned := entriesOwned_of_run reached
  constructor
  · rintro ⟨cut, payload, fragment⟩ segment parsed acts
    rw [received_of_segment self parsed] at cut payload fragment
    have effect : ¬(self.handleTcp segment).SameEffect self := fun same =>
      (sameEffect_handleTcp_iff owned segment).mp same acts
    have header : parser.tcp (packet.drop ip.length) ≠ none := by
      intro missing
      rw [received_of_no_segment self fun cutSegment cutParsed =>
        (isPacket.append_segment front extra cutParsed).1 missing] at cut
      exact effect cut
    obtain ⟨tcp, found⟩ := Option.ne_none_iff_exists'.mp header
    refine ⟨not_not.mp fun offset => effect (fragment offset),
      ⟨tcp, found, fun closes => ?_⟩, ?_⟩
    · obtain ⟨id, queues⟩ := closes.queues
      obtain ⟨other, same, empty, -⟩ := payload id [] queues
      obtain rfl := Option.some.inj (same.symm.trans found)
      exact empty.symm
    obtain ⟨inner, innerParsed, -, rfl⟩ :=
      isPacket.segment_append front extra found parsed
    rw [received_of_segment self innerParsed] at cut
    exact (sameEffect_append_iff owned inner extra).mp cut
  · intro endsWell
    exact {
      cut := endsWell.cut front owned isPacket
      payload := fun id payload => endsWell.payload front isPacket
      fragment := endsWell.fragment owned }

/-! ## A byte behind a packet -/

/-- The IPv4 header of the packets of the web connection. -/
def webIpv4Header : Ipv4Header where
  source := webEnds.source
  destination := webEnds.destination
  protocol := TCP
  length := 20

/-- The first byte of the web connection comes in an IPv4 packet. -/
theorem isIpv4Packet_webData :
    IsIpv4Packet headerFormats webData webIpv4Header where
  version := by decide
  header := (parseIpv4Header_segmentBytes webEnds ⟨[0, 0, 0, 1], rfl⟩
    { syn := false, ack := true, fin := false, rst := false } [1]).1
  whole := by decide

/-- The web connection is opened by its SYN. -/
theorem run_webSyn :
    Run.run (step headerFormats) new [.packet webSyn] =
      some (new.spawn webSynSegment) := by
  rw [Run.run_cons_eq_some]
  exact ⟨_, step_webSyn, rfl⟩

/-- Where the first packet of the web connection ends decides whether it is
delimited. -/
theorem delimits_iff_webData :
    (new.spawn webSynSegment).Delimits headerFormats webData webIpv4Header
        [9] ↔
      (new.spawn webSynSegment).EndsWell headerFormats webData webIpv4Header
        [9] :=
  delimits_iff readsFront_headerFormats run_webSyn isIpv4Packet_webData [9]

/-- Every packet is delimited by its headers, in every reachable state. -/
def DelimitsPackets (parser : HeaderParser) : Prop :=
  ∀ labels self, Run.run (step parser) new labels = some self →
    ∀ packet ip, IsIpv4Packet parser packet ip →
      ∀ extra, self.Delimits parser packet ip extra

/-- A byte behind the first packet of the web connection is queued as part of
its payload. -/
theorem not_delimitsPackets :
    ¬DelimitsPackets headerFormats := by
  intro delimits
  have cut := (delimits _ _ run_webSyn _ _ isIpv4Packet_webData [9]).cut
  obtain ⟨-, parsed⟩ := isIpv4Packet_webData.append_segment
    readsFront_headerFormats [9] parsePacket_webData
  rw [received_of_segment _ parsed,
    received_of_segment _ parsePacket_webData] at cut
  have entry : (new.spawn webSynSegment).nat webEnds.key = some 0 :=
    nat_spawn new webSynSegment
  have alone := (sameEffect_append_iff (entriesOwned_of_run run_webSyn)
    webDataSegment [9]).mp cut
    ⟨rfl, rfl, rfl, by decide, 0, _, entry, rfl, rfl⟩
  cases alone

end TunProcessor
end Tun
end GhostProtocol
