import GhostProtocol.Tun.Channel

/-!
# The order of forwarded data

The packet processor forwards payloads in the order of their arrival and reads
neither sequence numbers nor what it has forwarded already.  What it forwards
is the byte stream of the client when the segments arrive one after another.
-/

namespace GhostProtocol
namespace Tun

open Foundation Common

/-- The segment starts at an offset of the client's byte stream. -/
def StartsAt (isn : UInt32) (offset : Nat) (segment : Segment) : Prop :=
  segment.sequenceNumber = isn + 1 + UInt32.ofNat offset

/-- A segment that a correct sender may emit for a byte stream, at any time
and any number of times. -/
structure SentFor
    (isn : UInt32)
    (stream : Bytes)
    (segment : Segment) : Prop where
  rst : segment.rst = false
  syn : segment.syn = false
  slice : ∃ offset, StartsAt isn offset segment ∧
    segment.payload <+: stream.drop offset ∧
    (segment.fin = true → offset + segment.payload.length = stream.length)

/-- Segments of a byte stream that arrive one after another: each starts where
the one before has ended, and a FIN stands behind the last byte.  What follows
the FIN is arbitrary. -/
inductive InOrder (isn : UInt32) (stream : Bytes) : Nat → List Segment → Prop
  | nil {offset} : InOrder isn stream offset []
  | syn {offset segment segments}
      (opens : segment.Opens)
      (fin : segment.fin = false)
      (rest : InOrder isn stream offset segments) :
      InOrder isn stream offset (segment :: segments)
  | data {offset segment segments}
      (rst : segment.rst = false)
      (syn : segment.syn = false)
      (fin : segment.fin = false)
      (starts : StartsAt isn offset segment)
      (slice : segment.payload <+: stream.drop offset)
      (rest : InOrder isn stream (offset + segment.payload.length) segments) :
      InOrder isn stream offset (segment :: segments)
  | fin {segment segments}
      (rst : segment.rst = false)
      (syn : segment.syn = false)
      (fin : segment.fin = true)
      (starts : StartsAt isn stream.length segment)
      (empty : segment.payload = []) :
      InOrder isn stream stream.length (segment :: segments)

/-- The payloads of the segments of a flow in the order of their arrival, up to
the FIN or the RST that closes it. -/
def arrived : List Segment → Bytes
  | [] => []
  | segment :: segments =>
      if segment.rst then []
      else if segment.syn && !segment.ack then arrived segments
      else if segment.fin then segment.payload
      else segment.payload ++ arrived segments

namespace Channel

/-- A detached channel accepts no segments. -/
theorem foldl_accept_of_detached
    {channel : Channel}
    (segments : List Segment)
    (detached : channel.attached = false) :
    segments.foldl accept channel = channel := by
  induction segments with
  | nil => rfl
  | cons segment segments inductionHypothesis =>
      rw [List.foldl_cons, accept_of_detached segment detached,
        inductionHypothesis]

/-- A channel sends the payloads in the order of their arrival. -/
theorem foldl_accept
    {channel : Channel}
    {segments : List Segment}
    (attached : channel.attached = true)
    (bareFin : ∀ segment ∈ segments, segment.fin = true →
      segment.payload = []) :
    (segments.foldl accept channel).sent.flatten =
      channel.sent.flatten ++ arrived segments := by
  induction segments generalizing channel with
  | nil => exact (List.append_nil _).symm
  | cons segment segments inductionHypothesis =>
      have bareTail := fun other member =>
        bareFin other (List.mem_cons_of_mem segment member)
      rw [List.foldl_cons, arrived]
      by_cases rst : segment.rst = true
      · rw [accept_of_rst channel rst, foldl_accept_of_detached segments rfl,
          if_pos rst, List.append_nil]
      rw [if_neg rst]
      have noReset := Bool.eq_false_of_not_eq_true rst
      by_cases opens : (segment.syn && !segment.ack) = true
      · rw [accept_of_opens channel noReset opens, if_pos opens,
          inductionHypothesis attached bareTail]
      rw [if_neg opens]
      have later := Bool.eq_false_of_not_eq_true opens
      by_cases fin : segment.fin = true
      · rw [accept_of_fin attached noReset later fin,
          foldl_accept_of_detached segments rfl, if_pos fin,
          bareFin segment List.mem_cons_self fin]
        simp
      rw [if_neg fin]
      have goesOn := Bool.eq_false_of_not_eq_true fin
      by_cases empty : segment.payload = []
      · rw [accept_of_empty channel noReset later goesOn empty, empty,
          inductionHypothesis attached bareTail, List.nil_append]
      · rw [accept_of_payload attached noReset later goesOn empty,
          inductionHypothesis rfl bareTail]
        simp

end Channel

/-- What arrives in order is the byte stream from the offset on, as far as it
has arrived; up to the FIN it is the whole stream. -/
theorem InOrder.foldl_accept
    {isn : UInt32}
    {stream : Bytes}
    {offset : Nat}
    {segments : List Segment}
    (inOrder : InOrder isn stream offset segments)
    (channel : Channel)
    (attached : channel.attached = true) :
    ∃ forwarded,
      (segments.foldl Channel.accept channel).sent.flatten =
        channel.sent.flatten ++ forwarded ∧
      forwarded <+: stream.drop offset ∧
      ((∃ segment ∈ segments, segment.fin = true) →
        forwarded = stream.drop offset) := by
  induction inOrder generalizing channel with
  | nil =>
      refine ⟨[], (List.append_nil _).symm, List.nil_prefix, ?_⟩
      rintro ⟨segment, member, -⟩
      cases member
  | @syn offset segment segments opens fin rest inductionHypothesis =>
      rw [List.foldl_cons, Channel.accept_of_opens channel opens.rst
        (by rw [opens.syn, opens.ack]; rfl)]
      obtain ⟨forwarded, equal, isPrefix, complete⟩ :=
        inductionHypothesis channel attached
      refine ⟨forwarded, equal, isPrefix, ?_⟩
      rintro ⟨other, member, isFin⟩
      rcases List.mem_cons.mp member with rfl | member
      · rw [fin] at isFin
        cases isFin
      · exact complete ⟨other, member, isFin⟩
  | @data offset segment segments rst syn fin starts slice rest
      inductionHypothesis =>
      have later : (segment.syn && !segment.ack) = false := by rw [syn]; rfl
      have accepted : ∃ next, channel.accept segment = next ∧
          next.attached = true ∧
          next.sent.flatten = channel.sent.flatten ++ segment.payload := by
        by_cases empty : segment.payload = []
        · refine ⟨channel, ?_, attached, ?_⟩
          · exact Channel.accept_of_empty channel rst later fin empty
          · rw [empty, List.append_nil]
        · refine ⟨_, Channel.accept_of_payload attached rst later fin empty,
            rfl, ?_⟩
          simp
      obtain ⟨next, equal, still, sent⟩ := accepted
      obtain ⟨forwarded, folded, isPrefix, complete⟩ :=
        inductionHypothesis next still
      obtain ⟨behind, split⟩ := slice
      have remaining : stream.drop (offset + segment.payload.length) =
          behind := by
        rw [← List.drop_drop, ← split, List.drop_left]
      rw [remaining] at isPrefix complete
      refine ⟨segment.payload ++ forwarded, ?_, ?_, ?_⟩
      · rw [List.foldl_cons, equal, folded, sent, List.append_assoc]
      · rw [← split]
        exact (List.prefix_append_right_inj segment.payload).mpr isPrefix
      · rintro ⟨other, member, isFin⟩
        rcases List.mem_cons.mp member with rfl | member
        · rw [fin] at isFin
          cases isFin
        · rw [← split, complete ⟨other, member, isFin⟩]
  | @fin segment segments rst syn fin starts empty =>
      have later : (segment.syn && !segment.ack) = false := by rw [syn]; rfl
      refine ⟨[], ?_, List.nil_prefix, fun _ => List.drop_length.symm⟩
      rw [List.foldl_cons, Channel.accept_of_fin attached rst later fin,
        Channel.foldl_accept_of_detached segments rfl]
      simp

namespace TunProcessor

/-- One event keeps the order of what a session forwards. -/
theorem Evolution.forwarding
    {id : Nat}
    {label : Label}
    {before after : TcpSession}
    (evolution : Evolution id label before after)
    (forwarding : before.Forwarding) :
    after.Forwarding := by
  cases evolution with
  | same => exact forwarding
  | sent payload => exact forwarding.send payload
  | moved moved => exact moved.forwarding forwarding

/-- Every session of a reachable processor forwards in order. -/
theorem forwarding_of_run
    {parser : HeaderParser}
    {labels : List Label}
    {final : TunProcessor}
    (reached : Run.run (step parser) new labels = some final)
    (id : Nat)
    (session : TcpSession)
    (found : final.sessions[id]? = some session) :
    session.Forwarding := by
  refine Run.invariant_of_step (fun state : TunProcessor =>
    ∀ (id : Nat) (session : TcpSession),
      state.sessions[id]? = some session → session.Forwarding) ?_ ?_ reached
        id session found
  · intro self label next holds stepped id after there
    rcases (transition_of_step stepped).spawned_or_evolves there with
      ⟨data, segment, -, -, -, -, -, -, rfl⟩ | ⟨before, was, evolution⟩
    · exact TcpSession.forwarding_new ..
    · exact evolution.forwarding (holds id before was)
  · intro id session nothing
    cases nothing

/-- A run in which a SYN opens a flow: the labels before the SYN, the packet
with the SYN and the labels after it. -/
structure Opening (parser : HeaderParser) where
  earlier : List Label
  data : Bytes
  later : List Label
  before : TunProcessor
  segment : Segment
  final : TunProcessor
  reached : Run.run (step parser) new earlier = some before
  parsed : parsePacket parser data = .ok (some segment)
  opens : segment.Opens
  unknown : before.nat segment.key = none
  ran : Run.run (step parser) before (.packet data :: later) = some final

/-- The later segments of the flow. -/
def Opening.segments {parser : HeaderParser} (run : Opening parser) :
    List Segment :=
  segmentsOf parser run.segment.key run.later

/-- The session that the SYN has started, at the end of the run. -/
def Opening.session {parser : HeaderParser} (run : Opening parser) :
    Option TcpSession :=
  run.final.sessions[run.before.sessions.length]?

/-- The session that a SYN has started is the end of a channel that has
accepted the later segments of its flow. -/
theorem Opening.channel
    {parser : HeaderParser}
    (run : Opening parser) :
    ∃ session, run.session = some session ∧ session.Forwarding ∧
      session.sent = (run.segments.foldl Channel.accept
        { attached := true, sent := [] }).sent := by
  obtain ⟨next, stepped, rest⟩ := (Run.run_cons_eq_some ..).mp run.ran
  rw [step_packet run.before run.parsed,
    handleTcp_of_opens run.opens run.unknown] at stepped
  obtain rfl := Option.some.inj stepped
  have owned := (transition_of_step
    ((step_packet run.before run.parsed).trans (congrArg some
      (handleTcp_of_opens run.opens run.unknown)))).entriesOwned
        (entriesOwned_of_run run.reached)
  obtain ⟨session, found, -, folded⟩ :=
    channel_of_run owned List.getElem?_concat_length rest
  refine ⟨session, found, ?_, ?_⟩
  · refine forwarding_of_run ((Run.run_append_eq_some (step parser) new _
      run.earlier (.packet run.data :: run.later)).mpr
        ⟨run.before, run.reached, run.ran⟩) _ session found
  · have started : (run.before.spawn run.segment).channelAt
        (.new run.segment.key run.segment.sequenceNumber run.segment.target)
        run.before.sessions.length = { attached := true, sent := [] } := by
      simp [channelAt, TcpSession.new]
    rw [started] at folded
    exact congrArg Channel.sent folded

/-- What a session writes to the proxy is a prefix of what it was sent.  It is
sent the payloads of its flow in the order of their arrival, if no FIN carries
data, and these are the byte stream of the client if they arrive in order. -/
theorem forwards_in_order
    (parser : HeaderParser)
    (run : Opening parser) :
    ∃ session, run.session = some session ∧
      session.written <+: session.sent.flatten ∧
      ((∀ segment ∈ run.segments, segment.fin = true →
          segment.payload = []) →
        session.sent.flatten = arrived run.segments) ∧
      ∀ stream,
        InOrder run.segment.sequenceNumber stream 0 run.segments →
        session.sent.flatten <+: stream ∧
          ((∃ segment ∈ run.segments, segment.fin = true) →
            session.sent.flatten = stream) := by
  obtain ⟨session, found, forwarding, sent⟩ := run.channel
  refine ⟨session, found, forwarding.written, fun bareFin => ?_, ?_⟩
  · rw [sent, Channel.foldl_accept rfl bareFin]
    rfl
  · intro stream inOrder
    obtain ⟨forwarded, folded, isPrefix, complete⟩ :=
      inOrder.foldl_accept { attached := true, sent := [] } rfl
    rw [sent, folded]
    exact ⟨isPrefix, complete⟩

/-- A run that opens the web connection and then has the given segments of it
arrive. -/
def webOpening
    (first second : Bytes)
    (firstSegment secondSegment : Segment)
    (firstParsed : parsePacket headerFormats first = .ok (some firstSegment))
    (secondParsed : parsePacket headerFormats second =
      .ok (some secondSegment)) :
    Opening headerFormats where
  earlier := []
  data := webSyn
  later := [.packet first, .packet second]
  before := new
  segment := webSynSegment
  final := ((new.spawn webSynSegment).handleTcp firstSegment).handleTcp
    secondSegment
  reached := rfl
  parsed := parsePacket_webSyn
  opens := ⟨rfl, rfl, rfl⟩
  unknown := rfl
  ran := (Run.run_cons_eq_some ..).mpr ⟨_, step_webSyn,
    (Run.run_cons_eq_some ..).mpr ⟨_, step_packet _ firstParsed,
      (Run.run_cons_eq_some ..).mpr ⟨_, step_packet _ secondParsed, rfl⟩⟩⟩

/-- The segments of the web connection in such a run. -/
theorem segments_webOpening
    {first second : Bytes}
    {firstSegment secondSegment : Segment}
    (firstParsed : parsePacket headerFormats first = .ok (some firstSegment))
    (secondParsed : parsePacket headerFormats second =
      .ok (some secondSegment))
    (firstKey : firstSegment.key = webEnds.key)
    (secondKey : secondSegment.key = webEnds.key) :
    (webOpening first second firstSegment secondSegment firstParsed
      secondParsed).segments = [firstSegment, secondSegment] := by
  have key : webSynSegment.key = webEnds.key := rfl
  simp [Opening.segments, webOpening, segmentsOf, segmentOf, firstParsed,
    secondParsed, firstKey, secondKey, key]

/-- A byte and a FIN that arrive in order. -/
theorem forwards_in_order_fin :
    ∃ session,
      (webOpening webData webFin webDataSegment webFinSegment
        parsePacket_webData parsePacket_webFin).session = some session ∧
      session.written <+: [1] ∧ session.sent.flatten = [1] := by
  obtain ⟨session, found, written, -, inOrder⟩ :=
    forwards_in_order headerFormats (webOpening webData webFin webDataSegment
      webFinSegment parsePacket_webData parsePacket_webFin)
  have segments := segments_webOpening parsePacket_webData parsePacket_webFin
    rfl rfl
  rw [segments] at inOrder
  have sent : session.sent.flatten = [1] := by
    refine (inOrder [1] ?_).2 ⟨webFinSegment, by simp, rfl⟩
    exact .data rfl rfl rfl rfl (List.prefix_refl _) (.fin rfl rfl rfl rfl rfl)
  exact ⟨session, found, sent ▸ written, sent⟩

/-- A byte that is sent twice arrives twice at the proxy. -/
theorem not_prefix_of_retransmission :
    ¬ ∀ parser (run : Opening parser) stream,
      (∀ segment ∈ run.segments,
        SentFor run.segment.sequenceNumber stream segment) →
      ∀ session, run.session = some session →
        session.sent.flatten <+: stream := by
  intro prefixes
  have segments := segments_webOpening parsePacket_webData parsePacket_webData
    rfl rfl
  have sentFor : SentFor 0 [1] webDataSegment :=
    ⟨rfl, rfl, 0, rfl, List.prefix_refl _, Bool.noConfusion⟩
  obtain ⟨session, found, -, sent⟩ := (webOpening webData webData
    webDataSegment webDataSegment parsePacket_webData
      parsePacket_webData).channel
  have short := (prefixes headerFormats _ [1] (by
    rw [segments]
    intro segment member
    obtain rfl : segment = webDataSegment := by simpa using member
    exact sentFor) session found).length_le
  rw [sent, segments] at short
  exact absurd short (by decide)

end TunProcessor
end Tun
end GhostProtocol
