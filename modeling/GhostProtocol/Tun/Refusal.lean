import GhostProtocol.Client.Answers
import GhostProtocol.Tun.Downstream
import GhostProtocol.Tun.Grammar

/-!
# The packet relay on the local proxy

The SOCKS5 client of the packet relay expects the type of the address in a
success twice, and the local proxy writes it once.  Nothing that the proxy ever
writes is therefore accepted as a success.  In a run in which every session
goes through the local proxy, no flow is ever connected: every session answers
the SYN of its flow with a reset, and forwards nothing.
-/

namespace GhostProtocol
namespace Tun

open Foundation Common

/-- A connection on which the local proxy has written what can be read: a front
of its answers to some application, and of what a tunnel downloads once the
proxy has one. -/
def FromLocalProxy (relay : Stream) : Prop :=
  ∃ (inbound : Stream) (download : Bytes),
    inbound.outgoing = [] ∧
      (download ≠ [] → ∃ target next,
        Client.handleSocks5Client.exec inbound = (.ok target, next)) ∧
      relay.unread <+:
        (Client.handleSocks5Client.exec inbound).2.outgoing ++ download

/-- What the local proxy writes starts with its success, or is part of a
refusal or of the success. -/
theorem answer_of_fromLocalProxy
    {relay : Stream}
    (served : FromLocalProxy relay) :
    ∃ bytes, relay.unread <+: bytes ∧
      (bytes = Client.noMethod ∨
        bytes = Client.methodChosen ++ Client.commandRefused ∨
        ∃ download, bytes =
          Client.methodChosen ++ Client.successReply ++ download) := by
  obtain ⟨inbound, download, fresh, opened, part⟩ := served
  have answers := Client.answers_handleSocks5Client
  cases executed : Client.handleSocks5Client.exec inbound with
  | mk result next =>
      rw [executed] at part opened
      cases result with
      | ok target =>
          refine ⟨_, part, .inr (.inr ⟨download, ?_⟩)⟩
          rw [answers.whole executed, fresh, List.nil_append]
      | error fault =>
          obtain rfl : download = [] := by
            by_contra nonempty
            obtain ⟨target, after, equal⟩ := opened nonempty
            cases equal
          obtain ⟨bytes, member, written⟩ := answers.part inbound
          rw [executed, fresh, List.nil_append] at written
          rw [List.append_nil] at part
          refine ⟨bytes, part.trans written, ?_⟩
          rcases List.mem_cons.mp member with rfl | member
          · exact .inr (.inr ⟨[], (List.append_nil _).symm⟩)
          rcases List.mem_cons.mp member with rfl | member
          · exact .inl rfl
          · exact .inr (.inl (List.mem_singleton.mp member))

/-- Nothing that the local proxy writes is accepted as a success. -/
theorem not_connects_of_fromLocalProxy
    (proxyAddr target : SocketAddr)
    {relay : Stream}
    (served : FromLocalProxy relay) :
    ¬∃ next, (socks5Connect (.ok ()) proxyAddr target).exec relay =
      (.ok (), next) := by
  rintro ⟨next, ran⟩
  obtain ⟨behind, ⟨rsv, atyp, unread⟩, skips⟩ := skips_of_connects ran
  obtain ⟨bytes, ⟨more, whole⟩, alternatives⟩ := answer_of_fromLocalProxy served
  rw [unread] at whole
  rcases alternatives with rfl | rfl | ⟨download, rfl⟩
  · simp [Client.noMethod] at whole
  · have refused : Client.commandRefused =
        0x05 :: 0x07 :: Client.commandRefused.drop 2 := by decide
    rw [refused, Client.methodChosen] at whole
    simp at whole
  · have success : Client.successReply =
        [0x05, 0x00, 0x00, 0x01, 0, 0, 0, 0, 0, 0] := by decide
    rw [success, Client.methodChosen] at whole
    cases skips with
    | ipV4 length => simp at whole
    | domain length => simp at whole
    | ipV6 length => simp at whole

namespace TunProcessor

/-- A session that has never been connected. -/
structure Unconnected (session : TcpSession) : Prop where
  notRelaying : session.phase ≠ .relaying
  notReading : session.socksToTun = false
  notWriting : session.dataToSocks = false
  nothing : session.written = []

/-- One event other than the connection leaves a session unconnected. -/
theorem Evolution.unconnected
    {id : Nat}
    {label : Label}
    {before after : TcpSession}
    (evolution : Evolution id label before after)
    (other : label ≠ .session id .connected)
    (unconnected : Unconnected before) :
    Unconnected after := by
  have idle := unconnected.notWriting
  cases evolution with
  | same => exact unconnected
  | sent payload =>
      exact ⟨unconnected.notRelaying, unconnected.notReading, idle,
        unconnected.nothing⟩
  | moved transition =>
      cases transition with
      | connectFailed connecting =>
          exact ⟨Phase.noConfusion, unconnected.notReading, idle,
            unconnected.nothing⟩
      | connected connecting => exact absurd rfl other
      | socksData reading nonempty fits =>
          rw [unconnected.notReading] at reading
          cases reading
      | socksClosed reading =>
          rw [unconnected.notReading] at reading
          cases reading
      | receive running waiting queued =>
          rw [idle] at running
          cases running
      | socksWrite running writing positive fits =>
          rw [idle] at running
          cases running
      | flushed running writing =>
          rw [idle] at running
          cases running
      | socksWriteFailed running writing =>
          rw [idle] at running
          cases running
      | hangUp running waiting drained detached =>
          rw [idle] at running
          cases running
      | finish relaying taskEnded =>
          exact absurd relaying unconnected.notRelaying

/-- A run without connections leaves every session unconnected. -/
theorem unconnected_of_run
    {parser : HeaderParser}
    {labels : List Label}
    {final : TunProcessor}
    (reached : Run.run (step parser) new labels = some final)
    (never : ∀ id, .session id .connected ∉ labels)
    {id : Nat}
    {session : TcpSession}
    (found : final.sessions[id]? = some session) :
    Unconnected session := by
  have guarded : Run.Guarded (step parser)
      (fun _ label => ∀ id, label ≠ .session id .connected) new labels := by
    refine Run.guarded_of_forall fun label member id isConnected => ?_
    rw [isConnected] at member
    exact never id member
  refine Run.invariant_of_guarded _ (fun state : TunProcessor =>
    ∀ (id : Nat) (session : TcpSession),
      state.sessions[id]? = some session → Unconnected session) ?_ ?_ guarded
        reached id session found
  · intro self label next holds other stepped id after there
    rcases (transition_of_step stepped).spawned_or_evolves there with
      ⟨data, segment, -, -, -, -, -, -, rfl⟩ | ⟨before, was, evolution⟩
    · exact ⟨Phase.noConfusion, rfl, rfl, rfl⟩
    · exact evolution.unconnected (other id) (holds id before was)
  · intro id session nothing
    cases nothing

/-- In a run in which every session that is connected has been connected
through the local proxy, no session is: each has forwarded nothing, and has
emitted nothing but the reset of its flow once its connection has failed. -/
theorem resets_every_flow
    (parser : HeaderParser)
    (labels : List Label)
    (final : TunProcessor)
    (reached : Run.run (step parser) new labels = some final)
    (throughProxy : ∀ id, .session id .connected ∈ labels →
      ∃ proxyAddr target relay next, FromLocalProxy relay ∧
        (socks5Connect (.ok ()) proxyAddr target).exec relay = (.ok (), next))
    (id : Nat)
    (session : TcpSession)
    (found : final.sessions[id]? = some session) :
    session.written = [] ∧
      ((session.phase = .connecting ∧ final.packetsOf id = []) ∨
        (session.phase = .ended ∧ final.packetsOf id =
          [rstAck session.key session.clientInitialSeq])) := by
  have never : ∀ id, .session id .connected ∉ labels := by
    intro other member
    obtain ⟨proxyAddr, target, relay, next, served, ran⟩ :=
      throughProxy other member
    exact not_connects_of_fromLocalProxy proxyAddr target served ⟨next, ran⟩
  have unconnected := unconnected_of_run reached never found
  have notConnected : .connected ∉ eventsOf id labels := by
    intro member
    obtain ⟨label, inside, isEvent⟩ := List.mem_filterMap.mp member
    cases label with
    | packet data => cases isEvent
    | session other event =>
        rw [eventOf] at isEvent
        split_ifs at isEvent with here
        obtain rfl := Option.some.inj isEvent
        exact never other inside
  refine ⟨unconnected.nothing, ?_⟩
  have downstream := (streams_of_run reached).session id session found
  generalize eventsOf id labels = events at downstream notConnected
  generalize final.packetsOf id = packets at downstream ⊢
  cases downstream with
  | connecting phase reading => exact .inl ⟨phase, rfl⟩
  | failed phase reading =>
      refine .inr ⟨?_, rfl⟩
      cases standing : session.phase with
      | connecting => exact absurd standing phase
      | relaying => exact absurd standing unconnected.notRelaying
      | ended => rfl
  | reading phase reading reads fits seq ack =>
      exact absurd List.mem_cons_self notConnected
  | closed phase reading reads fits =>
      exact absurd (List.mem_append_left _ List.mem_cons_self) notConnected

/-- The web connection is reset. -/
theorem resets_every_flow_web :
    ∃ final session,
      Run.run (step headerFormats) new
          [.packet webSyn, .session 0 .connectFailed] = some final ∧
        final.sessions[0]? = some session ∧ session.written = [] ∧
        ((session.phase = .connecting ∧ final.packetsOf 0 = []) ∨
          (session.phase = .ended ∧ final.packetsOf 0 =
            [rstAck session.key session.clientInitialSeq])) := by
  obtain ⟨final, stepped, found⟩ := exists_step_session headerFormats
    .connectFailed
    (show (new.spawn webSynSegment).sessions[0]? = some _ from rfl) rfl
  have reached : Run.run (step headerFormats) new
      [.packet webSyn, .session 0 .connectFailed] = some final :=
    (Run.run_cons_eq_some ..).mpr ⟨_, step_webSyn,
      (Run.run_cons_eq_some ..).mpr ⟨final, stepped, rfl⟩⟩
  refine ⟨final, _, reached, found, ?_⟩
  exact resets_every_flow headerFormats _ final reached
    (fun id member => by simp at member) 0 _ found

end TunProcessor
end Tun
end GhostProtocol
