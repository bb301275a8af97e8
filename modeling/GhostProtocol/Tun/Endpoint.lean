import GhostProtocol.Tun.Processor

/-!
# One endpoint per flow

A session emits packets until the task that reads from the proxy has ended,
whatever the table says of its flow.  A flow has at most one endpoint, and a
reset silences it, in every run in which sessions are replaced and reset only
when they emit nothing more.
-/

namespace GhostProtocol
namespace Tun

open Foundation Common

namespace TunProcessor

/-- The packets that a session has emitted. -/
def emittedBy (self : TunProcessor) (id : Nat) : List (Nat × Packet) :=
  self.emitted.filter fun entry => entry.1 = id

/-- The packets that one event adds to the log of a session. -/
theorem emittedBy_append
    (self : TunProcessor)
    (sessions : List TcpSession)
    (packets : List Packet)
    (target id : Nat) :
    { self with
      sessions
      emitted := self.emitted ++ packets.map (target, ·) }.emittedBy id =
      self.emittedBy id ++
        if target = id then packets.map (target, ·) else [] := by
  rw [emittedBy, emittedBy, List.filter_append]
  congr 1
  split_ifs with here
  · refine List.filter_eq_self.mpr fun entry member => ?_
    obtain ⟨packet, -, rfl⟩ := List.mem_map.mp member
    simpa using here
  · refine List.filter_eq_nil_iff.mpr fun entry member => ?_
    obtain ⟨packet, -, rfl⟩ := List.mem_map.mp member
    simpa using here

/-- Some continuation of the run emits a packet of the session. -/
def CanStillEmit
    (parser : HeaderParser)
    (self : TunProcessor)
    (id : Nat) : Prop :=
  ∃ labels final, Run.run (step parser) self labels = some final ∧
    final.emittedBy id ≠ self.emittedBy id

/-- At most one session of every flow can still emit packets. -/
def OneEndpoint (parser : HeaderParser) (self : TunProcessor) : Prop :=
  ∀ (id other : Nat) (session otherSession : TcpSession),
    self.sessions[id]? = some session →
    self.sessions[other]? = some otherSession →
    session.key = otherSession.key →
    self.CanStillEmit parser id →
    self.CanStillEmit parser other →
    id = other

/-- In a run from a processor without sessions, the session that an RST has
closed emits nothing after that RST. -/
def ResetsSilence
    (parser : HeaderParser)
    (labels : List Label)
    (final : TunProcessor) : Prop :=
  ∀ before data after middle segment id,
    labels = before ++ .packet data :: after →
    Run.run (step parser) new before = some middle →
    parsePacket parser data = .ok (some segment) →
    segment.rst = true →
    middle.nat segment.key = some id →
    final.emittedBy id = middle.emittedBy id

/-- The session at a position can emit nothing. -/
def SilentAt (self : TunProcessor) (id : Nat) : Prop :=
  ∃ session, self.sessions[id]? = some session ∧ session.isEmitting = false

/-- A SYN starts a session, and an RST closes one, only when the earlier
sessions of the flow, or the one it closes, emit nothing more. -/
def ReplacesSilent
    (parser : HeaderParser)
    (self : TunProcessor)
    (label : Label) : Prop :=
  ∀ data segment,
    label = .packet data →
    parsePacket parser data = .ok (some segment) →
    (segment.Opens → self.nat segment.key = none →
      ∀ (id : Nat) (session : TcpSession), self.sessions[id]? = some session →
        session.key = segment.key → session.isEmitting = false) ∧
    (segment.rst = true →
      ∀ id, self.nat segment.key = some id → self.SilentAt id)

/-! ## Silent sessions -/

/-- A silent session stays silent, and its log of packets stays as it is. -/
theorem Transition.silentAt
    {parser : HeaderParser}
    {self next : TunProcessor}
    {label : Label}
    {id : Nat}
    (transition : Transition parser self label next)
    (silent : self.SilentAt id) :
    next.SilentAt id ∧ next.emittedBy id = self.emittedBy id := by
  obtain ⟨before, found, quiet⟩ := silent
  obtain ⟨after, there, evolution⟩ := transition.evolves found
  constructor
  · refine ⟨after, there, ?_⟩
    cases evolution with
    | same => exact quiet
    | sent payload => exact quiet
    | moved moved => exact (moved.silent quiet).1
  · cases transition with
    | @session target session event changed packets here moved =>
        rw [emittedBy_append]
        split_ifs with same
        · subst same
          obtain rfl := Option.some.inj (here.symm.trans found)
          rw [(moved.silent quiet).2, List.map_nil, List.append_nil]
        · exact List.append_nil _
    | ignored noSegment => rfl
    | reset parsed rst => rfl
    | known parsed rst opens entry => rfl
    | spawned parsed rst opens entry => rfl
    | unknown parsed rst later entry => rfl
    | closed parsed rst later entry fin => rfl
    | queued parsed rst later entry fin nonempty => rfl
    | acknowledged parsed rst later entry fin empty => rfl

/-- A silent session emits nothing in any run. -/
theorem emittedBy_of_silentAt
    {parser : HeaderParser}
    {self final : TunProcessor}
    {labels : List Label}
    {id : Nat}
    (silent : self.SilentAt id)
    (reached : Run.run (step parser) self labels = some final) :
    final.emittedBy id = self.emittedBy id := by
  refine (Run.invariant_of_step (fun state => state.SilentAt id ∧
    state.emittedBy id = self.emittedBy id) ?_ ⟨silent, rfl⟩ reached).2
  rintro state label next ⟨quiet, log⟩ stepped
  obtain ⟨still, same⟩ := (transition_of_step stepped).silentAt quiet
  exact ⟨still, same.trans log⟩

/-- A session can still emit exactly as long as its connection is not decided
or its reading task runs. -/
theorem canStillEmit_iff
    {parser : HeaderParser}
    {self : TunProcessor}
    {id : Nat}
    {session : TcpSession}
    (found : self.sessions[id]? = some session) :
    self.CanStillEmit parser id ↔ session.isEmitting = true := by
  constructor
  · rintro ⟨labels, final, reached, more⟩
    by_contra quiet
    exact more (emittedBy_of_silentAt
      ⟨session, found, Bool.eq_false_of_not_eq_true quiet⟩ reached)
  · intro emitting
    have emits : ∃ event next packet, session.step
        (self.nat session.key = some id) event = some (next, [packet]) := by
      rcases (Bool.or_eq_true _ _).mp emitting with connecting | reading
      · exact ⟨.connectFailed, _, _, if_pos (of_decide_eq_true connecting)⟩
      · exact ⟨.socksClosed, _, _, if_pos reading⟩
    obtain ⟨event, next, packet, stepped⟩ := emits
    refine ⟨[.session id event], {
      self with
      sessions := self.sessions.set id next
      emitted := self.emitted ++ [(id, packet)] }, ?_, ?_⟩
    · rw [Run.run, step, found]
      simp only [stepped]
      rfl
    · intro same
      have lengths := congrArg List.length same
      simp [emittedBy] at lengths

/-! ## Runs that replace silent sessions only -/

/-- At most one session of every flow is able to emit. -/
def OneEmitting (self : TunProcessor) : Prop :=
  ∀ (id other : Nat) (session otherSession : TcpSession),
    self.sessions[id]? = some session →
    self.sessions[other]? = some otherSession →
    session.key = otherSession.key →
    session.isEmitting = true →
    otherSession.isEmitting = true →
    id = other

/-- A session that is able to emit was able to before. -/
theorem Evolution.isEmitting
    {id : Nat}
    {label : Label}
    {before after : TcpSession}
    (evolution : Evolution id label before after)
    (emitting : after.isEmitting = true) :
    before.key = after.key ∧ before.isEmitting = true := by
  cases evolution with
  | same => exact ⟨rfl, emitting⟩
  | sent payload => exact ⟨rfl, emitting⟩
  | moved moved =>
      refine ⟨moved.key.symm, ?_⟩
      by_contra quiet
      rw [(moved.silent (Bool.eq_false_of_not_eq_true quiet)).1] at emitting
      cases emitting

/-- An event that replaces silent sessions only leaves at most one session of
every flow able to emit. -/
theorem Transition.oneEmitting
    {parser : HeaderParser}
    {self next : TunProcessor}
    {label : Label}
    (transition : Transition parser self label next)
    (one : self.OneEmitting)
    (replaces : self.ReplacesSilent parser label) :
    next.OneEmitting := by
  have fresh : ∀ data segment (id : Nat) (session : TcpSession),
      label = .packet data →
      parsePacket parser data = .ok (some segment) →
      segment.Opens →
      self.nat segment.key = none →
      self.sessions[id]? = some session →
      session.isEmitting = true →
      session.key ≠ segment.key := by
    intro data segment id session packet parsed opens unknown found emitting
      same
    have quiet := (replaces data segment packet parsed).1 opens unknown id
      session found same
    rw [emitting] at quiet
    cases quiet
  intro id other session otherSession found otherFound keys emitting
    otherEmitting
  rcases transition.spawned_or_evolves found with
    ⟨data, segment, packet, parsed, opens, unknown, spawned, last, started⟩ |
      ⟨before, was, evolution⟩
  · rcases transition.spawned_or_evolves otherFound with
      ⟨-, -, -, -, -, -, -, otherLast, -⟩ | ⟨before, was, evolution⟩
    · exact last.trans otherLast.symm
    · obtain ⟨keyed, emits⟩ := evolution.isEmitting otherEmitting
      subst started
      exact absurd (keyed.trans keys.symm)
        (fresh data segment other before packet parsed opens unknown was emits)
  · obtain ⟨keyed, emits⟩ := evolution.isEmitting emitting
    rcases transition.spawned_or_evolves otherFound with
      ⟨data, segment, packet, parsed, opens, unknown, spawned, last,
        started⟩ | ⟨otherBefore, otherWas, otherEvolution⟩
    · subst started
      exact absurd (keyed.trans keys)
        (fresh data segment id before packet parsed opens unknown was emits)
    · obtain ⟨otherKeyed, otherEmits⟩ :=
        otherEvolution.isEmitting otherEmitting
      exact one id other before otherBefore was otherWas
        (keyed.trans (keys.trans otherKeyed.symm)) emits otherEmits

/-- A run that replaces silent sessions only never has two sessions of one
flow that are able to emit. -/
theorem oneEmitting_of_run
    {parser : HeaderParser}
    {labels : List Label}
    {final : TunProcessor}
    (replaces : Run.Guarded (step parser) (ReplacesSilent parser) new labels)
    (reached : Run.run (step parser) new labels = some final) :
    final.OneEmitting := by
  refine Run.invariant_of_guarded (ReplacesSilent parser) OneEmitting ?_ ?_
    replaces reached
  · intro self label next one guard stepped
    exact (transition_of_step stepped).oneEmitting one guard
  · intro id other session otherSession found
    cases found

/-- A processor in which one session of a flow at most is able to emit has at
most one endpoint for every flow. -/
theorem OneEmitting.oneEndpoint
    {self : TunProcessor}
    (one : self.OneEmitting)
    (parser : HeaderParser) :
    self.OneEndpoint parser := by
  intro id other session otherSession found otherFound keys emits otherEmits
  exact one id other session otherSession found otherFound keys
    ((canStillEmit_iff found).mp emits) ((canStillEmit_iff otherFound).mp
      otherEmits)

/-- A run that resets silent sessions only hears nothing more from them. -/
theorem resetsSilence_of_run
    {parser : HeaderParser}
    {labels : List Label}
    {final : TunProcessor}
    (replaces : Run.Guarded (step parser) (ReplacesSilent parser) new labels)
    (reached : Run.run (step parser) new labels = some final) :
    ResetsSilence parser labels final := by
  rintro before data after middle segment id rfl first parsed rst entry
  obtain ⟨guarded, -⟩ := replaces.append_right first
  obtain ⟨other, same, rest⟩ := (Run.run_append_eq_some ..).mp reached
  obtain rfl := Option.some.inj (first.symm.trans same)
  have silent := (guarded data segment rfl parsed).2 rst id entry
  exact emittedBy_of_silentAt silent rest

/-- Every flow has at most one endpoint and every reset silences the session
it closes in a run that replaces and resets silent sessions only. -/
theorem endpoints_of_run
    (parser : HeaderParser)
    (labels : List Label)
    (final : TunProcessor)
    (replaces : Run.Guarded (step parser) (ReplacesSilent parser) new labels)
    (reached : Run.run (step parser) new labels = some final) :
    final.OneEndpoint parser ∧ ResetsSilence parser labels final :=
  ⟨(oneEmitting_of_run replaces reached).oneEndpoint parser,
    resetsSilence_of_run replaces reached⟩

/-- A flow that is reset and opened again after its session has ended. -/
theorem endpoints_of_run_reset :
    ∃ final,
      Run.run (step headerFormats) new
        [.packet webSyn, .session 0 .connected, .session 0 .socksClosed,
          .packet webRst, .packet webSyn] = some final ∧
      final.OneEndpoint headerFormats ∧
      ResetsSilence headerFormats
        [.packet webSyn, .session 0 .connected, .session 0 .socksClosed,
          .packet webRst, .packet webSyn] final := by
  have events (self : TunProcessor) (event : SessionEvent) :
      self.ReplacesSilent headerFormats (.session 0 event) := by
    rintro data segment equal
    cases equal
  have guarded : ∃ final,
      Run.Guarded (step headerFormats) (ReplacesSilent headerFormats) new
        [.packet webSyn, .session 0 .connected, .session 0 .socksClosed,
          .packet webRst, .packet webSyn] ∧
      Run.run (step headerFormats) new
        [.packet webSyn, .session 0 .connected, .session 0 .socksClosed,
          .packet webRst, .packet webSyn] = some final := by
    refine Run.exists_guarded_run_cons ?_ step_webSyn ?_
    · rintro data segment equal parsed
      cases equal
      obtain rfl := Option.some.inj
        (Except.ok.inj (parsePacket_webSyn.symm.trans parsed))
      refine ⟨fun opens unknown id session found => ?_, Bool.noConfusion⟩
      cases found
    refine Run.exists_guarded_run_cons (events _ _) rfl ?_
    refine Run.exists_guarded_run_cons (events _ _) rfl ?_
    refine Run.exists_guarded_run_cons ?_
      (step_packet _ parsePacket_webRst) ?_
    · rintro data segment equal parsed
      cases equal
      obtain rfl := Option.some.inj
        (Except.ok.inj (parsePacket_webRst.symm.trans parsed))
      refine ⟨fun opens => absurd opens.rst Bool.noConfusion, ?_⟩
      intro rst id entry
      obtain rfl := Option.some.inj
        ((new.nat_spawn webSynSegment).symm.trans entry)
      exact ⟨_, rfl, rfl⟩
    refine Run.exists_guarded_run_cons ?_
      (step_packet _ parsePacket_webSyn) ⟨_, trivial, rfl⟩
    rintro data segment equal parsed
    cases equal
    obtain rfl := Option.some.inj
      (Except.ok.inj (parsePacket_webSyn.symm.trans parsed))
    refine ⟨fun opens unknown id session found keyed => ?_, Bool.noConfusion⟩
    cases id with
    | zero =>
        obtain rfl := Option.some.inj found
        rfl
    | succ id => cases found
  obtain ⟨final, guarded, reached⟩ := guarded
  exact ⟨final, reached, endpoints_of_run _ _ _ guarded reached⟩

/-- A reset session goes on emitting, and a SYN that follows the RST gives its
flow a second endpoint. -/
theorem not_endpoints_of_reset :
    (¬ ∀ parser labels final,
      Run.run (step parser) new labels = some final →
      final.OneEndpoint parser) ∧
    ¬ ∀ parser labels final,
      Run.run (step parser) new labels = some final →
      ResetsSilence parser labels final := by
  have reset : Run.run (step headerFormats) new
      [.packet webSyn, .session 0 .connected, .packet webRst] = some _ :=
    (Run.run_cons_eq_some ..).mpr ⟨_, step_webSyn,
      (Run.run_cons_eq_some ..).mpr ⟨_, rfl,
        (Run.run_cons_eq_some ..).mpr
          ⟨_, step_packet _ parsePacket_webRst, rfl⟩⟩⟩
  constructor
  · intro one
    have opened := (Run.run_append_eq_some (step headerFormats) new _
      [.packet webSyn, .session 0 .connected, .packet webRst]
      [.packet webSyn]).mpr ⟨_, reset, (Run.run_cons_eq_some ..).mpr
        ⟨_, step_packet _ parsePacket_webSyn, rfl⟩⟩
    rw [handleTcp_of_opens ⟨rfl, rfl, rfl⟩ (nat_remove _ webEnds.key)]
      at opened
    have same := one _ _ _ opened 0 1 _ _ rfl rfl rfl
      ((canStillEmit_iff rfl).mpr rfl) ((canStillEmit_iff rfl).mpr rfl)
    cases same
  · intro silence
    have emitted := (Run.run_append_eq_some (step headerFormats) new _
      [.packet webSyn, .session 0 .connected, .packet webRst]
      [.session 0 (.socksData [7])]).mpr ⟨_, reset, rfl⟩
    have same := silence _ _ _ emitted [.packet webSyn, .session 0 .connected]
      webRst [.session 0 (.socksData [7])] _ webRstSegment 0 rfl
      ((Run.run_cons_eq_some ..).mpr ⟨_, step_webSyn, rfl⟩)
      parsePacket_webRst rfl (new.nat_spawn webSynSegment)
    cases congrArg List.length same

end TunProcessor
end Tun
end GhostProtocol
