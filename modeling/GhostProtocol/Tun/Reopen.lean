import GhostProtocol.Tun.Headers
import GhostProtocol.Tun.Processor

/-!
# Reopening a flow

A SYN starts a session only when the table has no entry for its flow.  The
entry is removed by the client's FIN or RST, not by the end of the session, so
a flow can be reopened in every state of a run exactly if no entry outlives the
last running session of its flow.
-/

namespace GhostProtocol
namespace Tun

open Foundation Common

namespace TunProcessor

/-- The session at a position is a running session of a flow. -/
def RunsAt (self : TunProcessor) (key : FlowKey) (id : Nat) : Prop :=
  ∃ session, self.sessions[id]? = some session ∧ session.key = key ∧
    session.phase ≠ .ended

/-- Some session of the flow is running. -/
def IsRunning (self : TunProcessor) (key : FlowKey) : Prop :=
  ∃ id, self.RunsAt key id

/-- A SYN of a flow without a running session starts a new session for that
flow. -/
def Reopens (parser : HeaderParser) (self : TunProcessor) : Prop :=
  ∀ data segment,
    parsePacket parser data = .ok (some segment) →
    segment.Opens →
    ¬self.IsRunning segment.key →
    ∃ next, self.step parser (.packet data) = some next ∧
      next.sessions = self.sessions ++
        [.new segment.key segment.sequenceNumber segment.target] ∧
      next.nat segment.key = some self.sessions.length

/-- Every flow with a table entry has a running session. -/
def EntriesRun (self : TunProcessor) : Prop :=
  ∀ key id, self.nat key = some id → self.IsRunning key

/-- Every flow with a table entry is one that some packet opens. -/
def EntriesOpenable (parser : HeaderParser) (self : TunProcessor) : Prop :=
  ∀ key id, self.nat key = some id →
    ∃ data segment,
      parsePacket parser data = .ok (some segment) ∧
      segment.Opens ∧
      segment.key = key

/-- The end of a session leaves its flow without a table entry or with another
running session. -/
def EndsDetached (self : TunProcessor) (label : Label) : Prop :=
  ∀ id event session,
    label = .session id event →
    event = .connectFailed ∨ event = .finish →
    self.sessions[id]? = some session →
    self.nat session.key = none ∨
      ∃ other, other ≠ id ∧ self.RunsAt session.key other

/-- A state whose entries all have running sessions lets every flow be
reopened. -/
theorem EntriesRun.reopens
    {self : TunProcessor}
    (entriesRun : self.EntriesRun)
    (parser : HeaderParser) :
    self.Reopens parser := by
  intro data segment parsed opens idle
  have entry : self.nat segment.key = none := by
    cases known : self.nat segment.key with
    | none => rfl
    | some id => exact absurd (entriesRun segment.key id known) idle
  refine ⟨self.spawn segment, ?_, rfl, self.nat_spawn segment⟩
  rw [step_packet self parsed, handleTcp_of_opens opens entry]

/-- A state lets every flow be reopened if and only if its entries all have
running sessions. -/
theorem reopens_iff_entriesRun
    {parser : HeaderParser}
    {self : TunProcessor}
    (openable : self.EntriesOpenable parser) :
    self.Reopens parser ↔ self.EntriesRun := by
  constructor
  · intro reopens key id entry
    by_contra idle
    obtain ⟨data, segment, parsed, opens, rfl⟩ := openable key id entry
    -- The packet that opens the flow is dropped, so no session is added.
    obtain ⟨next, stepped, sessions, -⟩ :=
      reopens data segment parsed opens idle
    rw [step_packet self parsed, handleTcp_of_known opens entry] at stepped
    obtain rfl := Option.some.inj stepped
    exact absurd (congrArg List.length sessions) (by simp)
  · exact fun entriesRun => entriesRun.reopens parser

/-- An event keeps a packet that opens behind every entry. -/
theorem Transition.entriesOpenable
    {parser : HeaderParser}
    {self next : TunProcessor}
    {label : Label}
    (transition : Transition parser self label next)
    (openable : self.EntriesOpenable parser) :
    next.EntriesOpenable parser := by
  intro key id entry
  rcases transition.spawned_or_entry entry with
    ⟨data, segment, -, parsed, opens, keyed, -⟩ | known
  · exact ⟨data, segment, parsed, opens, keyed⟩
  · exact openable key id known

/-- One event that ends no session keeps a session running. -/
theorem Transition.runsAt
    {parser : HeaderParser}
    {self next : TunProcessor}
    {label : Label}
    {key : FlowKey}
    {id : Nat}
    (transition : Transition parser self label next)
    (running : self.RunsAt key id)
    (goesOn : label ≠ .session id .connectFailed ∧
      label ≠ .session id .finish) :
    next.RunsAt key id := by
  obtain ⟨before, found, keyed, phase⟩ := running
  obtain ⟨after, there, evolution⟩ := transition.evolves found
  refine ⟨after, there, ?_⟩
  cases evolution with
  | same => exact ⟨keyed, phase⟩
  | sent payload => exact ⟨keyed, phase⟩
  | moved moved =>
      refine ⟨moved.key.trans keyed, moved.running phase ⟨?_, ?_⟩⟩
      · rintro rfl
        exact goesOn.1 rfl
      · rintro rfl
        exact goesOn.2 rfl

/-- A session that has just been spawned is running. -/
theorem runsAt_spawn
    (self : TunProcessor)
    (segment : Segment) :
    (self.spawn segment).RunsAt segment.key self.sessions.length :=
  ⟨_, List.getElem?_concat_length, rfl, Phase.noConfusion⟩

/-- An event keeps a running session behind every entry unless it ends the
last running session of a flow with an entry. -/
theorem Transition.entriesRun
    {parser : HeaderParser}
    {self next : TunProcessor}
    {label : Label}
    (transition : Transition parser self label next)
    (entriesRun : self.EntriesRun)
    (ends : self.EndsDetached label) :
    next.EntriesRun := by
  intro key id entry
  rcases transition.spawned_or_entry entry with
    ⟨data, segment, -, -, -, keyed, unknown, spawned, position⟩ | known
  · subst keyed spawned
    exact ⟨self.sessions.length, self.runsAt_spawn segment⟩
  obtain ⟨running, runs⟩ := entriesRun key id known
  by_cases goesOn : label ≠ .session running .connectFailed ∧
      label ≠ .session running .finish
  · exact ⟨running, transition.runsAt runs goesOn⟩
  have ending : ∃ event, label = .session running event ∧
      (event = .connectFailed ∨ event = .finish) := by
    rcases not_and_or.mp goesOn with failed | finished
    · exact ⟨_, not_not.mp failed, .inl rfl⟩
    · exact ⟨_, not_not.mp finished, .inr rfl⟩
  obtain ⟨event, rfl, isEnd⟩ := ending
  obtain ⟨session, found, rfl, -⟩ := runs
  rcases ends running event session rfl isEnd found with
    unknown | ⟨other, different, otherRuns⟩
  · rw [unknown] at known
    cases known
  · refine ⟨other, transition.runsAt otherRuns ⟨?_, ?_⟩⟩
    · rintro equal
      cases equal
      exact different rfl
    · rintro equal
      cases equal
      exact different rfl

/-- An event after which every entry has a running session ends no last running
session of a flow with an entry. -/
theorem Transition.endsDetached
    {parser : HeaderParser}
    {self next : TunProcessor}
    {label : Label}
    (transition : Transition parser self label next)
    (entriesRun : next.EntriesRun) :
    self.EndsDetached label := by
  intro id event session equal isEnd found
  cases transition with
  | @session target before happened changed packets there moved =>
      cases equal
      obtain rfl := Option.some.inj (there.symm.trans found)
      rw [or_iff_not_imp_left]
      intro known
      obtain ⟨entry, isEntry⟩ := Option.ne_none_iff_exists'.mp known
      obtain ⟨other, running, last, keyed, phase⟩ :=
        entriesRun before.key entry isEntry
      have different : other ≠ id := by
        rintro rfl
        obtain ⟨inside, -⟩ := List.getElem?_eq_some_iff.mp found
        obtain rfl := Option.some.inj
          ((List.getElem?_set_self inside).symm.trans last)
        exact phase (moved.ended isEnd)
      refine ⟨other, different, running, ?_, keyed, phase⟩
      rwa [List.getElem?_set_ne (Ne.symm different)] at last
  | _ => cases equal

/-- Every flow can be reopened in every state of a run if and only if the last
running session of a flow ends in it only once the flow has no table entry. -/
theorem reopens_iff_endsDetached
    (parser : HeaderParser)
    {labels : List Label}
    {final : TunProcessor}
    (reached : Run.run (step parser) new labels = some final) :
    Run.Always (step parser) (Reopens parser) new labels ↔
      Run.Guarded (step parser) EndsDetached new labels := by
  refine Run.always_iff_guarded_of_invariant (EntriesOpenable parser) ?_ ?_ ?_
    (EntriesRun.reopens ?_ parser) reached
  · intro self label next openable stepped
    exact (transition_of_step stepped).entriesOpenable openable
  · intro self label next openable reopens stepped
    have transition := transition_of_step stepped
    have entriesRun := (reopens_iff_entriesRun openable).mp reopens
    rw [reopens_iff_entriesRun (transition.entriesOpenable openable)]
    exact ⟨transition.endsDetached, transition.entriesRun entriesRun⟩
  · intro key id entry
    cases entry
  · intro key id entry
    cases entry

/-- A flow that the client resets before its session ends can be reopened all
the time. -/
theorem reopens_iff_endsDetached_reset :
    Run.Always (step headerFormats) (Reopens headerFormats) new
      [.packet webSyn, .session 0 .connected, .packet webRst,
        .session 0 .socksClosed, .session 0 .finish] := by
  have goesOn (self : TunProcessor) (event : SessionEvent)
      (notEnd : ¬(event = .connectFailed ∨ event = .finish)) :
      self.EndsDetached (.session 0 event) := by
    rintro id other session equal isEnd
    cases equal
    exact absurd isEnd notEnd
  have packets (self : TunProcessor) (data : Bytes) :
      self.EndsDetached (.packet data) := by
    rintro id other session equal
    cases equal
  have guarded : ∃ final, Run.Guarded (step headerFormats) EndsDetached new
      [.packet webSyn, .session 0 .connected, .packet webRst,
        .session 0 .socksClosed, .session 0 .finish] ∧
      Run.run (step headerFormats) new
        [.packet webSyn, .session 0 .connected, .packet webRst,
          .session 0 .socksClosed, .session 0 .finish] = some final := by
    refine Run.exists_guarded_run_cons (packets _ _) step_webSyn ?_
    refine Run.exists_guarded_run_cons (goesOn _ _ (by simp)) rfl ?_
    refine Run.exists_guarded_run_cons (packets _ _)
      (step_packet _ parsePacket_webRst) ?_
    refine Run.exists_guarded_run_cons (goesOn _ _ (by simp)) rfl ?_
    refine Run.exists_guarded_run_cons ?_ rfl ⟨_, trivial, rfl⟩
    rintro id other session equal isEnd found
    cases equal
    obtain rfl := Option.some.inj found
    left
    exact nat_remove (new.spawn webSynSegment) webEnds.key
  obtain ⟨final, guarded, reached⟩ := guarded
  exact (reopens_iff_endsDetached _ reached).mpr guarded

/-- A flow whose connection has failed stays in the table: its next SYN is
dropped. -/
theorem not_reopens_of_connectFailed :
    ¬ ∀ parser labels final,
      Run.run (step parser) new labels = some final →
      final.Reopens parser := by
  intro reopens
  have opens : webSynSegment.Opens := ⟨rfl, rfl, rfl⟩
  have reached : Run.run (step headerFormats) new
      [.packet webSyn, .session 0 .connectFailed] = some _ :=
    (Run.run_cons_eq_some ..).mpr ⟨_, step_webSyn, rfl⟩
  have again := reopens _ _ _ reached webSyn webSynSegment parsePacket_webSyn
    opens
  rw [step_packet _ parsePacket_webSyn, handleTcp_of_known opens
    (Function.update_self webEnds.key (some 0) new.nat)] at again
  obtain ⟨next, stepped, sessions, -⟩ := again (by
    rintro ⟨id, session, found, keyed, phase⟩
    cases id with
    | zero =>
        obtain rfl := Option.some.inj found
        exact phase rfl
    | succ id => cases found)
  obtain rfl := Option.some.inj stepped
  cases congrArg List.length sessions

end TunProcessor
end Tun
end GhostProtocol
