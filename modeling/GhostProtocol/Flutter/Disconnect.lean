import Mathlib.Tactic.SplitIfs
import GhostProtocol.Flutter.ProxyService

/-!
# What a completed disconnect leaves behind

Once a disconnect has completed, the service is to stay disconnected, without
timers, until it is told to connect.  A disconnect cancels the timers but not
the ticks that already await their reply, and not the connects that began
before it.  Those that come back with anything else than a disconnected status
undo the disconnect.
-/

namespace GhostProtocol
namespace Flutter

open Foundation

namespace ProxyService

/-- The service is disconnected and has no timers. -/
structure IsDisconnected (service : ProxyService) : Prop where
  status : service.state.status = .disconnected
  statusPoller : service.statusPoller = false
  sessionTimer : service.sessionTimer = false

/-- A completed disconnect is final. -/
def Finality (self : ProxyService) : Prop :=
  self.disconnected = true → self.IsDisconnected

/-- A connect publishes a status or starts the status poller. -/
inductive Announces : AwaitPoint → Reply → Prop
  | connecting {initializing} : Announces (.connectInit initializing) .done
  | denied : Announces .prepare (.granted false)
  | proxyFailed {rc} (failed : rc ≠ 0) : Announces .startRelizProxy (.code rc)
  | started : Announces .start .done
  | startFailed {rc} : Announces .undoStart (.code rc)

/-- After a disconnect has completed, no tick gets another reply than that of a
disconnected proxy, and no connect that began before publishes a status or
starts the status poller. -/
def Undisturbed (self : ProxyService) (label : Label) : Prop :=
  self.disconnected = true →
    (∀ code now, label = .status code now → mapStatus code = .disconnected) ∧
    ∀ call reply point, label = .resume call reply →
      self.calls[call]? = some point → ¬Announces point reply

/-- Neither the published state nor the timers have changed. -/
structure Unchanged (before after : ProxyService) : Prop where
  state : after.state = before.state
  statusPoller : after.statusPoller = before.statusPoller
  sessionTimer : after.sessionTimer = before.sessionTimer
  disconnected : after.disconnected = before.disconnected

/-- Nothing has changed. -/
theorem Unchanged.refl (self : ProxyService) : Unchanged self self :=
  ⟨rfl, rfl, rfl, rfl⟩

/-- Finality depends on the published state and the timers alone. -/
theorem Unchanged.finality
    {before after : ProxyService}
    (unchanged : Unchanged before after)
    (finality : before.Finality) :
    after.Finality := by
  intro disconnected
  rw [unchanged.disconnected] at disconnected
  obtain ⟨status, statusPoller, sessionTimer⟩ := finality disconnected
  exact ⟨(congrArg ProxyState.status unchanged.state).trans status,
    unchanged.statusPoller.trans statusPoller,
    unchanged.sessionTimer.trans sessionTimer⟩

/-! ## Calls that go on -/

/-- A connect that announces something is not disconnected any more. -/
theorem not_isDisconnected_of_announces
    {self next : ProxyService}
    {point after : AwaitPoint}
    {reply : Reply}
    (announces : Announces point reply)
    (resumed : self.resume point reply = some (next, after)) :
    next.disconnected = self.disconnected ∧ ¬next.IsDisconnected := by
  cases announces with
  | connecting =>
      obtain ⟨rfl, -⟩ := Prod.mk.inj (Option.some.inj resumed)
      exact ⟨rfl, fun same => VpnStatus.noConfusion same.status⟩
  | denied =>
      obtain ⟨rfl, -⟩ := Prod.mk.inj (Option.some.inj resumed)
      exact ⟨rfl, fun same => VpnStatus.noConfusion same.status⟩
  | proxyFailed failed =>
      rw [resume, if_pos failed] at resumed
      obtain ⟨rfl, -⟩ := Prod.mk.inj (Option.some.inj resumed)
      exact ⟨rfl, fun same => VpnStatus.noConfusion same.status⟩
  | started =>
      obtain ⟨rfl, -⟩ := Prod.mk.inj (Option.some.inj resumed)
      exact ⟨rfl, fun same => Bool.noConfusion same.statusPoller⟩
  | startFailed =>
      obtain ⟨rfl, -⟩ := Prod.mk.inj (Option.some.inj resumed)
      exact ⟨rfl, fun same => VpnStatus.noConfusion same.status⟩

/-- The end of a disconnect disconnects. -/
theorem isDisconnected_disconnectDone (self : ProxyService) :
    self.disconnectDone.IsDisconnected :=
  ⟨rfl, rfl, rfl⟩

/-- A call that announces nothing completes a disconnect, or changes neither
the published state nor the timers. -/
theorem unchanged_of_not_announces
    {self next : ProxyService}
    {point after : AwaitPoint}
    {reply : Reply}
    (silent : ¬Announces point reply)
    (resumed : self.resume point reply = some (next, after)) :
    next.IsDisconnected ∨ Unchanged self next := by
  cases resumed_of_resume resumed with
  | moved => exact .inr (.refl self)
  | connecting initializing => exact absurd .connecting silent
  | denied => exact absurd .denied silent
  | proxyFailed failed => exact absurd (.proxyFailed failed) silent
  | started => exact absurd .started silent
  | startFailed rc => exact absurd .startFailed silent
  | initialized initializing => exact .inr ⟨rfl, rfl, rfl, rfl⟩
  | disconnected rc => exact .inl (isDisconnected_disconnectDone self)

/-- A call that goes on stands at some await and moves to another one. -/
theorem exists_of_step_resume
    {self next : ProxyService}
    {call : Nat}
    {reply : Reply}
    (stepped : self.step (.resume call reply) = some next) :
    ∃ point changed after, self.calls[call]? = some point ∧
      self.resume point reply = some (changed, after) ∧
      next = { changed with calls := changed.calls.set call after } := by
  rw [step] at stepped
  cases found : self.calls[call]? with
  | none =>
      rw [found] at stepped
      cases stepped
  | some point =>
      rw [found] at stepped
      dsimp only at stepped
      cases resumed : self.resume point reply with
      | none =>
          rw [resumed] at stepped
          cases stepped
      | some result =>
          rw [resumed] at stepped
          exact ⟨point, result.1, result.2, rfl, resumed,
            (Option.some.inj stepped).symm⟩

/-- A call that goes on keeps finality if and only if it announces nothing
after a disconnect. -/
theorem finality_resume_iff
    {self next : ProxyService}
    {point after : AwaitPoint}
    {reply : Reply}
    (finality : self.Finality)
    (resumed : self.resume point reply = some (next, after)) :
    next.Finality ↔ (self.disconnected = true → ¬Announces point reply) := by
  constructor
  · intro kept disconnected announces
    obtain ⟨same, not⟩ := not_isDisconnected_of_announces announces resumed
    exact not (kept (same.trans disconnected))
  · intro allowed
    by_cases announces : Announces point reply
    · obtain ⟨same, -⟩ := not_isDisconnected_of_announces announces resumed
      intro disconnected
      exact absurd announces (allowed (same.symm.trans disconnected))
    · rcases unchanged_of_not_announces announces resumed with
        isDisconnected | unchanged
      · exact fun _ => isDisconnected
      · exact unchanged.finality finality

/-! ## Ticks that get their reply -/

/-- A reply publishes the status of its code. -/
theorem status_pollReply (self : ProxyService) (code now : Int) :
    (self.pollReply code now).state.status = mapStatus code := by
  simp only [pollReply]
  split_ifs <;> rfl

/-- A reply starts and completes no call. -/
theorem disconnected_pollReply (self : ProxyService) (code now : Int) :
    (self.pollReply code now).disconnected = self.disconnected := by
  simp only [pollReply]
  split_ifs <;> rfl

/-- A reply of a disconnected proxy disconnects. -/
theorem isDisconnected_pollReply
    (self : ProxyService)
    {code : Int}
    (now : Int)
    (status : mapStatus code = .disconnected) :
    (self.pollReply code now).IsDisconnected where
  status := (status_pollReply self code now).trans status
  statusPoller := by simp [pollReply, status, stopStatusPolling]
  sessionTimer := by
    simp [pollReply, status, stopStatusPolling, update, stopSessionTimer]

/-- A reply keeps finality if and only if it is that of a disconnected proxy
after a disconnect. -/
theorem finality_pollReply_iff
    (self : ProxyService)
    (code now : Int) :
    (self.pollReply code now).Finality ↔
      (self.disconnected = true → mapStatus code = .disconnected) := by
  rw [Finality, disconnected_pollReply]
  constructor
  · intro kept disconnected
    rw [← status_pollReply self code now]
    exact (kept disconnected).status
  · intro allowed disconnected
    exact isDisconnected_pollReply self now (allowed disconnected)

/-- A tick of the session timer starts and completes no call. -/
theorem disconnected_sessionTick (self : ProxyService) (now : Int) :
    (self.sessionTick now).disconnected = self.disconnected := by
  rw [sessionTick]
  cases self.connectedAt with
  | none => rfl
  | some connectedAt =>
      dsimp only
      split_ifs <;> rfl

/-- The session timer runs only while no disconnect is complete. -/
theorem Finality.of_sessionTimer
    {self : ProxyService}
    (finality : self.Finality)
    (active : self.sessionTimer = true) :
    self.disconnected = false := by
  rw [← Bool.not_eq_true]
  intro disconnected
  rw [(finality disconnected).sessionTimer] at active
  cases active

/-! ## Runs -/

/-- A step keeps finality if and only if it does not disturb a disconnect. -/
theorem finality_step_iff
    {self next : ProxyService}
    {label : Label}
    (finality : self.Finality)
    (stepped : self.step label = some next) :
    next.Finality ↔ self.Undisturbed label := by
  cases label with
  | connect =>
      obtain rfl := Option.some.inj stepped
      exact iff_of_true Bool.noConfusion fun _ => ⟨nofun, nofun⟩
  | disconnect =>
      obtain rfl := Option.some.inj stepped
      have kept : Unchanged self { self with
          calls := self.calls ++ [.disconnectInit (!self.rustInitialized)] } :=
        ⟨rfl, rfl, rfl, rfl⟩
      exact iff_of_true (kept.finality finality) fun _ => ⟨nofun, nofun⟩
  | resume call reply =>
      obtain ⟨point, changed, after, found, resumed, rfl⟩ :=
        exists_of_step_resume stepped
      have moved : Finality { changed with
            calls := changed.calls.set call after } ↔ changed.Finality :=
        ⟨Unchanged.finality ⟨rfl, rfl, rfl, rfl⟩,
          Unchanged.finality ⟨rfl, rfl, rfl, rfl⟩⟩
      rw [moved, finality_resume_iff finality resumed]
      constructor
      · intro silent disconnected
        refine ⟨nofun, fun call reply other same there => ?_⟩
        cases same
        obtain rfl := Option.some.inj (found.symm.trans there)
        exact silent disconnected
      · intro undisturbed disconnected
        exact (undisturbed disconnected).2 call reply point rfl found
  | statusTick =>
      rw [step] at stepped
      split_ifs at stepped with active
      obtain rfl := Option.some.inj stepped
      have kept : Unchanged self { self with polls := self.polls + 1 } :=
        ⟨rfl, rfl, rfl, rfl⟩
      exact iff_of_true (kept.finality finality) fun _ => ⟨nofun, nofun⟩
  | status code now =>
      rw [step] at stepped
      split_ifs at stepped with waiting
      obtain rfl := Option.some.inj stepped
      rw [finality_pollReply_iff]
      constructor
      · intro allowed disconnected
        refine ⟨fun other time same => ?_, nofun⟩
        cases same
        exact allowed disconnected
      · intro undisturbed disconnected
        exact (undisturbed disconnected).1 code now rfl
  | statusFails =>
      rw [step] at stepped
      split_ifs at stepped with waiting
      obtain rfl := Option.some.inj stepped
      have kept : Unchanged self { self with polls := self.polls - 1 } :=
        ⟨rfl, rfl, rfl, rfl⟩
      exact iff_of_true (kept.finality finality) fun _ => ⟨nofun, nofun⟩
  | sessionTick now =>
      rw [step] at stepped
      split_ifs at stepped with active
      obtain rfl := Option.some.inj stepped
      rw [Finality, disconnected_sessionTick, finality.of_sessionTimer active]
      exact iff_of_true nofun fun _ => ⟨nofun, nofun⟩

/-- A completed disconnect stays final along a run if and only if no step of it
disturbs a disconnect. -/
theorem finality_iff_undisturbed
    (rustInitialized : Bool)
    {labels : List Label}
    {last : ProxyService}
    (reached : Run.run step (new rustInitialized) labels = some last) :
    Run.Always step Finality (new rustInitialized) labels ↔
      Run.Guarded step Undisturbed (new rustInitialized) labels :=
  Run.always_iff_guarded
    (fun _ _ _ finality stepped => finality_step_iff finality stepped)
    nofun reached

/-- A connection is made, the status poller asks for the status, a disconnect
completes, and then the poller learns that the proxy was connected. -/
def lateReply : List Label :=
  [.connect, .resume 0 .done, .resume 0 (.granted true), .resume 0 (.code 0),
    .resume 0 .done, .statusTick, .disconnect, .resume 1 .done,
    .resume 1 .done, .resume 1 (.code 0), .status 2 0]

/-- What becomes of the disconnect depends on the late reply. -/
theorem finality_iff_undisturbed_lateReply :
    Run.Always step Finality (new false) lateReply ↔
      Run.Guarded step Undisturbed (new false) lateReply :=
  finality_iff_undisturbed false (show Run.run step _ lateReply = some _ from rfl)

/-- After a late reply the service is connected again. -/
theorem not_finality :
    ¬∀ rustInitialized labels service,
      Run.run step (new rustInitialized) labels = some service →
        service.Finality := by
  intro finality
  have disconnected := finality false lateReply _ rfl rfl
  cases disconnected.status

end ProxyService
end Flutter
end GhostProtocol
