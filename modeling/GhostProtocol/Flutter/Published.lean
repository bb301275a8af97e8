import GhostProtocol.Flutter.Disconnect

/-!
# What the service publishes

Calls, status replies and ticks of the session timer come in any order.  In
every state that they lead to, the published text is the one of the published
status, a connection is shown only if the last status reply was that of a
connected proxy, and then the session timer runs.  The connection time is the
one between such a reply and a later tick.
-/

namespace GhostProtocol
namespace Flutter

open Foundation

namespace ProxyService

/-- The texts that are published with a status: its own one, and for an error
the reason why a connect has failed. -/
inductive Describes : VpnStatus → String → Prop
  | own (status : VpnStatus) : Describes status (statusText status)
  | denied : Describes .error "VPN permission denied"
  | proxyFailed {rc : Int} (failed : rc ≠ 0) :
      Describes .error ("Proxy error (code " ++ toString rc ++ ")")
  | startFailed : Describes .error "VPN start failed"

/-- The code of a status reply. -/
def replyOf : Label → Option Int
  | .status code _ => some code
  | _ => none

/-- The code of the last status reply. -/
def lastReply (labels : List Label) : Option Int :=
  (labels.filterMap replyOf).getLast?

/-- The clock shows the time from a reply of a connected proxy to a later tick
of the session timer. -/
def Elapsed (labels : List Label) (time : Int) : Prop :=
  ∃ before after connectedAt now,
    labels = before ++ .sessionTick now :: after ∧
      .status 2 connectedAt ∈ before ∧ time = now - connectedAt

/-- What holds of the published state and the timers after some events. -/
structure Published (labels : List Label) (service : ProxyService) : Prop where
  text : Describes service.state.status service.state.statusText
  counters : service.state.bytesIn = 0 ∧ service.state.bytesOut = 0
  timer : service.sessionTimer = service.connectedAt.isSome
  connected : service.state.status = .connected →
    lastReply labels = some 2 ∧ service.sessionTimer = true
  connectedAt : ∀ since, service.connectedAt = some since →
    .status 2 since ∈ labels
  elapsed : ∀ time, service.state.connectionTime = some time →
    Elapsed labels time

/-! ## What a call that goes on publishes -/

/-- What a call that goes on does to the published state: nothing, a status
besides that of a connection, or the end of a disconnect. -/
inductive Publishes (self next : ProxyService) : Prop
  | nothing
      (state : next.state = self.state)
      (sessionTimer : next.sessionTimer = self.sessionTimer)
      (connectedAt : next.connectedAt = self.connectedAt)
  | status
      (other : next.state.status ≠ .connected)
      (text : Describes next.state.status next.state.statusText)
      (counters : self.state.bytesIn = 0 ∧ self.state.bytesOut = 0 →
        next.state.bytesIn = 0 ∧ next.state.bytesOut = 0)
      (connectionTime : next.state.connectionTime = self.state.connectionTime ∨
        next.state.connectionTime = none)
      (sessionTimer : next.sessionTimer = self.sessionTimer)
      (connectedAt : next.connectedAt = self.connectedAt)
  | disconnected
      (state : next.state = {})
      (sessionTimer : next.sessionTimer = false)
      (connectedAt : next.connectedAt = none)

/-- What a call can publish. -/
theorem publishes_of_resume
    {self next : ProxyService}
    {point after : AwaitPoint}
    {reply : Reply}
    (resumed : self.resume point reply = some (next, after)) :
    Publishes self next := by
  cases resumed_of_resume resumed with
  | moved => exact .nothing rfl rfl rfl
  | connecting initializing =>
      exact .status VpnStatus.noConfusion (.own .connecting) id (.inl rfl)
        rfl rfl
  | denied =>
      exact .status VpnStatus.noConfusion .denied (fun _ => ⟨rfl, rfl⟩)
        (.inr rfl) rfl rfl
  | proxyFailed failed =>
      exact .status VpnStatus.noConfusion (.proxyFailed failed) id (.inl rfl)
        rfl rfl
  | started => exact .nothing rfl rfl rfl
  | startFailed rc =>
      exact .status VpnStatus.noConfusion .startFailed id (.inl rfl) rfl rfl
  | initialized initializing => exact .nothing rfl rfl rfl
  | disconnected rc => exact .disconnected rfl rfl rfl

/-! ## What an event keeps -/

/-- The clock goes on to show what it shows. -/
theorem Elapsed.append
    {labels : List Label}
    {time : Int}
    (elapsed : Elapsed labels time)
    (label : Label) : Elapsed (labels ++ [label]) time := by
  obtain ⟨before, after, connectedAt, now, rfl, connected, shown⟩ := elapsed
  exact ⟨before, after ++ [label], connectedAt, now, by simp, connected, shown⟩

/-- An event that is no reply leaves the last reply. -/
theorem lastReply_append
    (labels : List Label)
    {label : Label}
    (noReply : replyOf label = none) :
    lastReply (labels ++ [label]) = lastReply labels := by
  rw [lastReply, lastReply, List.filterMap_append, List.filterMap_cons, noReply,
    List.filterMap_nil, List.append_nil]

/-- What is published stays so through an event that is no reply and changes
neither the published state nor the session timer. -/
theorem Published.same
    {labels : List Label}
    {self next : ProxyService}
    (published : Published labels self)
    {label : Label}
    (noReply : replyOf label = none)
    (state : next.state = self.state)
    (sessionTimer : next.sessionTimer = self.sessionTimer)
    (connectedAt : next.connectedAt = self.connectedAt) :
    Published (labels ++ [label]) next where
  text := state ▸ published.text
  counters := state ▸ published.counters
  timer := by rw [sessionTimer, connectedAt, published.timer]
  connected shown := by
    rw [lastReply_append labels noReply, sessionTimer]
    exact published.connected (state ▸ shown)
  connectedAt since isSince := List.mem_append_left _
    (published.connectedAt since (connectedAt ▸ isSince))
  elapsed time shown := (published.elapsed time (state ▸ shown)).append label

/-- A call that goes on keeps what is published consistent. -/
theorem Published.of_publishes
    {labels : List Label}
    {self next : ProxyService}
    (published : Published labels self)
    {label : Label}
    (noReply : replyOf label = none)
    (publishes : Publishes self next) :
    Published (labels ++ [label]) next := by
  cases publishes with
  | nothing state sessionTimer connectedAt =>
      exact published.same noReply state sessionTimer connectedAt
  | status other text counters connectionTime sessionTimer connectedAt =>
      exact {
        text
        counters := counters published.counters
        timer := by rw [sessionTimer, connectedAt, published.timer]
        connected := fun shown => absurd shown other
        connectedAt := fun since isSince => List.mem_append_left _
          (published.connectedAt since (connectedAt ▸ isSince))
        elapsed := fun time shown => by
          rcases connectionTime with kept | none
          · exact (published.elapsed time (kept ▸ shown)).append label
          · rw [none] at shown
            cases shown }
  | disconnected state sessionTimer connectedAt =>
      exact {
        text := state ▸ .own .disconnected
        counters := state ▸ ⟨rfl, rfl⟩
        timer := by rw [sessionTimer, connectedAt]; rfl
        connected := fun shown => by
          rw [state] at shown
          cases shown
        connectedAt := fun since isSince => by
          rw [connectedAt] at isSince
          cases isSince
        elapsed := fun time shown => by
          rw [state] at shown
          cases shown }

/-- The code of a connected proxy is two. -/
theorem eq_two_of_mapStatus
    {code : Int}
    (connected : mapStatus code = .connected) : code = 2 := by
  unfold mapStatus at connected
  split_ifs at connected with _ two
  exact two

/-- A reply publishes its status with its own text, and leaves the rest. -/
theorem state_pollReply (self : ProxyService) (code now : Int) :
    (self.pollReply code now).state =
      { self.state with
        status := mapStatus code
        statusText := statusText (mapStatus code) } := by
  simp only [pollReply]
  split_ifs <;> rfl

/-- What a reply does to the session timer: it starts it for a new connection,
leaves it for an old one, and stops it otherwise. -/
theorem timer_pollReply (self : ProxyService) (code now : Int) :
    ((self.pollReply code now).sessionTimer,
        (self.pollReply code now).connectedAt) =
      if mapStatus code = .connected then
        if self.state.status = .connected then
          (self.sessionTimer, self.connectedAt)
        else (true, some now)
      else (false, none) := by
  by_cases connected : mapStatus code = .connected
  · by_cases already : self.state.status = .connected
    · simp [pollReply, connected, already, update]
    · simp [pollReply, connected, already, update, startSessionTimer]
  · simp only [pollReply, connected, false_and, if_false, ne_eq,
      not_false_eq_true, if_true]
    split_ifs <;> rfl

/-- A reply keeps what is published consistent. -/
theorem Published.pollReply
    {labels : List Label}
    {self : ProxyService}
    (published : Published labels self)
    (code now : Int) :
    Published (labels ++ [.status code now]) (self.pollReply code now) := by
  have last : lastReply (labels ++ [.status code now]) = some code := by
    simp [lastReply, replyOf]
  have state := state_pollReply self code now
  have timers := timer_pollReply self code now
  have earlier : ∀ since, self.connectedAt = some since →
      .status 2 since ∈ labels ++ [.status code now] :=
    fun since isSince => List.mem_append_left _
      (published.connectedAt since isSince)
  constructor
  · rw [state]
    exact .own (mapStatus code)
  · rw [state]
    exact published.counters
  · split_ifs at timers with connected already
    · obtain ⟨timer, connectedAt⟩ := Prod.mk.inj timers
      rw [timer, connectedAt, published.timer]
    · obtain ⟨timer, connectedAt⟩ := Prod.mk.inj timers
      rw [timer, connectedAt]
      rfl
    · obtain ⟨timer, connectedAt⟩ := Prod.mk.inj timers
      rw [timer, connectedAt]
      rfl
  · intro shown
    rw [state] at shown
    have connected : mapStatus code = .connected := shown
    rw [if_pos connected] at timers
    refine ⟨last.trans (congrArg some (eq_two_of_mapStatus connected)), ?_⟩
    split_ifs at timers with already
    · rw [(Prod.mk.inj timers).1]
      exact (published.connected already).2
    · exact (Prod.mk.inj timers).1
  · intro since isSince
    split_ifs at timers with connected already
    · rw [(Prod.mk.inj timers).2] at isSince
      exact earlier since isSince
    · rw [(Prod.mk.inj timers).2] at isSince
      rw [Option.some.inj isSince, eq_two_of_mapStatus connected]
      exact List.mem_append_right _ (List.mem_singleton.mpr rfl)
    · rw [(Prod.mk.inj timers).2] at isSince
      cases isSince
  · intro time shown
    rw [state] at shown
    exact (published.elapsed time shown).append _

/-- A tick of the session timer keeps what is published consistent. -/
theorem Published.sessionTick
    {labels : List Label}
    {self : ProxyService}
    (published : Published labels self)
    (now : Int) :
    Published (labels ++ [.sessionTick now]) (self.sessionTick now) := by
  have idle : Published (labels ++ [.sessionTick now]) self :=
    published.same rfl rfl rfl rfl
  unfold ProxyService.sessionTick
  cases since : self.connectedAt with
  | none => exact idle
  | some connectedAt =>
      dsimp only
      split_ifs
      · refine ⟨idle.text, idle.counters, idle.timer, idle.connected,
          idle.connectedAt, fun time shown => ?_⟩
        exact ⟨labels, [], connectedAt, now, rfl,
          published.connectedAt connectedAt since, (Option.some.inj shown).symm⟩
      · exact idle

/-- Every event keeps what is published consistent. -/
theorem Published.step
    {labels : List Label}
    {self next : ProxyService}
    {label : Label}
    (published : Published labels self)
    (stepped : ProxyService.step self label = some next) :
    Published (labels ++ [label]) next := by
  cases label with
  | connect =>
      obtain rfl := Option.some.inj stepped
      exact published.same rfl rfl rfl rfl
  | disconnect =>
      obtain rfl := Option.some.inj stepped
      exact published.same rfl rfl rfl rfl
  | resume call reply =>
      obtain ⟨point, changed, after, -, resumed, rfl⟩ :=
        exists_of_step_resume stepped
      have kept : Published (labels ++ [.resume call reply]) changed :=
        published.of_publishes rfl (publishes_of_resume resumed)
      exact ⟨kept.text, kept.counters, kept.timer, kept.connected,
        kept.connectedAt, kept.elapsed⟩
  | statusTick =>
      rw [ProxyService.step] at stepped
      split_ifs at stepped
      obtain rfl := Option.some.inj stepped
      exact published.same rfl rfl rfl rfl
  | status code now =>
      rw [ProxyService.step] at stepped
      split_ifs at stepped
      obtain rfl := Option.some.inj stepped
      have asked : Published labels { self with polls := self.polls - 1 } :=
        ⟨published.text, published.counters, published.timer,
          published.connected, published.connectedAt, published.elapsed⟩
      exact asked.pollReply code now
  | statusFails =>
      rw [ProxyService.step] at stepped
      split_ifs at stepped
      obtain rfl := Option.some.inj stepped
      exact published.same rfl rfl rfl rfl
  | sessionTick now =>
      rw [ProxyService.step] at stepped
      split_ifs at stepped
      obtain rfl := Option.some.inj stepped
      exact published.sessionTick now

/-- What a new service publishes is consistent. -/
theorem published_new (rustInitialized : Bool) :
    Published [] (new rustInitialized) where
  text := .own .disconnected
  counters := ⟨rfl, rfl⟩
  timer := rfl
  connected := VpnStatus.noConfusion
  connectedAt since isSince := by cases isSince
  elapsed time shown := by cases shown

/-- In every run of the service, what it publishes is consistent. -/
theorem published_of_run
    {rustInitialized : Bool}
    {labels : List Label}
    {final : ProxyService}
    (reached : Run.run step (new rustInitialized) labels = some final) :
    Published labels final := by
  refine Run.history_of_run Published ?_ (published_new rustInitialized) reached
  intro labels self label next published stepped
  exact published.step stepped

/-- A connect whose first reply is that of a connected proxy, with a tick of the
session timer. -/
def connectedRun : List Label :=
  [.connect, .resume 0 .done, .resume 0 (.granted true), .resume 0 (.code 0),
    .resume 0 .done, .statusTick, .status 2 10, .sessionTick 25]

/-- The clock of that connect shows the time since the reply. -/
theorem published_of_run_connected :
    ∃ final, Run.run step (new true) connectedRun = some final ∧
      final.state.connectionTime = some 15 ∧
      Published connectedRun final :=
  ⟨_, rfl, rfl, published_of_run
    (show Run.run step (new true) connectedRun = some _ from rfl)⟩

end ProxyService
end Flutter
end GhostProtocol
