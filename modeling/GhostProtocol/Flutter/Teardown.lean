import GhostProtocol.Flutter.System

/-!
# Teardown

A stop aborts the one task whose handle it takes.  It therefore leaves nothing
running exactly when nothing else was: no connection is open, no handle has been
lost, and the aborted task spawns nothing before its abort takes effect.  The
calls for the TUN device are made one after the other.  Those for the proxy may
overlap.
-/

namespace GhostProtocol
namespace Flutter

open Foundation

/-- Every abort has taken effect. -/
structure System.Settled (system : System) : Prop where
  proxy : ∀ task ∈ system.bridge.tasks, task.aborted = true →
    task.point = .ended
  tun : ∀ task ∈ system.tunTasks, task.aborted = true → task.ended = true

/-- The first accept loops, and the tasks of their connections, have ended. -/
structure System.ProxyDown (system : System) (count : Nat) : Prop where
  tasks : ∀ (id : Nat) (task : ProxyTask), id < count →
    system.bridge.tasks[id]? = some task → task.point = .ended
  tunnels : ∀ tunnel ∈ system.tunnels, tunnel.acceptor < count →
    tunnel.ended = true

/-- The tasks that descend from the first processors have ended. -/
def System.TunDown (system : System) (count : Nat) : Prop :=
  ∀ task ∈ system.tunTasks, task.root < count → task.ended = true

/-- A call takes the handle of the accept loop and aborts it. -/
def System.StopsProxy (system : System) (label : SystemLabel) : Prop :=
  ∃ (call : Nat) (failed : Bool), label = .proxy (.advance call) ∧
    system.bridge.calls[call]? = some (.abortTask failed)

/-- Of the accept loops and the tasks of their connections only the one whose
handle is stored, and aborted ones, have not ended. -/
structure System.ProxyAlone (system : System) : Prop where
  tasks : ∀ (id : Nat) (task : ProxyTask),
    system.bridge.tasks[id]? = some task →
    task.point = .ended ∨ task.aborted = true ∨ system.bridge.slot = some id
  tunnels : ∀ tunnel ∈ system.tunnels, tunnel.ended = true

/-- Of the tasks behind TUN devices only the one whose handle is stored, and
aborted ones, have not ended. -/
def System.TunAlone (system : System) : Prop :=
  ∀ (id : Nat) (task : TunTask), system.tunTasks[id]? = some task →
    task.ended = true ∨ task.aborted = true ∨ system.tunSlot = some id

/-- A stop finds no task besides the one it aborts, and an aborted task spawns
nothing. -/
structure Complete (system : System) (label : SystemLabel) : Prop where
  stopsProxy : system.StopsProxy label → system.ProxyAlone
  stopsTun : label = .stopTun → system.TunAlone
  accepts : ∀ acceptor task, label = .accept acceptor →
    system.bridge.tasks[acceptor]? = some task → task.aborted = false
  spawns : ∀ (id : Nat) (task : TunTask), label.spawns = true →
    label.tunTask = some id → system.tunTasks[id]? = some task →
    task.aborted = false

/-! ## Accept loops -/

/-- Tasks come and go on: an ended task stays ended, and an aborted one
aborted. -/
structure TasksEvolve (before after : List ProxyTask) : Prop where
  length : before.length ≤ after.length
  tasks : ∀ (id : Nat) (task : ProxyTask), after[id]? = some task →
    id < before.length → ∃ old, before[id]? = some old ∧
      (old.point = .ended → task.point = .ended) ∧
      (old.aborted = true → task.aborted = true)

/-- Tasks that stay as they are. -/
theorem TasksEvolve.refl (tasks : List ProxyTask) :
    TasksEvolve tasks tasks where
  length := Nat.le_refl _
  tasks _ task isTask _ := ⟨task, isTask, fun same => same, fun same => same⟩

/-- A task that goes on. -/
theorem TasksEvolve.set
    {tasks : List ProxyTask}
    {id : Nat}
    {task changed : ProxyTask}
    (isTask : tasks[id]? = some task)
    (ended : task.point = .ended → changed.point = .ended)
    (aborted : task.aborted = true → changed.aborted = true) :
    TasksEvolve tasks (tasks.set id changed) where
  length := Nat.le_of_eq List.length_set.symm
  tasks other second found _ := by
    rcases Table.found_of_set found with ⟨rfl, rfl⟩ | ⟨-, wasFound⟩
    · exact ⟨task, isTask, ended, aborted⟩
    · exact ⟨second, wasFound, fun same => same, fun same => same⟩

/-- A task that is spawned. -/
theorem TasksEvolve.append (tasks spawned : List ProxyTask) :
    TasksEvolve tasks (tasks ++ spawned) where
  length := by
    rw [List.length_append]
    omega
  tasks id task found early := by
    rw [List.getElem?_append_left early] at found
    exact ⟨task, found, fun same => same, fun same => same⟩

/-- The task of the slot is aborted. -/
theorem TasksEvolve.abortSlot (bridge : Bridge) :
    TasksEvolve bridge.tasks bridge.abortSlot.tasks where
  length := by
    unfold Bridge.abortSlot
    cases bridge.slot with
    | none => exact Nat.le_refl _
    | some id => exact Nat.le_of_eq (List.length_modify _ bridge.tasks id).symm
  tasks id task found _ := by
    obtain ⟨before, isTask, ⟨-, rfl⟩ | ⟨-, rfl⟩⟩ := tasks_abortSlot found
    · exact ⟨before, isTask, fun same => same, fun _ => rfl⟩
    · exact ⟨task, isTask, fun same => same, fun same => same⟩

/-- Every step of the bridge lets the tasks evolve. -/
theorem Transition.tasksEvolve
    {bridge next : Bridge}
    {label : Label}
    (transition : Transition bridge label next) :
    TasksEvolve bridge.tasks next.tasks := by
  cases transition with
  | spawned reached => exact .append _ _
  | aborted reached => exact .abortSlot bridge
  | taskStarts isTask point =>
      exact .set isTask (by simp [point]) fun same => same
  | taskReady isTask point =>
      exact .set isTask (by simp [point]) fun same => same
  | taskErrs isTask point =>
      exact .set isTask (by simp [point]) fun same => same
  | taskEnds isTask point =>
      exact .set isTask (fun _ => rfl) fun same => same
  | bound isTask point free =>
      exact .set isTask (by simp [point]) fun same => same
  | refused isTask point =>
      exact .set isTask (by simp [point]) fun same => same
  | acceptFails isTask point =>
      exact .set isTask (by simp [point]) fun same => same
  | cancelled isTask isAborted awaits =>
      exact .set isTask (fun _ => rfl) fun same => same
  | _ => exact .refl _

/-- The first accept loops have ended or are about to, and the tasks of their
connections have ended. -/
structure ProxyDoomed (count : Nat) (system : System) : Prop where
  within : count ≤ system.bridge.tasks.length
  tasks : ∀ (id : Nat) (task : ProxyTask), id < count →
    system.bridge.tasks[id]? = some task →
    task.point = .ended ∨ task.aborted = true
  tunnels : ∀ tunnel ∈ system.tunnels, tunnel.acceptor < count →
    tunnel.ended = true

/-- Once aborts have taken effect they have ended. -/
theorem ProxyDoomed.down
    {count : Nat}
    {system : System}
    (doomed : ProxyDoomed count system)
    (settled : system.Settled) :
    system.ProxyDown count where
  tasks id task early isTask := by
    rcases doomed.tasks id task early isTask with ended | aborted
    · exact ended
    · exact settled.proxy task (List.mem_of_getElem? isTask) aborted
  tunnels := doomed.tunnels

/-- The tasks of doomed accept loops stay doomed while the loops evolve. -/
theorem ProxyDoomed.evolve
    {count : Nat}
    {system next : System}
    (doomed : ProxyDoomed count system)
    (evolve : TasksEvolve system.bridge.tasks next.bridge.tasks)
    (tunnels : ∀ tunnel ∈ next.tunnels, tunnel.acceptor < count →
      tunnel.ended = true) :
    ProxyDoomed count next where
  within := Nat.le_trans doomed.within evolve.length
  tasks id task early isTask := by
    obtain ⟨old, wasTask, ended, aborted⟩ :=
      evolve.tasks id task isTask (Nat.lt_of_lt_of_le early doomed.within)
    exact (doomed.tasks id old early wasTask).imp ended aborted
  tunnels := tunnels

/-- A stop that finds an accept loop alone dooms all of them. -/
theorem proxyDoomed_of_stopsProxy
    {system next : System}
    {label : SystemLabel}
    (stops : system.StopsProxy label)
    (alone : system.ProxyAlone)
    (stepped : system.step label = some next) :
    ProxyDoomed system.bridge.tasks.length next := by
  obtain ⟨call, failed, rfl, reached⟩ := stops
  have stopped : next = { system with
      bridge := system.bridge.abortSlot.goto call (.clearRunning failed) } := by
    simp only [System.step, Flutter.step, reached, Option.bind_some, advance,
      Option.map_some] at stepped
    exact (Option.some.inj stepped).symm
  subst stopped
  refine ⟨(TasksEvolve.abortSlot system.bridge).length, ?_,
    fun tunnel member _ => alone.tunnels tunnel member⟩
  intro id task _ found
  obtain ⟨before, isTask, ⟨-, rfl⟩ | ⟨notHeld, rfl⟩⟩ := tasks_abortSlot found
  · exact .inr rfl
  · rcases alone.tasks id task isTask with ended | aborted | held
    · exact .inl ended
    · exact .inr aborted
    · exact absurd held notHeld

/-- The tasks behind a TUN device do not matter to the accept loops. -/
theorem ProxyDoomed.of_tunStep
    {count : Nat}
    {system next : System}
    {label : SystemLabel}
    {id : Nat}
    (doomed : ProxyDoomed count system)
    (about : label.tunTask = some id)
    (stepped : system.step label = some next) :
    ProxyDoomed count next := by
  obtain ⟨spawned, tunStep, -⟩ := tunStep_of_step about stepped
  refine doomed.evolve ?_ ?_
  · rw [tunStep.bridge]
    exact .refl _
  · rw [tunStep.tunnels]
    exact doomed.tunnels

/-- A complete step keeps the first accept loops doomed. -/
theorem ProxyDoomed.of_step
    {count : Nat}
    {system next : System}
    {label : SystemLabel}
    (doomed : ProxyDoomed count system)
    (complete : Complete system label)
    (stepped : system.step label = some next) :
    ProxyDoomed count next := by
  cases label with
  | proxy label =>
      obtain ⟨bridge, bridgeStepped, rfl⟩ := Option.map_eq_some_iff.mp stepped
      exact doomed.evolve (transition_of_step bridgeStepped).tasksEvolve
        doomed.tunnels
  | accept acceptor =>
      obtain ⟨task, isTask, accepted⟩ := Option.bind_eq_some_iff.mp stepped
      have notAborted := complete.accepts acceptor task rfl isTask
      unfold System.accept at accepted
      split_ifs at accepted with point
      obtain rfl := Option.some.inj accepted
      refine doomed.evolve (.refl _) fun tunnel member early => ?_
      rcases List.mem_append.mp member with old | new
      · exact doomed.tunnels tunnel old early
      · obtain rfl := List.mem_singleton.mp new
        rcases doomed.tasks acceptor task early isTask with ended | aborted
        · exact absurd (point.symm.trans ended) TaskPoint.noConfusion
        · exact absurd (notAborted.symm.trans aborted) Bool.false_ne_true
  | tunnelEnds tunnel =>
      obtain rfl := Option.some.inj stepped
      refine doomed.evolve (.refl _) fun tunnel member early => ?_
      obtain ⟨id, found⟩ := List.mem_iff_getElem?.mp member
      obtain ⟨before, isTunnel, ⟨-, rfl⟩ | ⟨-, rfl⟩⟩ :=
        Table.found_of_modify found
      · rfl
      · exact doomed.tunnels tunnel (List.mem_of_getElem? isTunnel) early
  | startTun tunFd =>
      obtain rfl := Option.some.inj stepped
      unfold System.startTun
      split_ifs
      · exact doomed
      · exact ⟨doomed.within, doomed.tasks, doomed.tunnels⟩
  | stopTun =>
      obtain rfl := Option.some.inj stepped
      unfold System.stopTun
      cases system.tunSlot with
      | none => exact doomed
      | some id => exact ⟨doomed.within, doomed.tasks, doomed.tunnels⟩
  | createProcessor id ok => exact doomed.of_tunStep rfl stepped
  | openSession id => exact doomed.of_tunStep rfl stepped
  | connectSession id ok => exact doomed.of_tunStep rfl stepped
  | taskEnds id => exact doomed.of_tunStep rfl stepped
  | cancelTun id => exact doomed.of_tunStep rfl stepped

/-! ## TUN devices -/

/-- The tasks that descend from the first processors have ended or are about
to. -/
structure TunDoomed (count : Nat) (system : System) : Prop where
  within : count ≤ system.tunTasks.length
  tasks : ∀ task ∈ system.tunTasks, task.root < count →
    task.ended = true ∨ task.aborted = true

/-- Once aborts have taken effect they have ended. -/
theorem TunDoomed.down
    {count : Nat}
    {system : System}
    (doomed : TunDoomed count system)
    (settled : system.Settled) :
    system.TunDown count := by
  intro task member early
  rcases doomed.tasks task member early with ended | aborted
  · exact ended
  · exact settled.tun task member aborted

/-- The tasks when that of the slot has been aborted. -/
theorem tunTasks_stopTun
    {system : System}
    {task : TunTask}
    (member : task ∈ system.stopTun.tunTasks) :
    ∃ id before, system.tunTasks[id]? = some before ∧
      ((system.tunSlot = some id ∧ task = { before with aborted := true }) ∨
        (system.tunSlot ≠ some id ∧ task = before)) := by
  obtain ⟨id, found⟩ := List.mem_iff_getElem?.mp member
  unfold System.stopTun at found
  cases slot : system.tunSlot with
  | none =>
      rw [slot] at found
      exact ⟨id, task, found, .inr ⟨(Option.some_ne_none id).symm, rfl⟩⟩
  | some held =>
      rw [slot] at found
      obtain ⟨before, isTask, ⟨rfl, changed⟩ | ⟨notHeld, same⟩⟩ :=
        Table.found_of_modify found
      · exact ⟨held, before, isTask, .inl ⟨rfl, changed⟩⟩
      · exact ⟨id, before, isTask,
          .inr ⟨fun equal => notHeld (Option.some.inj equal), same⟩⟩

/-- A stop loses no task. -/
theorem length_stopTun (system : System) :
    system.stopTun.tunTasks.length = system.tunTasks.length := by
  unfold System.stopTun
  cases system.tunSlot with
  | none => rfl
  | some id => exact List.length_modify _ system.tunTasks id

/-- A stop that finds a processor alone dooms all of them. -/
theorem tunDoomed_of_stopTun
    {system : System}
    (alone : system.TunAlone) :
    TunDoomed system.tunTasks.length system.stopTun where
  within := Nat.le_of_eq (length_stopTun system).symm
  tasks task member _ := by
    obtain ⟨id, before, isTask, ⟨-, rfl⟩ | ⟨notHeld, rfl⟩⟩ :=
      tunTasks_stopTun member
    · exact .inr rfl
    · rcases alone id task isTask with ended | aborted | held
      · exact .inl ended
      · exact .inr aborted
      · exact absurd held notHeld

/-- A task that spawns nothing while it is aborted keeps the first processors
and their descendants doomed. -/
theorem TunDoomed.of_tunStep
    {count : Nat}
    {system next : System}
    {label : SystemLabel}
    {id : Nat}
    (doomed : TunDoomed count system)
    (complete : Complete system label)
    (about : label.tunTask = some id)
    (stepped : system.step label = some next) :
    TunDoomed count next := by
  obtain ⟨spawned, tunStep, quiet⟩ := tunStep_of_step about stepped
  obtain ⟨task, changed, isTask, tasks, root, aborted, ended, children⟩ :=
    tunStep.tasks
  have wasDoomed := doomed.tasks task (List.mem_of_getElem? isTask)
  refine ⟨?_, fun other member early => ?_⟩
  · rw [tasks, List.length_append, List.length_set]
    exact Nat.le_add_right_of_le doomed.within
  · rw [tasks] at member
    rcases List.mem_append.mp member with old | new
    · rcases List.mem_or_eq_of_mem_set old with known | rfl
      · exact doomed.tasks other known early
      · rw [root] at early
        exact (wasDoomed early).imp ended aborted
    · obtain ⟨sameRoot, running⟩ := children other new
      rw [sameRoot] at early
      rcases wasDoomed early with isEnded | isAborted
      · exact absurd (running.symm.trans isEnded) Bool.false_ne_true
      · have spawns : label.spawns = true := by
          by_contra spawnsNothing
          rw [quiet (Bool.eq_false_of_not_eq_true spawnsNothing)] at new
          cases new
        have notAborted := complete.spawns id task spawns about isTask
        exact absurd (notAborted.symm.trans isAborted) Bool.false_ne_true

/-- A complete step keeps the first processors and their descendants
doomed. -/
theorem TunDoomed.of_step
    {count : Nat}
    {system next : System}
    {label : SystemLabel}
    (doomed : TunDoomed count system)
    (complete : Complete system label)
    (stepped : system.step label = some next) :
    TunDoomed count next := by
  cases label with
  | proxy label =>
      obtain ⟨bridge, _, rfl⟩ := Option.map_eq_some_iff.mp stepped
      exact ⟨doomed.within, doomed.tasks⟩
  | accept acceptor =>
      obtain ⟨task, _, accepted⟩ := Option.bind_eq_some_iff.mp stepped
      unfold System.accept at accepted
      split_ifs at accepted
      obtain rfl := Option.some.inj accepted
      exact ⟨doomed.within, doomed.tasks⟩
  | tunnelEnds tunnel =>
      obtain rfl := Option.some.inj stepped
      exact ⟨doomed.within, doomed.tasks⟩
  | startTun tunFd =>
      obtain rfl := Option.some.inj stepped
      unfold System.startTun
      split_ifs
      · exact doomed
      · refine ⟨?_, fun task member early => ?_⟩
        · simp only [List.length_append]
          exact Nat.le_add_right_of_le doomed.within
        · rcases List.mem_append.mp member with old | new
          · exact doomed.tasks task old early
          · rw [List.mem_singleton.mp new] at early
            exact absurd early (Nat.not_lt.mpr doomed.within)
  | stopTun =>
      obtain rfl := Option.some.inj stepped
      refine ⟨?_, fun task member early => ?_⟩
      · rw [length_stopTun]
        exact doomed.within
      · obtain ⟨id, before, isTask, ⟨-, rfl⟩ | ⟨-, rfl⟩⟩ :=
          tunTasks_stopTun member
        · exact .inr rfl
        · exact doomed.tasks task (List.mem_of_getElem? isTask) early
  | createProcessor id ok => exact doomed.of_tunStep complete rfl stepped
  | openSession id => exact doomed.of_tunStep complete rfl stepped
  | connectSession id ok => exact doomed.of_tunStep complete rfl stepped
  | taskEnds id => exact doomed.of_tunStep complete rfl stepped
  | cancelTun id => exact doomed.of_tunStep complete rfl stepped

/-! ## Runs -/

/-- In every run whose steps are complete: once the aborts have taken effect, no
task is running that descends from an accept loop or a processor started before
a stop. -/
theorem down_of_run
    {before after : List SystemLabel}
    {label : SystemLabel}
    {middle final : System}
    (complete : Run.Guarded System.step Complete System.initial
      (before ++ label :: after))
    (reached : Run.run System.step System.initial before = some middle)
    (ended : Run.run System.step middle (label :: after) = some final)
    (settled : final.Settled) :
    (middle.StopsProxy label →
        final.ProxyDown middle.bridge.tasks.length) ∧
      (label = .stopTun → final.TunDown middle.tunTasks.length) := by
  obtain ⟨completeStop, completeAfter⟩ := complete.append_right reached
  obtain ⟨next, stepped, rest⟩ := (Run.run_cons_eq_some _ _ _ _ _).mp ended
  constructor
  · intro stops
    refine ProxyDoomed.down ?_ settled
    refine Run.invariant_of_guarded Complete
      (ProxyDoomed middle.bridge.tasks.length) ?_ ?_
      (completeAfter next stepped) rest
    · intro system label next doomed complete stepped
      exact doomed.of_step complete stepped
    · exact proxyDoomed_of_stopsProxy stops (completeStop.stopsProxy stops)
        stepped
  · rintro rfl
    refine TunDoomed.down ?_ settled
    refine Run.invariant_of_guarded Complete
      (TunDoomed middle.tunTasks.length) ?_ ?_
      (completeAfter next stepped) rest
    · intro system label next doomed complete stepped
      exact doomed.of_step complete stepped
    · obtain rfl := Option.some.inj stepped
      exact tunDoomed_of_stopTun (completeStop.stopsTun rfl)

/-- A start up to its wait for the listener. -/
def startWaiting : List SystemLabel :=
  [.proxy (.call .startRelizProxy), .proxy (.advance 0), .proxy (.advance 0),
    .proxy (.advance 0), .proxy (.advance 0)]

/-- The start goes on, a connection is accepted and ends, a processor is started,
and a stop has not taken the handle yet. -/
def stopFollows : List SystemLabel :=
  startWaiting ++ [.proxy (.poll 0), .proxy (.bindAnswer 0 true),
    .proxy (.poll 0), .accept 0, .tunnelEnds 0, .startTun 3,
    .proxy (.call .stopProxy)]

/-- The tasks when the stop takes the handle. -/
def stopReached : System where
  bridge :=
    { status := .connecting
      running := true
      slot := some 0
      tasks := [{ point := .accept, ready := .sent, bound := true,
                  aborted := false }]
      calls := [.waitReady 0, .abortTask false] }
  tunnels := [{ acceptor := 0, ended := true }]
  tunSlot := some 0
  tunTasks := [TunTask.spawned .processor 0 0]

/-- The tasks when the abort of the accept loop has taken effect. -/
def stopTaken : System where
  bridge :=
    { status := .connecting
      running := true
      slot := none
      tasks := [{ point := .ended, ready := .sent, bound := true,
                  aborted := true }]
      calls := [.waitReady 0, .clearRunning false] }
  tunnels := [{ acceptor := 0, ended := true }]
  tunSlot := some 0
  tunTasks := [TunTask.spawned .processor 0 0]

/-- The tasks when the abort of the processor has taken effect as well. -/
def stopSettled : System :=
  { stopTaken with
    tunSlot := none
    tunTasks := [{ TunTask.spawned .processor 0 0 with
      aborted := true
      ended := true }] }

/-- A step of the bridge that takes no handle is complete. -/
theorem complete_proxy
    {system : System}
    {label : Label}
    (takesNone : ¬ system.StopsProxy (.proxy label)) :
    Complete system (.proxy label) where
  stopsProxy stops := absurd stops takesNone
  stopsTun equal := SystemLabel.noConfusion equal
  accepts _ _ equal := SystemLabel.noConfusion equal
  spawns _ _ spawns := Bool.noConfusion spawns

/-- An access that takes no handle is complete. -/
theorem complete_advance
    {system : System}
    {call : Nat}
    {point : CallPoint}
    (reached : system.bridge.calls[call]? = some point)
    (takesNone : ∀ failed, point ≠ .abortTask failed) :
    Complete system (.proxy (.advance call)) := by
  refine complete_proxy ?_
  rintro ⟨other, failed, equal, aborts⟩
  obtain rfl := Label.advance.inj (SystemLabel.proxy.inj equal)
  exact takesNone failed (Option.some.inj (reached.symm.trans aborts))

/-- A step of the bridge that is no access of a call is complete. -/
theorem complete_event
    {system : System}
    {label : Label}
    (event : ∀ call, label ≠ .advance call) :
    Complete system (.proxy label) := by
  refine complete_proxy ?_
  rintro ⟨call, failed, equal, aborts⟩
  exact event call (SystemLabel.proxy.inj equal)

/-- A step that is neither of the bridge, nor stops, accepts or spawns anything
is complete. -/
theorem complete_plain
    {system : System}
    {label : SystemLabel}
    (noBridge : ∀ inner, label ≠ .proxy inner)
    (noStop : label ≠ .stopTun)
    (noAccept : ∀ acceptor, label ≠ .accept acceptor)
    (noSpawn : label.spawns = false) :
    Complete system label where
  stopsProxy := by
    rintro ⟨call, failed, equal, -⟩
    exact absurd equal (noBridge _)
  stopsTun equal := absurd equal noStop
  accepts acceptor _ equal := absurd equal (noAccept acceptor)
  spawns _ _ spawns := absurd spawns (by simp [noSpawn])

/-- Both stops of that run are complete. -/
theorem guarded_stopFollows :
    Run.Guarded System.step Complete System.initial
      (stopFollows ++ .proxy (.advance 1) ::
        [.proxy (.cancel 0), .stopTun, .cancelTun 0]) := by
  refine .cons (complete_event (by simp)) rfl ?_
  refine .cons (complete_advance
    (show _ = some CallPoint.loadRunning from rfl) (by simp)) rfl ?_
  refine .cons (complete_advance
    (show _ = some CallPoint.storeConnecting from rfl) (by simp)) rfl ?_
  refine .cons (complete_advance
    (show _ = some CallPoint.spawn from rfl) (by simp)) rfl ?_
  refine .cons (complete_advance
    (show _ = some (CallPoint.storeHandle 0) from rfl) (by simp)) rfl ?_
  refine .cons (complete_event (by simp)) rfl ?_
  refine .cons (complete_event (by simp)) rfl ?_
  refine .cons (complete_event (by simp)) rfl ?_
  refine .cons ?accepted rfl ?_
  · refine ⟨?_, SystemLabel.noConfusion, fun acceptor task same isTask => ?_,
      fun _ _ => Bool.noConfusion⟩
    · rintro ⟨call, failed, equal, -⟩
      cases equal
    · obtain rfl := SystemLabel.accept.inj same
      obtain rfl := Option.some.inj isTask
      rfl
  refine .cons (complete_plain (by simp) (by simp) (by simp) rfl) rfl ?_
  refine .cons (complete_plain (by simp) (by simp) (by simp) rfl) rfl ?_
  refine .cons (complete_event (by simp)) rfl ?_
  refine .cons ?stopped rfl ?_
  · refine ⟨fun _ => ⟨?_, fun tunnel member => ?_⟩, SystemLabel.noConfusion,
      fun _ _ => SystemLabel.noConfusion, fun _ _ => Bool.noConfusion⟩
    · intro id task isTask
      cases id with
      | zero => exact .inr (.inr rfl)
      | succ id => cases isTask
    · rw [List.mem_singleton.mp member]
  refine .cons (complete_event (by simp)) rfl ?_
  refine .cons ?tunStopped rfl
    (.cons (complete_plain (by simp) (by simp) (by simp) rfl) rfl trivial)
  refine ⟨?_, fun _ id task isTask => ?_, fun _ _ => SystemLabel.noConfusion,
    fun _ _ => Bool.noConfusion⟩
  · rintro ⟨call, failed, equal, -⟩
    cases equal
  · cases id with
    | zero => exact .inr (.inr rfl)
    | succ id => cases isTask

/-- Every abort of that run has taken effect. -/
theorem settled_stopSettled : stopSettled.Settled where
  proxy task member _ := by
    rw [List.mem_singleton.mp member]
  tun task member _ := by
    rw [List.mem_singleton.mp member]

/-- The accept loop and the processor of a start that has been stopped are
down. -/
theorem down_of_run_stopFollows :
    stopSettled.ProxyDown 1 ∧ stopSettled.TunDown 1 := by
  have reached :
      Run.run System.step System.initial stopFollows = some stopReached := rfl
  have taken : Run.run System.step System.initial
      (stopFollows ++ [.proxy (.advance 1), .proxy (.cancel 0)]) =
        some stopTaken := rfl
  constructor
  · exact (down_of_run guarded_stopFollows reached rfl settled_stopSettled).1
      ⟨1, false, rfl, rfl⟩
  · exact (@down_of_run (stopFollows ++
        [.proxy (.advance 1), .proxy (.cancel 0)]) [.cancelTun 0] .stopTun
      stopTaken stopSettled guarded_stopFollows taken rfl
      settled_stopSettled).2 rfl

/-- A TUN device with one flow. -/
def flowOpened : List SystemLabel :=
  [.startTun 3, .createProcessor 0 true, .openSession 0, .connectSession 2 true]

/-- The tasks of that device once the abort of its processor has taken
effect. -/
def flowLeft : System where
  bridge := Bridge.initial
  tunnels := []
  tunSlot := none
  tunTasks :=
    [{ kind := .processor, root := 0, parent := 0, started := true,
       aborted := true, ended := true },
      TunTask.spawned .tunWrite 0 0,
      { TunTask.spawned .session 0 0 with started := true },
      TunTask.spawned .socksToTun 0 2,
      TunTask.spawned .dataToSocks 0 2]

/-- Every abort of that run has taken effect. -/
theorem settled_flowLeft : flowLeft.Settled where
  proxy task member := by
    cases member
  tun := by
    decide

/-- A stop leaves the task that writes to a TUN device, and those of its flow,
running. -/
theorem not_down_of_flowOpened :
    ¬ ∀ before after label middle final,
      Run.run System.step System.initial before = some middle →
        Run.run System.step middle (label :: after) = some final →
        final.Settled →
        (middle.StopsProxy label →
            final.ProxyDown middle.bridge.tasks.length) ∧
          (label = .stopTun → final.TunDown middle.tunTasks.length) := by
  intro down
  have allEnded := (down flowOpened [.cancelTun 0] .stopTun _ flowLeft rfl rfl
    settled_flowLeft).2 rfl
  have writes := allEnded (TunTask.spawned .tunWrite 0 0)
    (List.mem_of_getElem? (show flowLeft.tunTasks[1]? = _ from rfl)) (by decide)
  exact Bool.false_ne_true writes

end Flutter
end GhostProtocol
