import GhostProtocol.Flutter.Bridge

/-!
# Tracking the running proxy

Calls that overlap can lose the handle of a running proxy or its flag: a start
checks the flag long before its task sets it, and both a task and a stop clear
it for whoever has set it.  In runs whose steps are orderly the proxy that runs
is the one whose handle is stored, and the flag tells whether there is one.
-/

namespace GhostProtocol
namespace Flutter

open Foundation

/-- A task that has set the running flag and has neither ended nor been asked
to abort. -/
structure ProxyTask.Live (task : ProxyTask) : Prop where
  aborted : task.aborted = false
  started : task.point ≠ .storeRunning
  running : task.point ≠ .ended

/-- A task that has bound its listener and has neither ended nor been asked to
abort. -/
structure ProxyTask.Running (task : ProxyTask) : Prop where
  aborted : task.aborted = false
  bound : task.bound = true
  running : task.point ≠ .ended

/-- All calls have returned. -/
def Bridge.Quiet (bridge : Bridge) : Prop :=
  ∀ (call : Nat) (point : CallPoint), bridge.calls[call]? = some point →
    point.isReturned = true

/-- At most one proxy is running, its handle is stored, and once all calls have
returned the flag tells whether there is one. -/
structure SingleTracked (bridge : Bridge) : Prop where
  unique : ∀ (first second : Nat) (firstTask secondTask : ProxyTask),
    bridge.tasks[first]? = some firstTask →
    bridge.tasks[second]? = some secondTask →
    firstTask.Running → secondTask.Running → first = second
  held : ∀ (id : Nat) (task : ProxyTask), bridge.tasks[id]? = some task →
    task.Running → bridge.slot = some id
  flag : bridge.Quiet →
    (bridge.running = true ↔
      ∃ (id : Nat) (task : ProxyTask), bridge.tasks[id]? = some task ∧
        task.Running)

/-- Whether the next access of a call is its last. -/
def Bridge.returns (bridge : Bridge) : CallPoint → Bool
  | .loadRunning => bridge.running
  | .storeConnected => true
  | .storeStopped failed => !failed
  | .storeError => true
  | _ => false

/-- A call stores a handle only over that of a proxy that is not running, it
clears the flag only if no live task has set it, and it is the last to return
only if the live tasks have bound their listeners. -/
structure Bridge.OrderlyCall
    (bridge : Bridge)
    (call : Nat)
    (point : CallPoint) : Prop where
  stores : ∀ id, point = .storeHandle id →
    ∀ (other : Nat) (task : ProxyTask), bridge.tasks[other]? = some task →
      other ≠ id → ¬ task.Running
  clears : ∀ failed, point = .clearRunning failed →
    ∀ (id : Nat) (task : ProxyTask), bridge.tasks[id]? = some task →
      ¬ task.Live
  returns : bridge.returns point = true →
    (∀ (other : Nat) (second : CallPoint), bridge.calls[other]? = some second →
      other ≠ call → second.isReturned = true) →
    ∀ (id : Nat) (task : ProxyTask), bridge.tasks[id]? = some task →
      task.Live → task.bound = true

/-- A task sets the flag only during a call and before it is aborted, and clears
it only if no other live task has set it. -/
structure Bridge.OrderlyTask
    (bridge : Bridge)
    (id : Nat)
    (task : ProxyTask) : Prop where
  sets : task.point = .storeRunning → task.aborted = false ∧ ¬ bridge.Quiet
  clears : task.point = .clearRunning →
    ∀ (other : Nat) (second : ProxyTask), bridge.tasks[other]? = some second →
      other ≠ id → ¬ second.Live

/-- A step of calls and tasks that stay out of each other's way.  Besides, a
task binds its listener only when its handle is stored. -/
def Orderly (bridge : Bridge) : Label → Prop
  | .advance call => ∀ (point : CallPoint),
      bridge.calls[call]? = some point → bridge.OrderlyCall call point
  | .poll id => ∀ (task : ProxyTask),
      bridge.tasks[id]? = some task → bridge.OrderlyTask id task
  | .bindAnswer id true => ∀ (task : ProxyTask),
      bridge.tasks[id]? = some task → task.aborted = false →
        bridge.slot = some id
  | _ => True

/-! ## The invariant -/

/-- What orderly steps preserve. -/
structure Tracked (bridge : Bridge) : Prop where
  started : ∀ (id : Nat) (task : ProxyTask), bridge.tasks[id]? = some task →
    task.bound = true → task.point ≠ .storeRunning
  held : ∀ (id : Nat) (task : ProxyTask), bridge.tasks[id]? = some task →
    task.Running → bridge.slot = some id
  set : ∀ (id : Nat) (task : ProxyTask), bridge.tasks[id]? = some task →
    task.Live → bridge.running = true
  cleared : bridge.running = true →
    (∃ (id : Nat) (task : ProxyTask), bridge.tasks[id]? = some task ∧
      task.Live) ∨
    ∃ (call : Nat) (failed : Bool),
      bridge.calls[call]? = some (.clearRunning failed)
  settled : bridge.Quiet →
    ∀ (id : Nat) (task : ProxyTask), bridge.tasks[id]? = some task →
      task.Live → task.bound = true

/-- A bound task that runs is live. -/
theorem Tracked.live_of_running
    {bridge : Bridge}
    (tracked : Tracked bridge)
    {id : Nat}
    {task : ProxyTask}
    (isTask : bridge.tasks[id]? = some task)
    (running : task.Running) :
    task.Live where
  aborted := running.aborted
  started := tracked.started id task isTask running.bound
  running := running.running

/-- The invariant says that the proxy is tracked. -/
theorem Tracked.singleTracked
    {bridge : Bridge}
    (tracked : Tracked bridge) :
    SingleTracked bridge where
  unique first second firstTask secondTask isFirst isSecond firstRuns
      secondRuns :=
    Option.some.inj ((tracked.held first firstTask isFirst firstRuns).symm.trans
      (tracked.held second secondTask isSecond secondRuns))
  held := tracked.held
  flag quiet := by
    constructor
    · intro running
      rcases tracked.cleared running with ⟨id, task, isTask, live⟩ |
        ⟨call, failed, clears⟩
      · exact ⟨id, task, isTask, live.aborted,
          tracked.settled quiet id task isTask live, live.running⟩
      · cases quiet call _ clears
    · rintro ⟨id, task, isTask, running⟩
      exact tracked.set id task isTask (tracked.live_of_running isTask running)

/-- Nothing is running in a new process. -/
theorem tracked_initial : Tracked Bridge.initial where
  started id task isTask := by cases isTask
  held id task isTask := by cases isTask
  set id task isTask := by cases isTask
  cleared running := by cases running
  settled _ id task isTask := by cases isTask

/-! ## Calls -/

/-- A call that goes on is still there. -/
theorem calls_goto_self
    {bridge : Bridge}
    {call : Nat}
    {point : CallPoint}
    (reached : bridge.calls[call]? = some point)
    (next : CallPoint) :
    (bridge.goto call next).calls[call]? = some next := by
  obtain ⟨bound, -⟩ := List.getElem?_eq_some_iff.mp reached
  exact List.getElem?_set_self bound

/-- The other calls stay where they are. -/
theorem calls_goto_of_ne
    {bridge : Bridge}
    {call other : Nat}
    (different : other ≠ call)
    (next : CallPoint) :
    (bridge.goto call next).calls[other]? = bridge.calls[other]? :=
  List.getElem?_set_ne different.symm

/-- A call that has not returned is in progress. -/
theorem not_quiet_goto
    {bridge : Bridge}
    {call : Nat}
    {point next : CallPoint}
    (reached : bridge.calls[call]? = some point)
    (goesOn : next.isReturned = false) :
    ¬ (bridge.goto call next).Quiet := by
  intro quiet
  have returned := quiet call next (calls_goto_self reached next)
  rw [goesOn] at returned
  cases returned

/-- When a call returns and no other is in progress, all others have
returned. -/
theorem others_returned_of_quiet
    {bridge : Bridge}
    {call : Nat}
    {next : CallPoint}
    (quiet : (bridge.goto call next).Quiet) :
    ∀ (other : Nat) (second : CallPoint), bridge.calls[other]? = some second →
      other ≠ call → second.isReturned = true := by
  intro other second isCall different
  refine quiet other second ?_
  rw [calls_goto_of_ne different]
  exact isCall

/-- A call that only stores a status keeps the invariant, if it does not return
too early. -/
theorem Tracked.goto
    {bridge : Bridge}
    (tracked : Tracked bridge)
    {call : Nat}
    {point next : CallPoint}
    (reached : bridge.calls[call]? = some point)
    (notClears : ∀ failed, point ≠ .clearRunning failed)
    (status : ProxyStatus)
    (settles : (bridge.goto call next).Quiet →
      ∀ (id : Nat) (task : ProxyTask), bridge.tasks[id]? = some task →
        task.Live → task.bound = true) :
    Tracked ({ bridge with status }.goto call next) where
  started := tracked.started
  held := tracked.held
  set := tracked.set
  cleared running := by
    refine (tracked.cleared running).imp id ?_
    rintro ⟨other, failed, clears⟩
    have different : other ≠ call := by
      rintro rfl
      rw [reached] at clears
      exact notClears failed (Option.some.inj clears)
    exact ⟨other, failed, (calls_goto_of_ne different next).trans clears⟩
  settled := settles

/-- A call that arrives keeps the invariant. -/
theorem Tracked.called
    {bridge : Bridge}
    (tracked : Tracked bridge)
    (function : ApiFunction) :
    Tracked { bridge with calls := bridge.calls ++ [function.entry] } where
  started := tracked.started
  held := tracked.held
  set := tracked.set
  cleared running := by
    refine (tracked.cleared running).imp id ?_
    rintro ⟨call, failed, clears⟩
    obtain ⟨bound, -⟩ := List.getElem?_eq_some_iff.mp clears
    exact ⟨call, failed, (List.getElem?_append_left bound).trans clears⟩
  settled quiet := by
    have returned := quiet bridge.calls.length function.entry
      List.getElem?_concat_length
    cases function with
    | startRelizProxy => cases returned
    | stopProxy => cases returned

/-- A call that stores a handle keeps the invariant, if no other proxy is
running. -/
theorem Tracked.stored
    {bridge : Bridge}
    (tracked : Tracked bridge)
    {call id : Nat}
    (reached : bridge.calls[call]? = some (.storeHandle id))
    (orderly : bridge.OrderlyCall call (.storeHandle id)) :
    Tracked ({ bridge with slot := some id }.goto call (.waitReady id)) := by
  have goesOn : ¬ (bridge.goto call (.waitReady id)).Quiet :=
    not_quiet_goto reached rfl
  have moved := tracked.goto reached (fun failed => CallPoint.noConfusion)
    bridge.status fun quiet => absurd quiet goesOn
  refine { moved with held := fun other task isTask running => ?_ }
  by_cases same : other = id
  · exact congrArg some same.symm
  · exact absurd running (orderly.stores id rfl other task isTask same)

/-- A call that spawns a task keeps the invariant. -/
theorem Tracked.spawned
    {bridge : Bridge}
    (tracked : Tracked bridge)
    {call : Nat}
    (reached : bridge.calls[call]? = some .spawn) :
    Tracked ({ bridge with
      tasks := bridge.tasks ++ [ProxyTask.spawned] }.goto call
        (.storeHandle bridge.tasks.length)) := by
  have goesOn :
      ¬ (bridge.goto call (.storeHandle bridge.tasks.length)).Quiet :=
    not_quiet_goto reached rfl
  have moved := tracked.goto reached (fun failed => CallPoint.noConfusion)
    bridge.status fun quiet => absurd quiet goesOn
  refine ⟨?_, ?_, ?_, ?_, ?_⟩
  · intro id task isTask bound
    rcases Table.found_of_concat isTask with known | ⟨-, rfl⟩
    · exact tracked.started id task known bound
    · cases bound
  · intro id task isTask running
    rcases Table.found_of_concat isTask with known | ⟨-, rfl⟩
    · exact tracked.held id task known running
    · cases running.bound
  · intro id task isTask live
    rcases Table.found_of_concat isTask with known | ⟨-, rfl⟩
    · exact tracked.set id task known live
    · exact absurd rfl live.started
  · intro running
    refine (moved.cleared running).imp ?_ id
    rintro ⟨id, task, isTask, live⟩
    obtain ⟨bound, -⟩ := List.getElem?_eq_some_iff.mp isTask
    exact ⟨id, task, (List.getElem?_append_left bound).trans isTask, live⟩
  · intro quiet
    exact absurd quiet goesOn

/-- A call that aborts the task of the slot keeps the invariant. -/
theorem Tracked.aborted
    {bridge : Bridge}
    (tracked : Tracked bridge)
    {call : Nat}
    {failed : Bool}
    (reached : bridge.calls[call]? = some (.abortTask failed)) :
    Tracked (bridge.abortSlot.goto call (.clearRunning failed)) := by
  have clears : (bridge.abortSlot.goto call (.clearRunning failed)).calls[call]? =
      some (.clearRunning failed) :=
    calls_goto_self (by rw [calls_abortSlot]; exact reached) _
  refine ⟨?_, ?_, ?_, fun _ => .inr ⟨call, failed, clears⟩, ?_⟩
  · intro id task found isBound
    obtain ⟨before, isTask, ⟨-, rfl⟩ | ⟨-, rfl⟩⟩ := tasks_abortSlot found
    · exact tracked.started id before isTask isBound
    · exact tracked.started id task isTask isBound
  · intro id task found runs
    obtain ⟨before, isTask, ⟨-, rfl⟩ | ⟨notHeld, rfl⟩⟩ := tasks_abortSlot found
    · cases runs.aborted
    · exact absurd (tracked.held id task isTask runs) notHeld
  · intro id task found live
    rw [Bridge.goto, running_abortSlot]
    obtain ⟨before, isTask, ⟨-, rfl⟩ | ⟨-, rfl⟩⟩ := tasks_abortSlot found
    · cases live.aborted
    · exact tracked.set id task isTask live
  · intro quiet
    cases quiet call _ clears

/-- A call that clears the flag keeps the invariant, if no live task has set
it. -/
theorem Tracked.flagCleared
    {bridge : Bridge}
    (tracked : Tracked bridge)
    {call : Nat}
    {failed : Bool}
    (reached : bridge.calls[call]? = some (.clearRunning failed))
    (orderly : bridge.OrderlyCall call (.clearRunning failed)) :
    Tracked ({ bridge with running := false }.goto call
      (.storeStopped failed)) where
  started := tracked.started
  held := tracked.held
  set id task isTask live :=
    absurd live (orderly.clears failed rfl id task isTask)
  cleared running := by cases running
  settled quiet := absurd quiet (not_quiet_goto reached rfl)

/-! ## Tasks -/

/-- Some task other than the given one is live. -/
def Bridge.OtherLive (bridge : Bridge) (id : Nat) : Prop :=
  ∃ (other : Nat) (second : ProxyTask), other ≠ id ∧
    bridge.tasks[other]? = some second ∧ second.Live

/-- A task that changes keeps the invariant, if the flag agrees with it. -/
theorem Tracked.setTask
    {bridge : Bridge}
    (tracked : Tracked bridge)
    {id : Nat}
    {task changed : ProxyTask}
    (isTask : bridge.tasks[id]? = some task)
    (status : ProxyStatus)
    {running : Bool}
    (started : changed.bound = true → changed.point ≠ .storeRunning)
    (held : changed.Running → bridge.slot = some id)
    (set : changed.Live ∨ bridge.OtherLive id → running = true)
    (cleared : running = true → changed.Live ∨ bridge.OtherLive id ∨
      ∃ (call : Nat) (failed : Bool),
        bridge.calls[call]? = some (.clearRunning failed))
    (settled : bridge.Quiet → changed.Live → changed.bound = true) :
    Tracked ({ bridge with status, running }.setTask id changed) := by
  obtain ⟨bound, -⟩ := List.getElem?_eq_some_iff.mp isTask
  refine ⟨?_, ?_, ?_, ?_, ?_⟩
  · intro other second found isBound
    rcases Table.found_of_set found with ⟨rfl, rfl⟩ | ⟨_, known⟩
    · exact started isBound
    · exact tracked.started other second known isBound
  · intro other second found runs
    rcases Table.found_of_set found with ⟨rfl, rfl⟩ | ⟨_, known⟩
    · exact held runs
    · exact tracked.held other second known runs
  · intro other second found live
    rcases Table.found_of_set found with ⟨rfl, rfl⟩ | ⟨different, known⟩
    · exact set (.inl live)
    · exact set (.inr ⟨other, second, different, known, live⟩)
  · intro isSet
    rcases cleared isSet with live | ⟨other, second, different, known, live⟩ |
      clears
    · exact .inl ⟨id, changed, List.getElem?_set_self bound, live⟩
    · exact .inl ⟨other, second,
        (List.getElem?_set_ne different.symm).trans known, live⟩
    · exact .inr clears
  · intro quiet other second found live
    rcases Table.found_of_set found with ⟨rfl, rfl⟩ | ⟨_, known⟩
    · exact settled quiet live
    · exact tracked.settled quiet other second known live

/-- The flag agrees with a task that stays as live as it was. -/
theorem Tracked.setTask_of_live_iff
    {bridge : Bridge}
    (tracked : Tracked bridge)
    {id : Nat}
    {task changed : ProxyTask}
    (isTask : bridge.tasks[id]? = some task)
    (status : ProxyStatus)
    (same : changed.Live ↔ task.Live)
    (started : changed.bound = true → changed.point ≠ .storeRunning)
    (held : changed.Running → bridge.slot = some id)
    (settled : bridge.Quiet → changed.Live → changed.bound = true) :
    Tracked ({ bridge with status }.setTask id changed) := by
  refine tracked.setTask isTask status started held ?_ ?_ settled
  · rintro (live | ⟨other, second, _, known, live⟩)
    · exact tracked.set id task isTask (same.mp live)
    · exact tracked.set other second known live
  · intro running
    rcases tracked.cleared running with ⟨other, second, known, live⟩ | clears
    · by_cases isSame : other = id
      · subst isSame
        obtain rfl := Option.some.inj (isTask.symm.trans known)
        exact .inl (same.mpr live)
      · exact .inr (.inl ⟨other, second, isSame, known, live⟩)
    · exact .inr (.inr clears)

/-- A task that goes on between its start and its end keeps the invariant. -/
theorem Tracked.goesOn
    {bridge : Bridge}
    (tracked : Tracked bridge)
    {id : Nat}
    {task : ProxyTask}
    (isTask : bridge.tasks[id]? = some task)
    (status : ProxyStatus)
    {point : TaskPoint}
    (ready : Ready)
    (before : task.point ≠ .storeRunning ∧ task.point ≠ .ended)
    (after : point ≠ .storeRunning ∧ point ≠ .ended) :
    Tracked ({ bridge with status }.setTask id { task with point, ready }) := by
  have same : ({ task with point, ready } : ProxyTask).Live ↔ task.Live :=
    ⟨fun live => ⟨live.aborted, before.1, before.2⟩,
      fun live => ⟨live.aborted, after.1, after.2⟩⟩
  refine tracked.setTask_of_live_iff isTask status same (fun _ => after.1) ?_ ?_
  · intro runs
    exact tracked.held id task isTask ⟨runs.aborted, runs.bound, before.2⟩
  · intro quiet live
    exact tracked.settled quiet id task isTask (same.mp live)

/-- A task that starts keeps the invariant, if it starts during a call and is
not aborted. -/
theorem Tracked.starts
    {bridge : Bridge}
    (tracked : Tracked bridge)
    {id : Nat}
    {task : ProxyTask}
    (isTask : bridge.tasks[id]? = some task)
    (point : task.point = .storeRunning)
    (orderly : bridge.OrderlyTask id task) :
    Tracked ({ bridge with running := true }.setTask id
      { task with point := .bind }) := by
  obtain ⟨notAborted, busy⟩ := orderly.sets point
  refine tracked.setTask isTask bridge.status ?_ ?_ (fun _ => rfl) ?_ ?_
  · exact fun _ => TaskPoint.noConfusion
  · intro runs
    exact absurd point (tracked.started id task isTask runs.bound)
  · exact fun _ => .inl ⟨notAborted, TaskPoint.noConfusion,
      TaskPoint.noConfusion⟩
  · exact fun quiet => absurd quiet busy

/-- A task that ends keeps the invariant, if no other live task has set the
flag. -/
theorem Tracked.ends
    {bridge : Bridge}
    (tracked : Tracked bridge)
    {id : Nat}
    {task : ProxyTask}
    (isTask : bridge.tasks[id]? = some task)
    (point : task.point = .clearRunning)
    (orderly : bridge.OrderlyTask id task) :
    Tracked ({ bridge with running := false }.setTask id
      { task with point := .ended }) := by
  refine tracked.setTask isTask bridge.status ?_ ?_ ?_ ?_ ?_
  · exact fun _ => TaskPoint.noConfusion
  · exact fun runs => absurd rfl runs.running
  · rintro (live | ⟨other, second, different, known, live⟩)
    · exact absurd rfl live.running
    · exact absurd live (orderly.clears point other second known different)
  · intro isSet
    cases isSet
  · exact fun _ live => absurd rfl live.running

/-- A task that binds its listener keeps the invariant, if its handle is
stored. -/
theorem Tracked.binds
    {bridge : Bridge}
    (tracked : Tracked bridge)
    {id : Nat}
    {task : ProxyTask}
    (isTask : bridge.tasks[id]? = some task)
    (point : task.point = .bind)
    (stored : task.aborted = false → bridge.slot = some id) :
    Tracked (bridge.setTask id
      { task with point := .sendReady, bound := true }) := by
  have same : ({ task with point := .sendReady, bound := true } :
      ProxyTask).Live ↔ task.Live := by
    constructor
    · intro live
      exact ⟨live.aborted, by simp [point], by simp [point]⟩
    · intro live
      exact ⟨live.aborted, TaskPoint.noConfusion, TaskPoint.noConfusion⟩
  exact tracked.setTask_of_live_iff isTask bridge.status same
    (fun _ => TaskPoint.noConfusion) (fun runs => stored runs.aborted)
    fun _ _ => rfl

/-- A task whose abort takes effect keeps the invariant. -/
theorem Tracked.cancelled
    {bridge : Bridge}
    (tracked : Tracked bridge)
    {id : Nat}
    {task : ProxyTask}
    (isTask : bridge.tasks[id]? = some task)
    (isAborted : task.aborted = true) :
    Tracked (bridge.setTask id
      { task with point := .ended, ready := task.ready.drop }) := by
  have same : ({ task with point := .ended, ready := task.ready.drop } :
      ProxyTask).Live ↔ task.Live := by
    constructor
    · exact fun live => absurd rfl live.running
    · intro live
      exact absurd live.aborted (by simp [isAborted])
  refine tracked.setTask_of_live_iff isTask bridge.status same ?_ ?_ ?_
  · exact fun _ => TaskPoint.noConfusion
  · exact fun runs => absurd rfl runs.running
  · exact fun _ live => absurd rfl live.running

/-! ## Runs -/

/-- An orderly step keeps the invariant. -/
theorem Tracked.of_step
    {bridge next : Bridge}
    {label : Label}
    (tracked : Tracked bridge)
    (orderly : Orderly bridge label)
    (stepped : step bridge label = some next) :
    Tracked next := by
  cases transition_of_step stepped with
  | called function => exact tracked.called function
  | alreadyRunning reached running =>
      exact tracked.goto reached (fun _ => CallPoint.noConfusion) _ fun quiet =>
        (orderly _ reached).returns running (others_returned_of_quiet quiet)
  | notRunning reached idle =>
      exact tracked.goto reached (fun _ => CallPoint.noConfusion) _ fun quiet =>
        absurd quiet (not_quiet_goto reached rfl)
  | connecting reached =>
      exact tracked.goto reached (fun _ => CallPoint.noConfusion) _ fun quiet =>
        absurd quiet (not_quiet_goto reached rfl)
  | spawned reached => exact tracked.spawned reached
  | stored reached => exact tracked.stored reached (orderly _ reached)
  | answered reached isTask resolved =>
      exact tracked.goto reached (fun _ => CallPoint.noConfusion) _ fun quiet =>
        absurd quiet (not_quiet_goto reached rfl)
  | connected reached =>
      exact tracked.goto reached (fun _ => CallPoint.noConfusion) _ fun quiet =>
        (orderly _ reached).returns rfl (others_returned_of_quiet quiet)
  | aborted reached => exact tracked.aborted reached
  | cleared reached => exact tracked.flagCleared reached (orderly _ reached)
  | stopped reached =>
      exact tracked.goto reached (fun _ => CallPoint.noConfusion) _ fun quiet =>
        (orderly _ reached).returns rfl (others_returned_of_quiet quiet)
  | stoppedFailed reached =>
      exact tracked.goto reached (fun _ => CallPoint.noConfusion) _ fun quiet =>
        absurd quiet (not_quiet_goto reached rfl)
  | failed reached =>
      exact tracked.goto reached (fun _ => CallPoint.noConfusion) _ fun quiet =>
        (orderly _ reached).returns rfl (others_returned_of_quiet quiet)
  | elapsed reached isTask unresolved =>
      exact tracked.goto reached (fun _ => CallPoint.noConfusion) _ fun quiet =>
        absurd quiet (not_quiet_goto reached rfl)
  | taskStarts isTask point =>
      exact tracked.starts isTask point (orderly _ isTask)
  | taskReady isTask point =>
      exact tracked.goesOn isTask _ _ (by simp [point]) (by simp)
  | taskErrs isTask point =>
      exact tracked.goesOn isTask _ _ (by simp [point]) (by simp)
  | taskEnds isTask point => exact tracked.ends isTask point (orderly _ isTask)
  | bound isTask point free => exact tracked.binds isTask point (orderly _ isTask)
  | refused isTask point =>
      exact tracked.goesOn isTask _ _ (by simp [point]) (by simp)
  | acceptFails isTask point =>
      exact tracked.goesOn isTask _ _ (by simp [point]) (by simp)
  | cancelled isTask isAborted awaits => exact tracked.cancelled isTask isAborted

/-- In every run whose steps are orderly the proxy is tracked. -/
theorem singleTracked_of_run
    {labels : List Label}
    {bridge : Bridge}
    (orderly : Run.Guarded step Orderly Bridge.initial labels)
    (reached : Run.run step Bridge.initial labels = some bridge) :
    SingleTracked bridge := by
  refine Tracked.singleTracked ?_
  refine Run.invariant_of_guarded Orderly Tracked ?_ tracked_initial orderly
    reached
  intro before label after tracked orderly stepped
  exact tracked.of_step orderly stepped

/-- A start that runs alone, up to its return. -/
def aloneStart : List Label :=
  [.call .startRelizProxy, .advance 0, .advance 0, .advance 0, .advance 0,
    .poll 0, .bindAnswer 0 true, .poll 0, .advance 0, .advance 0]

/-- The bridge after that start. -/
def startedAlone : Bridge where
  status := .connected
  running := true
  slot := some 0
  tasks := [{ point := .accept, ready := .sent, bound := true, aborted := false }]
  calls := [.returned 0]

/-- An access that neither stores a handle nor clears the flag nor returns is
orderly. -/
theorem orderlyCall_of_reached
    {bridge : Bridge}
    {call : Nat}
    {found : CallPoint}
    (reached : bridge.calls[call]? = some found)
    (stores : ∀ id, found ≠ .storeHandle id)
    (clears : ∀ failed, found ≠ .clearRunning failed)
    (goesOn : bridge.returns found = false) :
    Orderly bridge (.advance call) := by
  intro point isPoint
  obtain rfl := Option.some.inj (reached.symm.trans isPoint)
  refine ⟨fun id same => absurd same (stores id),
    fun failed same => absurd same (clears failed), fun returns => ?_⟩
  rw [goesOn] at returns
  cases returns

/-- A start that runs alone is orderly. -/
theorem guarded_aloneStart :
    Run.Guarded step Orderly Bridge.initial aloneStart := by
  refine .cons trivial rfl ?_
  refine .cons (orderlyCall_of_reached
    (show _ = some CallPoint.loadRunning from rfl) (by simp) (by simp) rfl)
    rfl ?_
  refine .cons (orderlyCall_of_reached
    (show _ = some CallPoint.storeConnecting from rfl) (by simp) (by simp) rfl)
    rfl ?_
  refine .cons (orderlyCall_of_reached
    (show _ = some CallPoint.spawn from rfl) (by simp) (by simp) rfl) rfl ?_
  refine .cons ?storesHandle rfl (.cons ?startsTask rfl
    (.cons (fun _ _ _ => rfl) rfl (.cons ?tellsReady rfl ?_)))
  case storesHandle =>
    intro point reached
    obtain rfl : CallPoint.storeHandle 0 = point := Option.some.inj reached
    refine ⟨fun id same other task isTask different => ?_,
      fun failed same => CallPoint.noConfusion same,
      fun returns => Bool.noConfusion returns⟩
    obtain rfl := CallPoint.storeHandle.inj same
    obtain rfl : other = 0 :=
      Nat.lt_one_iff.mp (List.getElem?_eq_some_iff.mp isTask).1
    exact absurd rfl different
  case startsTask =>
    intro task isTask
    obtain rfl : ProxyTask.spawned = task := Option.some.inj isTask
    refine ⟨fun _ => ⟨rfl, fun quiet => ?_⟩,
      fun point => TaskPoint.noConfusion point⟩
    cases quiet 0 (.waitReady 0) rfl
  case tellsReady =>
    intro task isTask
    obtain rfl := Option.some.inj isTask
    exact ⟨fun point => TaskPoint.noConfusion point,
      fun point => TaskPoint.noConfusion point⟩
  refine .cons (orderlyCall_of_reached
    (show _ = some (CallPoint.waitReady 0) from rfl) (by simp) (by simp) rfl)
    rfl (.cons ?_ rfl trivial)
  intro point reached
  obtain rfl : CallPoint.storeConnected = point := Option.some.inj reached
  refine ⟨fun id same => CallPoint.noConfusion same,
    fun failed same => CallPoint.noConfusion same,
    fun _ _ id task isTask _ => ?_⟩
  obtain rfl : id = 0 :=
    Nat.lt_one_iff.mp (List.getElem?_eq_some_iff.mp isTask).1
  obtain rfl := Option.some.inj isTask
  rfl

/-- A start that runs alone is tracked. -/
theorem singleTracked_of_run_alone :
    SingleTracked startedAlone :=
  singleTracked_of_run guarded_aloneStart rfl

/-- Two starts at the same time: both find the flag clear, the task of the
first binds its listener, and that of the second fails. -/
def overlappingStarts : List Label :=
  [.call .startRelizProxy, .call .startRelizProxy,
    .advance 0, .advance 1, .advance 0, .advance 1, .advance 0, .advance 0,
    .poll 0, .bindAnswer 0 true, .poll 0, .advance 1, .advance 1, .poll 1,
    .bindAnswer 1 false, .poll 1, .poll 1,
    .advance 0, .advance 0, .advance 1, .advance 1]

/-- Overlapping starts leave a running proxy that is not tracked. -/
theorem not_singleTracked_of_overlappingStarts :
    ¬ ∀ labels bridge,
      Run.run step Bridge.initial labels = some bridge →
        SingleTracked bridge := by
  intro tracked
  have lost := (tracked overlappingStarts _ rfl).held 0
    { point := .accept, ready := .sent, bound := true, aborted := false } rfl
    ⟨rfl, rfl, TaskPoint.noConfusion⟩
  revert lost
  decide

end Flutter
end GhostProtocol
