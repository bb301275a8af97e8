import GhostProtocol.Foundation.Run
import GhostProtocol.Foundation.Table
import Mathlib.Data.Bool.Basic
import Mathlib.Tactic.SplitIfs

/-!
# The bridge to the application

The application starts and stops the proxy by calls that may overlap, and the
proxy itself is a task of the runtime.  Calls and tasks share a status, a
running flag and the slot of a task handle.  A step is one access to the status
or the flag, one section under the lock of the slot, or one event of the
runtime: a task is spawned, its bind answers, its accept loop fails, the wait
for it elapses, or its abort takes effect.
-/

namespace GhostProtocol
namespace Flutter

open Foundation

/-- Status of the proxy. -/
inductive ProxyStatus
  | stopped
  | connecting
  | connected
  | error
  deriving DecidableEq, Repr

/-- The number that stands for a status. -/
def ProxyStatus.code : ProxyStatus → Int
  | .stopped => 0
  | .connecting => 1
  | .connected => 2
  | .error => 3

/-- The channel on which a task tells that its listener is bound. -/
inductive Ready
  | pending
  | sent
  | dropped
  deriving DecidableEq, Repr

/-- The channel when its sender goes away. -/
def Ready.drop : Ready → Ready
  | .pending => .dropped
  | ready => ready

/-- What a proxy task does next. -/
inductive TaskPoint
  | storeRunning
  | bind
  | sendReady
  | accept
  | storeError
  | clearRunning
  | ended
  deriving DecidableEq, Repr

/-- A proxy task: what it does next, its channel, whether its listener has been
bound, and whether it has been asked to abort. -/
structure ProxyTask where
  point : TaskPoint
  ready : Ready
  bound : Bool
  aborted : Bool
  deriving DecidableEq, Repr

/-- A task that has not run yet. -/
def ProxyTask.spawned : ProxyTask where
  point := .storeRunning
  ready := .pending
  bound := false
  aborted := false

/-- Whether a task holds the port. -/
def ProxyTask.listens (task : ProxyTask) : Bool :=
  task.point = .sendReady || task.point = .accept

/-- Whether a task is at an await point, where an abort takes effect. -/
def ProxyTask.awaits (task : ProxyTask) : Bool :=
  task.point = .storeRunning || task.point = .bind || task.point = .accept

/-- What a call does next.  A stop inside a failed start goes on with the
status of the failure. -/
inductive CallPoint
  | loadRunning
  | storeConnecting
  | spawn
  | storeHandle (task : Nat)
  | waitReady (task : Nat)
  | storeConnected
  | abortTask (failed : Bool)
  | clearRunning (failed : Bool)
  | storeStopped (failed : Bool)
  | storeError
  | returned (code : Int)
  deriving DecidableEq, Repr

/-- Whether a call has returned. -/
def CallPoint.isReturned : CallPoint → Bool
  | .returned _ => true
  | _ => false

/-- The functions that the application calls. -/
inductive ApiFunction
  | startRelizProxy
  | stopProxy
  deriving DecidableEq, Repr

/-- The first access of a function. -/
def ApiFunction.entry : ApiFunction → CallPoint
  | .startRelizProxy => .loadRunning
  | .stopProxy => .abortTask false

/-- The shared variables, the tasks by the order of their start, and the calls
by the order of their arrival. -/
structure Bridge where
  status : ProxyStatus
  running : Bool
  slot : Option Nat
  tasks : List ProxyTask
  calls : List CallPoint
  deriving DecidableEq, Repr

/-- The bridge of a new process. -/
def Bridge.initial : Bridge where
  status := .stopped
  running := false
  slot := none
  tasks := []
  calls := []

/-- One step of a call, one step of a task between two await points, or one
event of the runtime. -/
inductive Label
  | call (function : ApiFunction)
  | advance (call : Nat)
  | elapse (call : Nat)
  | poll (task : Nat)
  | bindAnswer (task : Nat) (ok : Bool)
  | acceptError (task : Nat)
  | cancel (task : Nat)
  deriving DecidableEq, Repr

/-- A call goes on at another point. -/
def Bridge.goto (bridge : Bridge) (call : Nat) (point : CallPoint) : Bridge :=
  { bridge with calls := bridge.calls.set call point }

/-- A task is in another state. -/
def Bridge.setTask (bridge : Bridge) (id : Nat) (task : ProxyTask) : Bridge :=
  { bridge with tasks := bridge.tasks.set id task }

/-- Take the handle out of the slot and abort its task. -/
def Bridge.abortSlot (bridge : Bridge) : Bridge :=
  match bridge.slot with
  | none => bridge
  | some id =>
      { bridge with
        slot := none
        tasks := bridge.tasks.modify id fun task =>
          { task with aborted := true } }

/-- The calls do not depend on the slot. -/
@[simp] theorem calls_abortSlot (bridge : Bridge) :
    bridge.abortSlot.calls = bridge.calls := by
  unfold Bridge.abortSlot
  cases bridge.slot with
  | none => rfl
  | some id => rfl

/-- The flag does not depend on the slot. -/
@[simp] theorem running_abortSlot (bridge : Bridge) :
    bridge.abortSlot.running = bridge.running := by
  unfold Bridge.abortSlot
  cases bridge.slot with
  | none => rfl
  | some id => rfl

/-- The tasks when that of the slot has been aborted. -/
theorem tasks_abortSlot
    {bridge : Bridge}
    {id : Nat}
    {task : ProxyTask}
    (found : bridge.abortSlot.tasks[id]? = some task) :
    ∃ before, bridge.tasks[id]? = some before ∧
      ((bridge.slot = some id ∧ task = { before with aborted := true }) ∨
        (bridge.slot ≠ some id ∧ task = before)) := by
  unfold Bridge.abortSlot at found
  cases slot : bridge.slot with
  | none =>
      rw [slot] at found
      exact ⟨task, found, .inr ⟨(Option.some_ne_none id).symm, rfl⟩⟩
  | some held =>
      rw [slot] at found
      obtain ⟨before, isTask, ⟨rfl, changed⟩ | ⟨notHeld, same⟩⟩ :=
        Table.found_of_modify found
      · exact ⟨before, isTask, .inl ⟨rfl, changed⟩⟩
      · exact ⟨before, isTask,
          .inr ⟨fun equal => notHeld (Option.some.inj equal), same⟩⟩

/-- The next access of a call. -/
def advance
    (bridge : Bridge)
    (call : Nat) : CallPoint → Option Bridge
  | .loadRunning =>
      some (bridge.goto call
        (if bridge.running then .returned 0 else .storeConnecting))
  | .storeConnecting =>
      some ({ bridge with status := .connecting }.goto call .spawn)
  | .spawn =>
      some ({ bridge with tasks := bridge.tasks ++ [ProxyTask.spawned] }.goto call
        (.storeHandle bridge.tasks.length))
  | .storeHandle task =>
      some ({ bridge with slot := some task }.goto call (.waitReady task))
  | .waitReady id =>
      match bridge.tasks[id]? with
      | none => none
      | some task =>
          if task.ready = .pending then none
          else some (bridge.goto call .storeConnected)
  | .storeConnected =>
      some ({ bridge with status := .connected }.goto call (.returned 0))
  | .abortTask failed =>
      some (bridge.abortSlot.goto call (.clearRunning failed))
  | .clearRunning failed =>
      some ({ bridge with running := false }.goto call (.storeStopped failed))
  | .storeStopped failed =>
      some ({ bridge with status := .stopped }.goto call
        (if failed then .storeError else .returned 0))
  | .storeError =>
      some ({ bridge with status := .error }.goto call
        (.returned ProxyStatus.error.code))
  | .returned _ => none

/-- The wait for the listener elapses before the task has answered. -/
def elapse
    (bridge : Bridge)
    (call : Nat) : CallPoint → Option Bridge
  | .waitReady id =>
      match bridge.tasks[id]? with
      | none => none
      | some task =>
          if task.ready = .pending then
            some (bridge.goto call (.abortTask true))
          else none
  | _ => none

/-- The next access of a task. -/
def poll
    (bridge : Bridge)
    (id : Nat)
    (task : ProxyTask) : Option Bridge :=
  match task.point with
  | .storeRunning =>
      some ({ bridge with running := true }.setTask id
        { task with point := .bind })
  | .sendReady =>
      some (bridge.setTask id { task with point := .accept, ready := .sent })
  | .storeError =>
      some ({ bridge with status := .error }.setTask id
        { task with point := .clearRunning })
  | .clearRunning =>
      some ({ bridge with running := false }.setTask id
        { task with point := .ended })
  | _ => none

/-- The bind of a task answers.  It cannot succeed while another task holds the
port, and a task that fails drops its channel. -/
def bindAnswer
    (bridge : Bridge)
    (id : Nat)
    (task : ProxyTask)
    (ok : Bool) : Option Bridge :=
  if task.point ≠ .bind then none
  else if ok then
    if bridge.tasks.any ProxyTask.listens then none
    else some (bridge.setTask id { task with point := .sendReady, bound := true })
  else
    some (bridge.setTask id
      { task with point := .storeError, ready := task.ready.drop })

/-- The accept loop of a task fails, which closes the listener. -/
def acceptError
    (bridge : Bridge)
    (id : Nat)
    (task : ProxyTask) : Option Bridge :=
  if task.point = .accept then
    some (bridge.setTask id { task with point := .storeError })
  else none

/-- The abort of a task takes effect. -/
def cancel
    (bridge : Bridge)
    (id : Nat)
    (task : ProxyTask) : Option Bridge :=
  if task.aborted ∧ task.awaits then
    some (bridge.setTask id
      { task with point := .ended, ready := task.ready.drop })
  else none

/-- One step. -/
def step (bridge : Bridge) : Label → Option Bridge
  | .call function =>
      some { bridge with calls := bridge.calls ++ [function.entry] }
  | .advance call => (bridge.calls[call]?).bind (advance bridge call)
  | .elapse call => (bridge.calls[call]?).bind (elapse bridge call)
  | .poll id => (bridge.tasks[id]?).bind (poll bridge id)
  | .bindAnswer id ok =>
      (bridge.tasks[id]?).bind fun task => bindAnswer bridge id task ok
  | .acceptError id => (bridge.tasks[id]?).bind (acceptError bridge id)
  | .cancel id => (bridge.tasks[id]?).bind (cancel bridge id)

/-- Everything one step can do. -/
inductive Transition : Bridge → Label → Bridge → Prop
  | called {bridge} (function : ApiFunction) :
      Transition bridge (.call function)
        { bridge with calls := bridge.calls ++ [function.entry] }
  | alreadyRunning {bridge call}
      (reached : bridge.calls[call]? = some .loadRunning)
      (running : bridge.running = true) :
      Transition bridge (.advance call) (bridge.goto call (.returned 0))
  | notRunning {bridge call}
      (reached : bridge.calls[call]? = some .loadRunning)
      (idle : bridge.running = false) :
      Transition bridge (.advance call) (bridge.goto call .storeConnecting)
  | connecting {bridge call}
      (reached : bridge.calls[call]? = some .storeConnecting) :
      Transition bridge (.advance call)
        ({ bridge with status := .connecting }.goto call .spawn)
  | spawned {bridge call}
      (reached : bridge.calls[call]? = some .spawn) :
      Transition bridge (.advance call)
        ({ bridge with tasks := bridge.tasks ++ [ProxyTask.spawned] }.goto call
          (.storeHandle bridge.tasks.length))
  | stored {bridge call id}
      (reached : bridge.calls[call]? = some (.storeHandle id)) :
      Transition bridge (.advance call)
        ({ bridge with slot := some id }.goto call (.waitReady id))
  | answered {bridge call id task}
      (reached : bridge.calls[call]? = some (.waitReady id))
      (isTask : bridge.tasks[id]? = some task)
      (resolved : task.ready ≠ .pending) :
      Transition bridge (.advance call) (bridge.goto call .storeConnected)
  | connected {bridge call}
      (reached : bridge.calls[call]? = some .storeConnected) :
      Transition bridge (.advance call)
        ({ bridge with status := .connected }.goto call (.returned 0))
  | aborted {bridge call failed}
      (reached : bridge.calls[call]? = some (.abortTask failed)) :
      Transition bridge (.advance call)
        (bridge.abortSlot.goto call (.clearRunning failed))
  | cleared {bridge call failed}
      (reached : bridge.calls[call]? = some (.clearRunning failed)) :
      Transition bridge (.advance call)
        ({ bridge with running := false }.goto call (.storeStopped failed))
  | stopped {bridge call}
      (reached : bridge.calls[call]? = some (.storeStopped false)) :
      Transition bridge (.advance call)
        ({ bridge with status := .stopped }.goto call (.returned 0))
  | stoppedFailed {bridge call}
      (reached : bridge.calls[call]? = some (.storeStopped true)) :
      Transition bridge (.advance call)
        ({ bridge with status := .stopped }.goto call .storeError)
  | failed {bridge call}
      (reached : bridge.calls[call]? = some .storeError) :
      Transition bridge (.advance call)
        ({ bridge with status := .error }.goto call
          (.returned ProxyStatus.error.code))
  | elapsed {bridge call id task}
      (reached : bridge.calls[call]? = some (.waitReady id))
      (isTask : bridge.tasks[id]? = some task)
      (unresolved : task.ready = .pending) :
      Transition bridge (.elapse call) (bridge.goto call (.abortTask true))
  | taskStarts {bridge id task}
      (isTask : bridge.tasks[id]? = some task)
      (point : task.point = .storeRunning) :
      Transition bridge (.poll id)
        ({ bridge with running := true }.setTask id { task with point := .bind })
  | taskReady {bridge id task}
      (isTask : bridge.tasks[id]? = some task)
      (point : task.point = .sendReady) :
      Transition bridge (.poll id)
        (bridge.setTask id { task with point := .accept, ready := .sent })
  | taskErrs {bridge id task}
      (isTask : bridge.tasks[id]? = some task)
      (point : task.point = .storeError) :
      Transition bridge (.poll id)
        ({ bridge with status := .error }.setTask id
          { task with point := .clearRunning })
  | taskEnds {bridge id task}
      (isTask : bridge.tasks[id]? = some task)
      (point : task.point = .clearRunning) :
      Transition bridge (.poll id)
        ({ bridge with running := false }.setTask id
          { task with point := .ended })
  | bound {bridge id task}
      (isTask : bridge.tasks[id]? = some task)
      (point : task.point = .bind)
      (free : ∀ other ∈ bridge.tasks, other.listens = false) :
      Transition bridge (.bindAnswer id true)
        (bridge.setTask id { task with point := .sendReady, bound := true })
  | refused {bridge id task}
      (isTask : bridge.tasks[id]? = some task)
      (point : task.point = .bind) :
      Transition bridge (.bindAnswer id false)
        (bridge.setTask id
          { task with point := .storeError, ready := task.ready.drop })
  | acceptFails {bridge id task}
      (isTask : bridge.tasks[id]? = some task)
      (point : task.point = .accept) :
      Transition bridge (.acceptError id)
        (bridge.setTask id { task with point := .storeError })
  | cancelled {bridge id task}
      (isTask : bridge.tasks[id]? = some task)
      (isAborted : task.aborted = true)
      (awaits : task.awaits = true) :
      Transition bridge (.cancel id)
        (bridge.setTask id
          { task with point := .ended, ready := task.ready.drop })

/-- The next access of a call is one of the listed transitions. -/
theorem transition_of_advance
    {bridge next : Bridge}
    {call : Nat}
    {point : CallPoint}
    (reached : bridge.calls[call]? = some point)
    (advanced : advance bridge call point = some next) :
    Transition bridge (.advance call) next := by
  cases point with
  | loadRunning =>
      obtain rfl := Option.some.inj advanced
      split_ifs with running
      · exact .alreadyRunning reached running
      · exact .notRunning reached (Bool.eq_false_of_not_eq_true running)
  | storeConnecting =>
      obtain rfl := Option.some.inj advanced
      exact .connecting reached
  | spawn =>
      obtain rfl := Option.some.inj advanced
      exact .spawned reached
  | storeHandle id =>
      obtain rfl := Option.some.inj advanced
      exact .stored reached
  | waitReady id =>
      simp only [advance] at advanced
      split at advanced
      · contradiction
      · rename_i task isTask
        split_ifs at advanced with pending
        obtain rfl := Option.some.inj advanced
        exact .answered reached isTask pending
  | storeConnected =>
      obtain rfl := Option.some.inj advanced
      exact .connected reached
  | abortTask failed =>
      obtain rfl := Option.some.inj advanced
      exact .aborted reached
  | clearRunning failed =>
      obtain rfl := Option.some.inj advanced
      exact .cleared reached
  | storeStopped failed =>
      obtain rfl := Option.some.inj advanced
      cases failed with
      | false => exact .stopped reached
      | true => exact .stoppedFailed reached
  | storeError =>
      obtain rfl := Option.some.inj advanced
      exact .failed reached
  | returned code => cases advanced

/-- The next access of a task is one of the listed transitions. -/
theorem transition_of_poll
    {bridge next : Bridge}
    {id : Nat}
    {task : ProxyTask}
    (isTask : bridge.tasks[id]? = some task)
    (polled : poll bridge id task = some next) :
    Transition bridge (.poll id) next := by
  unfold poll at polled
  split at polled
  · rename_i point
    obtain rfl := Option.some.inj polled
    exact .taskStarts isTask point
  · rename_i point
    obtain rfl := Option.some.inj polled
    exact .taskReady isTask point
  · rename_i point
    obtain rfl := Option.some.inj polled
    exact .taskErrs isTask point
  · rename_i point
    obtain rfl := Option.some.inj polled
    exact .taskEnds isTask point
  · contradiction

/-- The answer to a bind is one of the listed transitions. -/
theorem transition_of_bindAnswer
    {bridge next : Bridge}
    {id : Nat}
    {task : ProxyTask}
    {ok : Bool}
    (isTask : bridge.tasks[id]? = some task)
    (answered : bindAnswer bridge id task ok = some next) :
    Transition bridge (.bindAnswer id ok) next := by
  unfold bindAnswer at answered
  split_ifs at answered with point isOk held
  · obtain rfl := Option.some.inj answered
    subst isOk
    refine .bound isTask (not_not.mp point) fun other member => ?_
    by_contra listens
    exact held (List.any_eq_true.mpr
      ⟨other, member, Bool.eq_true_of_not_eq_false listens⟩)
  · obtain rfl := Option.some.inj answered
    obtain rfl := Bool.eq_false_of_not_eq_true isOk
    exact .refused isTask (not_not.mp point)

/-- Every step is one of the listed transitions. -/
theorem transition_of_step
    {bridge next : Bridge}
    {label : Label}
    (stepped : step bridge label = some next) :
    Transition bridge label next := by
  cases label with
  | call function =>
      obtain rfl := Option.some.inj stepped
      exact .called function
  | advance call =>
      obtain ⟨point, reached, advanced⟩ := Option.bind_eq_some_iff.mp stepped
      exact transition_of_advance reached advanced
  | elapse call =>
      obtain ⟨point, reached, elapsed⟩ := Option.bind_eq_some_iff.mp stepped
      cases point with
      | waitReady id =>
          simp only [elapse] at elapsed
          split at elapsed
          · contradiction
          · rename_i task isTask
            split_ifs at elapsed with pending
            obtain rfl := Option.some.inj elapsed
            exact .elapsed reached isTask pending
      | _ => cases elapsed
  | poll id =>
      obtain ⟨task, isTask, polled⟩ := Option.bind_eq_some_iff.mp stepped
      exact transition_of_poll isTask polled
  | bindAnswer id ok =>
      obtain ⟨task, isTask, answered⟩ := Option.bind_eq_some_iff.mp stepped
      exact transition_of_bindAnswer isTask answered
  | acceptError id =>
      obtain ⟨task, isTask, failed⟩ := Option.bind_eq_some_iff.mp stepped
      unfold acceptError at failed
      split_ifs at failed with point
      obtain rfl := Option.some.inj failed
      exact .acceptFails isTask point
  | cancel id =>
      obtain ⟨task, isTask, cancelled⟩ := Option.bind_eq_some_iff.mp stepped
      unfold cancel at cancelled
      split_ifs at cancelled with due
      obtain rfl := Option.some.inj cancelled
      exact .cancelled isTask due.1 due.2

end Flutter
end GhostProtocol
