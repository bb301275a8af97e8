import GhostProtocol.Flutter.Bridge

/-!
# The tasks behind the bridge

An accept loop spawns a task for every connection.  The task of a TUN device
spawns one that writes its packets and one for every flow, which in turn spawns
a task for each direction.  The bridge keeps the handle of one accept loop and
of one TUN task.  The other handles are dropped, which leaves their tasks
running.
-/

namespace GhostProtocol
namespace Flutter

open Foundation

/-- The task of a connection, and the accept loop that has spawned it. -/
structure Tunnel where
  acceptor : Nat
  ended : Bool
  deriving DecidableEq, Repr

/-- The kinds of tasks behind a TUN device. -/
inductive TunKind
  | processor
  | tunWrite
  | session
  | socksToTun
  | dataToSocks
  deriving DecidableEq, Repr

/-- Whether a task can send packets to the task that writes them. -/
def TunKind.sends : TunKind → Bool
  | .processor => true
  | .session => true
  | .socksToTun => true
  | _ => false

/-- A task behind a TUN device, with the processor it descends from and the task
that has spawned it.  A processor is started when it reads from its device, a
session when it is connected to the proxy. -/
structure TunTask where
  kind : TunKind
  root : Nat
  parent : Nat
  started : Bool
  aborted : Bool
  ended : Bool
  deriving DecidableEq, Repr

/-- A task that has just been spawned. -/
def TunTask.spawned (kind : TunKind) (root parent : Nat) : TunTask where
  kind
  root
  parent
  started := false
  aborted := false
  ended := false

/-- The bridge and all the tasks behind it. -/
structure System where
  bridge : Bridge
  tunnels : List Tunnel
  tunSlot : Option Nat
  tunTasks : List TunTask
  deriving DecidableEq, Repr

/-- A new process. -/
def System.initial : System where
  bridge := Bridge.initial
  tunnels := []
  tunSlot := none
  tunTasks := []

/-- A step of the bridge, a call for a TUN device, or an event of a task. -/
inductive SystemLabel
  | proxy (label : Label)
  | accept (acceptor : Nat)
  | tunnelEnds (tunnel : Nat)
  | startTun (tunFd : Int)
  | stopTun
  | createProcessor (task : Nat) (ok : Bool)
  | openSession (task : Nat)
  | connectSession (task : Nat) (ok : Bool)
  | taskEnds (task : Nat)
  | cancelTun (task : Nat)
  deriving DecidableEq, Repr

/-- An accept loop accepts a connection. -/
def System.accept
    (system : System)
    (acceptor : Nat)
    (task : ProxyTask) : Option System :=
  if task.point = .accept then
    some { system with
      tunnels := system.tunnels ++ [{ acceptor, ended := false }] }
  else none

/-- A task becomes another, and spawns tasks. -/
def System.setTunTask
    (system : System)
    (id : Nat)
    (task : TunTask)
    (spawned : List TunTask) : System :=
  { system with tunTasks := system.tunTasks.set id task ++ spawned }

/-- Start a processor for a TUN device. -/
def System.startTun (system : System) (tunFd : Int) : System :=
  if tunFd < 0 then system
  else
    { system with
      tunSlot := some system.tunTasks.length
      tunTasks := system.tunTasks ++
        [TunTask.spawned .processor system.tunTasks.length
          system.tunTasks.length] }

/-- Take the handle of the processor out of its slot and abort it. -/
def System.stopTun (system : System) : System :=
  match system.tunSlot with
  | none => system
  | some id =>
      { system with
        tunSlot := none
        tunTasks := system.tunTasks.modify id fun task =>
          { task with aborted := true } }

/-- A processor opens its device and spawns the task that writes to it, or ends
with an error. -/
def System.createProcessor
    (system : System)
    (id : Nat)
    (task : TunTask)
    (ok : Bool) : Option System :=
  if task.kind = .processor ∧ task.started = false ∧ task.ended = false then
    if ok then
      some (system.setTunTask id { task with started := true }
        [TunTask.spawned .tunWrite task.root id])
    else some (system.setTunTask id { task with ended := true } [])
  else none

/-- A processor spawns the session of a new flow. -/
def System.openSession
    (system : System)
    (id : Nat)
    (task : TunTask) : Option System :=
  if task.kind = .processor ∧ task.started = true ∧ task.ended = false then
    some (system.setTunTask id task [TunTask.spawned .session task.root id])
  else none

/-- A session is connected and spawns a task for each direction, or ends with an
error. -/
def System.connectSession
    (system : System)
    (id : Nat)
    (task : TunTask)
    (ok : Bool) : Option System :=
  if task.kind = .session ∧ task.started = false ∧ task.ended = false then
    if ok then
      some (system.setTunTask id { task with started := true }
        [TunTask.spawned .socksToTun task.root id,
          TunTask.spawned .dataToSocks task.root id])
    else some (system.setTunTask id { task with ended := true } [])
  else none

/-- Whether a task can end by itself.  The task that writes packets ends when
nobody can send any, a session when one of its directions ends, and a direction
at any time.  A processor waits for the writing task, which waits for it. -/
def System.canEnd (system : System) (id : Nat) (task : TunTask) : Bool :=
  match task.kind with
  | .processor => false
  | .tunWrite => system.tunTasks.all fun other =>
      other.root ≠ task.root || !other.kind.sends || other.ended
  | .session => task.started &&
      system.tunTasks.any fun other => other.parent = id && other.ended
  | .socksToTun => true
  | .dataToSocks => true

/-- A task ends by itself. -/
def System.taskEnds
    (system : System)
    (id : Nat)
    (task : TunTask) : Option System :=
  if task.ended = false ∧ system.canEnd id task = true then
    some (system.setTunTask id { task with ended := true } [])
  else none

/-- The abort of a processor takes effect. -/
def System.cancelTun
    (system : System)
    (id : Nat)
    (task : TunTask) : Option System :=
  if task.aborted = true ∧ task.ended = false then
    some (system.setTunTask id { task with ended := true } [])
  else none

/-- One step. -/
def System.step (system : System) : SystemLabel → Option System
  | .proxy label =>
      (Flutter.step system.bridge label).map fun bridge =>
        { system with bridge }
  | .accept acceptor =>
      (system.bridge.tasks[acceptor]?).bind (system.accept acceptor)
  | .tunnelEnds tunnel =>
      some { system with
        tunnels := system.tunnels.modify tunnel fun tunnel =>
          { tunnel with ended := true } }
  | .startTun tunFd => some (system.startTun tunFd)
  | .stopTun => some system.stopTun
  | .createProcessor id ok =>
      (system.tunTasks[id]?).bind fun task => system.createProcessor id task ok
  | .openSession id => (system.tunTasks[id]?).bind (system.openSession id)
  | .connectSession id ok =>
      (system.tunTasks[id]?).bind fun task => system.connectSession id task ok
  | .taskEnds id => (system.tunTasks[id]?).bind (system.taskEnds id)
  | .cancelTun id => (system.tunTasks[id]?).bind (system.cancelTun id)

/-! ## What a step does -/

/-- What a step of a task behind a TUN device does: the task stays aborted or
ended if it was, and the tasks it spawns descend from the same processor. -/
structure TunStep
    (system next : System)
    (id : Nat)
    (spawned : List TunTask) : Prop where
  bridge : next.bridge = system.bridge
  tunnels : next.tunnels = system.tunnels
  tasks : ∃ task changed, system.tunTasks[id]? = some task ∧
    next.tunTasks = system.tunTasks.set id changed ++ spawned ∧
    changed.root = task.root ∧
    (task.aborted = true → changed.aborted = true) ∧
    (task.ended = true → changed.ended = true) ∧
    ∀ child ∈ spawned, child.root = task.root ∧ task.ended = false

/-- A task that ends spawns nothing. -/
theorem tunStep_ended
    {system : System}
    {id : Nat}
    {task : TunTask}
    (isTask : system.tunTasks[id]? = some task) :
    TunStep system (system.setTunTask id { task with ended := true } []) id []
    where
  bridge := rfl
  tunnels := rfl
  tasks := ⟨task, _, isTask, rfl, rfl, fun same => same, fun _ => rfl,
    fun _ member => (List.not_mem_nil member).elim⟩

/-- A task that has not ended may spawn tasks. -/
theorem tunStep_spawned
    {system : System}
    {id : Nat}
    {task : TunTask}
    (isTask : system.tunTasks[id]? = some task)
    (running : task.ended = false)
    (started : Bool)
    {spawned : List TunTask}
    (children : ∀ child ∈ spawned, child.root = task.root) :
    TunStep system (system.setTunTask id { task with started } spawned) id
      spawned where
  bridge := rfl
  tunnels := rfl
  tasks := ⟨task, _, isTask, rfl, rfl, fun same => same, fun same => same,
    fun child member => ⟨children child member, running⟩⟩

/-- The task behind a TUN device that an event is about. -/
def SystemLabel.tunTask : SystemLabel → Option Nat
  | .createProcessor id _ => some id
  | .openSession id => some id
  | .connectSession id _ => some id
  | .taskEnds id => some id
  | .cancelTun id => some id
  | _ => none

/-- Whether an event lets a task behind a TUN device spawn tasks. -/
def SystemLabel.spawns : SystemLabel → Bool
  | .createProcessor _ _ => true
  | .openSession _ => true
  | .connectSession _ _ => true
  | _ => false

/-- An event of a task behind a TUN device is a step of that task. -/
theorem tunStep_of_step
    {system next : System}
    {label : SystemLabel}
    {id : Nat}
    (about : label.tunTask = some id)
    (stepped : system.step label = some next) :
    ∃ spawned, TunStep system next id spawned ∧
      (label.spawns = false → spawned = []) := by
  cases label with
  | createProcessor other ok =>
      obtain rfl := Option.some.inj about
      obtain ⟨task, isTask, created⟩ := Option.bind_eq_some_iff.mp stepped
      unfold System.createProcessor at created
      split_ifs at created with enabled isOk
      · obtain rfl := Option.some.inj created
        refine ⟨_, tunStep_spawned isTask enabled.2.2 true ?_, Bool.noConfusion⟩
        intro child member
        rw [List.mem_singleton.mp member]
        rfl
      · obtain rfl := Option.some.inj created
        exact ⟨[], tunStep_ended isTask, fun _ => rfl⟩
  | openSession other =>
      obtain rfl := Option.some.inj about
      obtain ⟨task, isTask, opened⟩ := Option.bind_eq_some_iff.mp stepped
      unfold System.openSession at opened
      split_ifs at opened with enabled
      obtain rfl := Option.some.inj opened
      refine ⟨_, tunStep_spawned isTask enabled.2.2 task.started ?_,
        Bool.noConfusion⟩
      intro child member
      rw [List.mem_singleton.mp member]
      rfl
  | connectSession other ok =>
      obtain rfl := Option.some.inj about
      obtain ⟨task, isTask, connected⟩ := Option.bind_eq_some_iff.mp stepped
      unfold System.connectSession at connected
      split_ifs at connected with enabled isOk
      · obtain rfl := Option.some.inj connected
        refine ⟨_, tunStep_spawned isTask enabled.2.2 true ?_, Bool.noConfusion⟩
        intro child member
        rcases List.mem_cons.mp member with rfl | member
        · rfl
        · rw [List.mem_singleton.mp member]
          rfl
      · obtain rfl := Option.some.inj connected
        exact ⟨[], tunStep_ended isTask, fun _ => rfl⟩
  | taskEnds other =>
      obtain rfl := Option.some.inj about
      obtain ⟨task, isTask, ended⟩ := Option.bind_eq_some_iff.mp stepped
      unfold System.taskEnds at ended
      split_ifs at ended
      obtain rfl := Option.some.inj ended
      exact ⟨[], tunStep_ended isTask, fun _ => rfl⟩
  | cancelTun other =>
      obtain rfl := Option.some.inj about
      obtain ⟨task, isTask, cancelled⟩ := Option.bind_eq_some_iff.mp stepped
      unfold System.cancelTun at cancelled
      split_ifs at cancelled
      obtain rfl := Option.some.inj cancelled
      exact ⟨[], tunStep_ended isTask, fun _ => rfl⟩
  | proxy label => cases about
  | accept acceptor => cases about
  | tunnelEnds tunnel => cases about
  | startTun tunFd => cases about
  | stopTun => cases about

end Flutter
end GhostProtocol
