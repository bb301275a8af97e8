import GhostProtocol.Flutter.System

/-!
# The VPN service of the Android app

The service establishes a TUN interface, holds its descriptor and lets the Rust
library process its packets.  The system calls it to connect, to disconnect, when
the permission is revoked and when it is destroyed, one after the other, while the
tasks of the library go on by themselves.  An exception that leaves one of these
calls ends the process.
-/

namespace GhostProtocol
namespace Flutter

open Foundation

/-- A descriptor of an interface that was established, and how often it was
closed. -/
structure ParcelFileDescriptor where
  fd : Int
  closes : Nat
  deriving DecidableEq, Repr

/-- How the attempt to establish an interface ends. -/
inductive Established
  | threw
  | null
  | descriptor (fd : Int)
  deriving DecidableEq, Repr

/-- What a start finds: whether the service may come to the foreground, whether
an interface is established, and whether the library can be loaded at the first
and at the second attempt. -/
structure StartContext where
  foreground : Bool
  established : Established
  loads : Bool
  loadsAgain : Bool
  deriving DecidableEq, Repr

/-- The service, with the descriptors established so far and the library in the
same process. -/
structure RelizVpnService where
  tun : Option Nat
  running : Bool
  foreground : Bool
  loaded : Bool
  crashed : Bool
  descriptors : List ParcelFileDescriptor
  system : System
  deriving DecidableEq, Repr

namespace RelizVpnService

/-- The service in a new process. -/
def initial : RelizVpnService where
  tun := none
  running := false
  foreground := false
  loaded := false
  crashed := false
  descriptors := []
  system := System.initial

/-- Make sure that the library is loaded. -/
def ensureLoaded (self : RelizVpnService) (loads : Bool) : RelizVpnService :=
  { self with loaded := self.loaded || loads }

/-- Close the descriptor, if there is one. -/
def closeTun (self : RelizVpnService) : RelizVpnService :=
  match self.tun with
  | none => self
  | some id =>
      { self with
        tun := none
        descriptors := self.descriptors.modify id fun descriptor =>
          { descriptor with closes := descriptor.closes + 1 } }

/-- Stop the VPN.  A library that does not export the function makes the call
throw, which is ignored here. -/
def stopVpn
    (linked : Bool)
    (loads : Bool)
    (self : RelizVpnService) : RelizVpnService :=
  let self := { self with running := false }.ensureLoaded loads
  let self :=
    if self.loaded && linked then { self with system := self.system.stopTun }
    else self
  { self.closeTun with foreground := false }

/-- The result of starting the processing of packets. -/
def startTunResult (tunFd : Int) : Int :=
  if tunFd < 0 then -1 else 0

/-- Hold the descriptor of a new interface. -/
def holdTun (self : RelizVpnService) (fd : Int) : RelizVpnService :=
  { self with
    tun := some self.descriptors.length
    descriptors := self.descriptors ++ [{ fd, closes := 0 }]
    running := true }

/-- Let the library process the packets of a new interface. -/
def processTun
    (linked : Bool)
    (context : StartContext)
    (fd : Int)
    (self : RelizVpnService) : RelizVpnService :=
  let self := (self.holdTun fd).ensureLoaded context.loads
  if self.loaded then
    if linked then
      let self := { self with system := self.system.startTun fd }
      if startTunResult fd ≠ 0 then self.stopVpn linked context.loadsAgain
      else self
    else { self with crashed := true }
  else self.stopVpn linked context.loadsAgain

/-- Start the VPN, unless it is running. -/
def startVpn
    (linked : Bool)
    (context : StartContext)
    (self : RelizVpnService) : RelizVpnService :=
  if self.running then self
  else if !context.foreground then { self with crashed := true }
  else
    let self := { self with foreground := true }
    match context.established with
    | .threw => { self with crashed := true }
    | .null => self.stopVpn linked context.loads
    | .descriptor fd => self.processTun linked context fd

/-- What happens next: a command, which is to connect if it is not to
disconnect, the end of the permission or of the service, or an event of the
library. -/
inductive Event
  | connect (context : StartContext)
  | disconnect (loads : Bool)
  | revoke (loads : Bool)
  | destroy (loads : Bool)
  | library (label : SystemLabel)
  deriving DecidableEq, Repr

/-- The service alone starts and stops the processing of packets. -/
def isOwn : SystemLabel → Bool
  | .startTun _ => true
  | .stopTun => true
  | _ => false

/-- One event. -/
def step
    (linked : Bool)
    (self : RelizVpnService)
    (event : Event) : Option RelizVpnService :=
  if self.crashed then none
  else
    match event with
    | .connect context => some (self.startVpn linked context)
    | .disconnect loads => some (self.stopVpn linked loads)
    | .revoke loads => some (self.stopVpn linked loads)
    | .destroy loads => some (self.stopVpn linked loads)
    | .library label =>
        if isOwn label then none
        else (self.system.step label).map fun system => { self with system }

/-! ## The tasks of the library -/

/-- Of the processors that have been spawned all but the one whose handle is
stored have been aborted. -/
def ProcessorsTracked (system : System) : Prop :=
  ∀ (id : Nat) (task : TunTask), system.tunTasks[id]? = some task →
    task.kind = .processor → task.aborted = true ∨ system.tunSlot = some id

/-- Tracking goes on when tasks keep their kind and stay aborted and no
processor is spawned. -/
theorem ProcessorsTracked.setTunTask
    {system : System}
    (tracked : ProcessorsTracked system)
    {id : Nat}
    {task changed : TunTask}
    {spawned : List TunTask}
    (isTask : system.tunTasks[id]? = some task)
    (kind : changed.kind = task.kind)
    (aborted : changed.aborted = task.aborted)
    (others : .processor ∉ spawned.map TunTask.kind) :
    ProcessorsTracked (system.setTunTask id changed spawned) := by
  intro other after found isProcessor
  change (system.tunTasks.set id changed ++ spawned)[other]? = some after
    at found
  rw [List.getElem?_append] at found
  split_ifs at found with inside
  · rw [List.getElem?_set] at found
    split_ifs at found with same bound
    · subst same
      obtain rfl := Option.some.inj found
      rw [kind] at isProcessor
      rw [aborted]
      exact tracked id task isTask isProcessor
    · exact tracked other after found isProcessor
  · exact absurd (List.mem_map.mpr
      ⟨after, List.mem_of_getElem? found, isProcessor⟩) others

/-- An event of the library besides starts and stops keeps the handle and the
tracking. -/
theorem tracked_of_step
    {system next : System}
    {label : SystemLabel}
    (notOwn : isOwn label = false)
    (stepped : system.step label = some next)
    (tracked : ProcessorsTracked system) :
    next.tunSlot = system.tunSlot ∧ ProcessorsTracked next := by
  cases label with
  | proxy label =>
      obtain ⟨bridge, -, rfl⟩ := Option.map_eq_some_iff.mp stepped
      exact ⟨rfl, tracked⟩
  | accept acceptor =>
      obtain ⟨task, -, accepted⟩ := Option.bind_eq_some_iff.mp stepped
      unfold System.accept at accepted
      split_ifs at accepted
      obtain rfl := Option.some.inj accepted
      exact ⟨rfl, tracked⟩
  | tunnelEnds tunnel =>
      obtain rfl := Option.some.inj stepped
      exact ⟨rfl, tracked⟩
  | startTun tunFd => cases notOwn
  | stopTun => cases notOwn
  | createProcessor id ok =>
      obtain ⟨task, isTask, created⟩ := Option.bind_eq_some_iff.mp stepped
      unfold System.createProcessor at created
      split_ifs at created
      all_goals obtain rfl := Option.some.inj created
      · exact ⟨rfl, tracked.setTunTask isTask rfl rfl
          (by simp [TunTask.spawned])⟩
      · exact ⟨rfl, tracked.setTunTask isTask rfl rfl List.not_mem_nil⟩
  | openSession id =>
      obtain ⟨task, isTask, opened⟩ := Option.bind_eq_some_iff.mp stepped
      unfold System.openSession at opened
      split_ifs at opened
      obtain rfl := Option.some.inj opened
      exact ⟨rfl, tracked.setTunTask isTask rfl rfl
        (by simp [TunTask.spawned])⟩
  | connectSession id ok =>
      obtain ⟨task, isTask, connected⟩ := Option.bind_eq_some_iff.mp stepped
      unfold System.connectSession at connected
      split_ifs at connected
      all_goals obtain rfl := Option.some.inj connected
      · exact ⟨rfl, tracked.setTunTask isTask rfl rfl
          (by simp [TunTask.spawned])⟩
      · exact ⟨rfl, tracked.setTunTask isTask rfl rfl List.not_mem_nil⟩
  | taskEnds id =>
      obtain ⟨task, isTask, ended⟩ := Option.bind_eq_some_iff.mp stepped
      unfold System.taskEnds at ended
      split_ifs at ended
      obtain rfl := Option.some.inj ended
      exact ⟨rfl, tracked.setTunTask isTask rfl rfl List.not_mem_nil⟩
  | cancelTun id =>
      obtain ⟨task, isTask, cancelled⟩ := Option.bind_eq_some_iff.mp stepped
      unfold System.cancelTun at cancelled
      split_ifs at cancelled
      obtain rfl := Option.some.inj cancelled
      exact ⟨rfl, tracked.setTunTask isTask rfl rfl List.not_mem_nil⟩

/-- A start without a stored handle is tracked. -/
theorem ProcessorsTracked.startTun
    {system : System}
    (tracked : ProcessorsTracked system)
    (empty : system.tunSlot = none)
    (tunFd : Int) :
    ProcessorsTracked (system.startTun tunFd) := by
  unfold System.startTun
  split_ifs with negative
  · exact tracked
  · intro id task found isProcessor
    by_cases isNew : id = system.tunTasks.length
    · exact .inr (congrArg some isNew.symm)
    · have inside : id < system.tunTasks.length := by
        have bound := (List.getElem?_eq_some_iff.mp found).1
        rw [List.length_append, List.length_singleton] at bound
        omega
      rw [List.getElem?_append_left inside] at found
      rcases tracked id task found isProcessor with aborted | stored
      · exact .inl aborted
      · rw [empty] at stored
        cases stored

/-- A stop leaves no handle, and every processor aborted. -/
theorem ProcessorsTracked.stopTun
    {system : System}
    (tracked : ProcessorsTracked system) :
    system.stopTun.tunSlot = none ∧ ProcessorsTracked system.stopTun := by
  unfold System.stopTun
  cases stored : system.tunSlot with
  | none => exact ⟨stored, tracked⟩
  | some slot =>
      refine ⟨rfl, fun id task found isProcessor => .inl ?_⟩
      rw [List.getElem?_modify] at found
      obtain ⟨old, isOld, rfl⟩ := Option.map_eq_some_iff.mp found
      split_ifs at isProcessor ⊢ with same
      · rfl
      · rcases tracked id old isOld isProcessor with aborted | isSlot
        · exact aborted
        · rw [stored] at isSlot
          exact absurd (Option.some.inj isSlot) same

/-! ## The service -/

/-- The descriptor that is held is open, and every other one has been closed
once. -/
def DescriptorsClosed (self : RelizVpnService) : Prop :=
  ∀ (id : Nat) (descriptor : ParcelFileDescriptor),
    self.descriptors[id]? = some descriptor →
      descriptor.closes = if self.tun = some id then 0 else 1

/-- A service that lives is in the foreground and holds a descriptor if and only
if it runs, which needs a linked library.  The library processes packets if and
only if the service runs, and no processor has been lost. -/
structure Sound (linked : Bool) (service : RelizVpnService) : Prop where
  holds : service.tun.isSome = service.running
  shown : service.foreground = service.running
  closed : service.DescriptorsClosed
  processing : service.system.tunSlot.isSome = service.running
  needs : service.running = true → service.loaded = true ∧ linked = true
  tracked : ProcessorsTracked service.system

/-- What a stop needs: the descriptors are accounted for, and a handle is stored
only if the library can be called. -/
structure Stoppable (linked : Bool) (service : RelizVpnService) : Prop where
  closed : service.DescriptorsClosed
  callable : service.system.tunSlot.isSome = true →
    service.loaded = true ∧ linked = true
  tracked : ProcessorsTracked service.system

/-- A sound service can be stopped. -/
theorem Sound.stoppable
    {linked : Bool}
    {self : RelizVpnService}
    (sound : self.Sound linked) : self.Stoppable linked where
  closed := sound.closed
  callable stored := sound.needs (sound.processing ▸ stored)
  tracked := sound.tracked

/-- Closing leaves no open descriptor. -/
theorem closeTun_closed
    {self : RelizVpnService}
    (closed : self.DescriptorsClosed) :
    self.closeTun.tun = none ∧ self.closeTun.DescriptorsClosed := by
  unfold closeTun
  cases held : self.tun with
  | none => exact ⟨held, closed⟩
  | some tun =>
      refine ⟨rfl, fun id descriptor found => ?_⟩
      rw [List.getElem?_modify] at found
      obtain ⟨old, isOld, rfl⟩ := Option.map_eq_some_iff.mp found
      have before := closed id old isOld
      rw [held] at before
      change _ = 1
      by_cases same : tun = id
      · rw [if_pos (congrArg some same)] at before
        rw [if_pos same]
        exact congrArg (· + 1) before
      · rw [if_neg fun equal => same (Option.some.inj equal)] at before
        rw [if_neg same]
        exact before

/-- What a stop leaves. -/
theorem stopVpn_eq
    (linked loads : Bool)
    (self : RelizVpnService) :
    self.stopVpn linked loads = {
      tun := none
      running := false
      foreground := false
      loaded := self.loaded || loads
      crashed := self.crashed
      descriptors := self.closeTun.descriptors
      system :=
        if (self.loaded || loads) && linked then self.system.stopTun
        else self.system } := by
  unfold stopVpn ensureLoaded closeTun
  dsimp only
  split_ifs
  all_goals cases self.tun <;> rfl

/-- A service that is stopped is sound. -/
theorem Stoppable.stopVpn
    {linked : Bool}
    {service : RelizVpnService}
    (stoppable : service.Stoppable linked)
    (loads : Bool) :
    (service.stopVpn linked loads).Sound linked := by
  obtain ⟨noTun, closed⟩ := closeTun_closed stoppable.closed
  have slot : (if (service.loaded || loads) && linked
      then service.system.stopTun else service.system).tunSlot = none := by
    split_ifs with callable
    · exact stoppable.tracked.stopTun.1
    · refine Option.not_isSome_iff_eq_none.mp fun stored => callable ?_
      obtain ⟨loaded, isLinked⟩ := stoppable.callable stored
      rw [loaded, isLinked]
      rfl
  have tracked : ProcessorsTracked (if (service.loaded || loads) && linked
      then service.system.stopTun else service.system) := by
    split_ifs with callable
    · exact stoppable.tracked.stopTun.2
    · exact stoppable.tracked
  rw [stopVpn_eq]
  exact {
    holds := rfl
    shown := rfl
    closed := fun id descriptor found => by
      have once := closed id descriptor found
      rw [noTun] at once
      exact once
    processing := by
      dsimp only
      rw [slot]
      rfl
    needs := nofun
    tracked }

/-- A descriptor that is held in addition is accounted for. -/
theorem DescriptorsClosed.holdTun
    {service : RelizVpnService}
    (closed : service.DescriptorsClosed)
    (noTun : service.tun = none)
    (fd : Int) :
    (service.holdTun fd).DescriptorsClosed := by
  intro id descriptor found
  change (service.descriptors ++ [_])[id]? = some descriptor at found
  change _ = if some service.descriptors.length = some id then 0 else 1
  rw [List.getElem?_append] at found
  split_ifs at found with inside
  · have old := closed id descriptor found
    rw [noTun] at old
    rw [if_neg fun same => Nat.ne_of_gt inside (Option.some.inj same), old]
    rfl
  · obtain ⟨bound, isNew⟩ := List.getElem?_eq_some_iff.mp found
    rw [List.length_singleton] at bound
    rw [if_pos (congrArg some (by omega)), ← isNew, List.getElem_singleton]

/-- The processing of a new interface leaves a sound service, unless it ends the
process. -/
theorem Stoppable.processTun
    {linked : Bool}
    {service : RelizVpnService}
    (stoppable : service.Stoppable linked)
    (noTun : service.tun = none)
    (noSlot : service.system.tunSlot = none)
    (shown : service.foreground = true)
    (context : StartContext)
    (fd : Int) :
    (service.processTun linked context fd).crashed = true ∨
      (service.processTun linked context fd).Sound linked := by
  have held := stoppable.closed.holdTun noTun fd
  unfold RelizVpnService.processTun
  by_cases loaded : (service.loaded || context.loads) = true
  · dsimp only
    rw [if_pos (show ((service.holdTun fd).ensureLoaded
      context.loads).loaded = true from loaded)]
    cases linked with
    | false => exact .inl rfl
    | true =>
      rw [if_pos rfl]
      by_cases negative : fd < 0
      · rw [if_pos (show startTunResult fd ≠ 0 by simp [startTunResult, negative])]
        refine .inr (Stoppable.stopVpn ?_ context.loadsAgain)
        exact {
          closed := held
          callable := fun _ => ⟨loaded, rfl⟩
          tracked := stoppable.tracked.startTun noSlot fd }
      · rw [if_neg (show ¬startTunResult fd ≠ 0 by simp [startTunResult, negative])]
        have started : (service.system.startTun fd).tunSlot.isSome = true := by
          unfold System.startTun
          rw [if_neg negative]
          rfl
        exact .inr {
          holds := rfl
          shown := shown
          closed := held
          processing := started
          needs := fun _ => ⟨loaded, rfl⟩
          tracked := stoppable.tracked.startTun noSlot fd }
  · dsimp only
    rw [if_neg (show ¬((service.holdTun fd).ensureLoaded
      context.loads).loaded = true from loaded)]
    refine .inr (Stoppable.stopVpn ?_ context.loadsAgain)
    exact {
      closed := held
      callable := fun stored => by
        rw [show ((service.holdTun fd).ensureLoaded
          context.loads).system.tunSlot = none from noSlot] at stored
        cases stored
      tracked := stoppable.tracked }

/-- A start leaves a sound service, unless it ends the process. -/
theorem Sound.startVpn
    {linked : Bool}
    {service : RelizVpnService}
    (sound : service.Sound linked)
    (context : StartContext) :
    (service.startVpn linked context).crashed = true ∨
      (service.startVpn linked context).Sound linked := by
  unfold RelizVpnService.startVpn
  by_cases running : service.running = true
  · rw [if_pos running]
    exact .inr sound
  rw [if_neg running]
  by_cases refused : (!context.foreground) = true
  · rw [if_pos refused]
    exact .inl rfl
  rw [if_neg refused]
  have stopped : service.running = false := Bool.eq_false_of_not_eq_true running
  have noTun : service.tun = none := by
    have holds := sound.holds
    rw [stopped] at holds
    exact Option.not_isSome_iff_eq_none.mp (by simp [holds])
  have noSlot : service.system.tunSlot = none := by
    have processing := sound.processing
    rw [stopped] at processing
    exact Option.not_isSome_iff_eq_none.mp (by simp [processing])
  cases context.established with
  | threw => exact .inl rfl
  | null =>
      refine .inr (Stoppable.stopVpn ?_ context.loads)
      exact ⟨sound.closed, sound.stoppable.callable, sound.tracked⟩
  | descriptor fd =>
      have stoppable :
          Stoppable linked { service with foreground := true } :=
        ⟨sound.closed, sound.stoppable.callable, sound.tracked⟩
      exact stoppable.processTun noTun noSlot rfl context fd

/-- An event leaves a sound service, unless it ends the process. -/
theorem Sound.step
    {linked : Bool}
    {service next : RelizVpnService}
    {event : Event}
    (sound : service.Sound linked)
    (stepped : service.step linked event = some next) :
    next.crashed = true ∨ next.Sound linked := by
  unfold RelizVpnService.step at stepped
  split_ifs at stepped
  cases event with
  | connect context =>
      obtain rfl := Option.some.inj stepped
      exact sound.startVpn context
  | disconnect loads =>
      obtain rfl := Option.some.inj stepped
      exact .inr (sound.stoppable.stopVpn loads)
  | revoke loads =>
      obtain rfl := Option.some.inj stepped
      exact .inr (sound.stoppable.stopVpn loads)
  | destroy loads =>
      obtain rfl := Option.some.inj stepped
      exact .inr (sound.stoppable.stopVpn loads)
  | library label =>
      dsimp only at stepped
      split_ifs at stepped with own
      obtain ⟨system, moved, rfl⟩ := Option.map_eq_some_iff.mp stepped
      obtain ⟨slot, tracked⟩ :=
        tracked_of_step (Bool.eq_false_of_not_eq_true own) moved sound.tracked
      exact .inr {
        holds := sound.holds
        shown := sound.shown
        closed := sound.closed
        processing := slot ▸ sound.processing
        needs := sound.needs
        tracked }

/-- A new service is sound. -/
theorem sound_initial (linked : Bool) : initial.Sound linked where
  holds := rfl
  shown := rfl
  closed id descriptor found := by
    cases found
  processing := rfl
  needs := Bool.noConfusion
  tracked id task found := by
    cases found

/-- A run ends the process or leaves a sound service. -/
theorem crashed_or_sound
    {linked : Bool}
    {events : List Event}
    {final : RelizVpnService}
    (ran : Run.run (step linked) initial events = some final) :
    final.crashed = true ∨ final.Sound linked := by
  refine Run.invariant_of_step
    (fun service => service.crashed = true ∨ service.Sound linked)
    ?_ (.inr (sound_initial linked)) ran
  intro service event next invariant stepped
  rcases invariant with crashed | sound
  · unfold step at stepped
    rw [if_pos crashed] at stepped
    cases stepped
  · exact sound.step stepped

/-- In every run of the service that has not ended the process, it is in the
foreground, holds an interface and lets the library process its packets if and
only if it is running, every other interface has been closed exactly once, and
every processor but the stored one has been aborted. -/
theorem sound_of_run
    {linked : Bool}
    {events : List Event}
    {final : RelizVpnService}
    (ran : Run.run (step linked) initial events = some final)
    (lives : final.crashed = false) :
    final.Sound linked := by
  rcases crashed_or_sound ran with crashed | sound
  · rw [lives] at crashed
    cases crashed
  · exact sound

/-- A start whose interface gets a descriptor. -/
def connects (fd : Int) : Event :=
  .connect {
    foreground := true
    established := .descriptor fd
    loads := true
    loadsAgain := true }

/-- A service that connects twice with a stop in between and whose permission is
revoked. -/
def reconnected : List Event :=
  [connects 7, .library (.createProcessor 0 true), .disconnect true, connects 8,
    .revoke true, .destroy true]

/-- The service in the end. -/
def afterReconnects : RelizVpnService :=
  { initial with
    loaded := true
    descriptors := [{ fd := 7, closes := 1 }, { fd := 8, closes := 1 }]
    system := { System.initial with
      tunTasks :=
        [{ kind := .processor, root := 0, parent := 0, started := true,
           aborted := true, ended := false },
          TunTask.spawned .tunWrite 0 0,
          { TunTask.spawned .processor 2 2 with aborted := true }] } }

/-- That service has closed both of its interfaces. -/
theorem sound_of_run_reconnected : afterReconnects.Sound true :=
  sound_of_run (show Run.run (step true) initial reconnected =
    some afterReconnects from rfl) rfl

/-! ## The library as it is built -/

/-- The symbol of a native method without an underscore in its name. -/
def jniSymbol (className methodName : String) : String :=
  "Java_" ++ className ++ "_" ++ methodName

/-- The class that declares the native methods, as it stands in a symbol. -/
def ghostTunBridge : String := "com_example_reliz_1protocol_GhostTunBridge"

/-- The functions that are exported under their own names for the service. -/
def tunExports : List String := ["ghost_tun_start", "ghost_tun_stop"]

/-- Whether a library with these exports in addition has the method that starts
the processing of packets. -/
def isLinked (generated : List String) : Bool :=
  (tunExports ++ generated).contains (jniSymbol ghostTunBridge "startTun")

/-- Exports that are no native methods do not link the service. -/
theorem not_isLinked
    {generated : List String}
    (others : ∀ className methodName,
      jniSymbol className methodName ∉ generated) :
    isLinked generated = false := by
  refine Bool.eq_false_of_not_eq_true fun linked => ?_
  rcases List.mem_append.mp (List.contains_iff_mem.mp linked)
    with own | isGenerated
  · exact absurd own (by decide)
  · exact others _ _ isGenerated

/-- Without a linked library a stop does not reach it. -/
theorem system_stopVpn
    (loads : Bool)
    (service : RelizVpnService) :
    (service.stopVpn false loads).system = service.system := by
  rw [stopVpn_eq]
  exact if_neg (by simp)

/-- Without a linked library a start does not reach it. -/
theorem system_startVpn
    (context : StartContext)
    (service : RelizVpnService) :
    (service.startVpn false context).system = service.system := by
  unfold startVpn
  split_ifs
  · rfl
  · rfl
  · cases context.established with
    | threw => rfl
    | null => exact system_stopVpn context.loads _
    | descriptor fd =>
      change RelizVpnService.system (if _ then if false = true then _ else _
        else stopVpn _ _ _) = _
      rw [if_neg Bool.false_ne_true]
      split_ifs
      · rfl
      · exact system_stopVpn context.loadsAgain _

/-- No event but a start spawns the first task of a TUN device. -/
theorem tunTasks_of_systemStep
    {system next : System}
    {label : SystemLabel}
    (notOwn : isOwn label = false)
    (noTask : system.tunTasks = [])
    (stepped : system.step label = some next) :
    next.tunTasks = [] := by
  cases label with
  | proxy label =>
      obtain ⟨bridge, -, rfl⟩ := Option.map_eq_some_iff.mp stepped
      exact noTask
  | accept acceptor =>
      obtain ⟨task, -, accepted⟩ := Option.bind_eq_some_iff.mp stepped
      unfold System.accept at accepted
      split_ifs at accepted
      obtain rfl := Option.some.inj accepted
      exact noTask
  | tunnelEnds tunnel =>
      obtain rfl := Option.some.inj stepped
      exact noTask
  | startTun tunFd => cases notOwn
  | stopTun => cases notOwn
  | createProcessor id ok => simp [System.step, noTask] at stepped
  | openSession id => simp [System.step, noTask] at stepped
  | connectSession id ok => simp [System.step, noTask] at stepped
  | taskEnds id => simp [System.step, noTask] at stepped
  | cancelTun id => simp [System.step, noTask] at stepped

/-- Without a linked library no task of a TUN device is spawned. -/
theorem tunTasks_of_step
    {service next : RelizVpnService}
    {event : Event}
    (noTask : service.system.tunTasks = [])
    (stepped : service.step false event = some next) :
    next.system.tunTasks = [] := by
  unfold step at stepped
  split_ifs at stepped
  cases event with
  | connect context =>
      obtain rfl := Option.some.inj stepped
      rw [system_startVpn]
      exact noTask
  | disconnect loads =>
      obtain rfl := Option.some.inj stepped
      rw [system_stopVpn]
      exact noTask
  | revoke loads =>
      obtain rfl := Option.some.inj stepped
      rw [system_stopVpn]
      exact noTask
  | destroy loads =>
      obtain rfl := Option.some.inj stepped
      rw [system_stopVpn]
      exact noTask
  | library label =>
      dsimp only at stepped
      split_ifs at stepped with own
      obtain ⟨system, moved, rfl⟩ := Option.map_eq_some_iff.mp stepped
      exact tunTasks_of_systemStep (Bool.eq_false_of_not_eq_true own) noTask
        moved

/-- As the library is built, the service never lets it process a packet, and it
is running in no process that lives: the first start that gets an interface and
a library ends the process. -/
theorem neverProcesses_of_run
    {generated : List String}
    {events : List Event}
    {final : RelizVpnService}
    (others : ∀ className methodName,
      jniSymbol className methodName ∉ generated)
    (ran : Run.run (step (isLinked generated)) initial events = some final) :
    final.system.tunTasks = [] ∧
      (final.crashed = false → final.running = false) ∧
      ∀ context fd, final.running = false → context.foreground = true →
        context.established = .descriptor fd → context.loads = true →
        (final.startVpn (isLinked generated) context).crashed = true := by
  rw [not_isLinked others] at ran ⊢
  refine ⟨?_, fun lives => ?_, ?_⟩
  · exact Run.invariant_of_step
      (fun service => service.system.tunTasks = [])
      (fun _ _ _ noTask stepped => tunTasks_of_step noTask stepped) rfl ran
  · refine Bool.eq_false_of_not_eq_true fun running => ?_
    rcases crashed_or_sound ran with crashed | sound
    · rw [lives] at crashed
      cases crashed
    · exact Bool.false_ne_true (sound.needs running).2
  · intro context fd stopped shown established loads
    unfold startVpn processTun
    simp [stopped, shown, established, loads, ensureLoaded]

/-- An export of the generated code. -/
def generatedExports : List String := ["frb_get_rust_content_hash"]

/-- A start that gets no interface, one that gets an interface but no library,
and a stop that loads the library. -/
def generatedRun : List Event :=
  [.connect {
      foreground := true
      established := .null
      loads := false
      loadsAgain := false },
    .connect {
      foreground := true
      established := .descriptor 5
      loads := false
      loadsAgain := false },
    .disconnect true]

/-- The service after that run. -/
def generatedFinal : RelizVpnService :=
  { initial with
    loaded := true
    descriptors := [{ fd := 5, closes := 1 }] }

/-- With these exports the next start ends the process. -/
theorem neverProcesses_of_run_generated :
    (generatedFinal.startVpn (isLinked generatedExports) {
      foreground := true
      established := .descriptor 7
      loads := true
      loadsAgain := true }).crashed = true := by
  have others : ∀ className methodName,
      jniSymbol className methodName ∉ generatedExports := by
    intro className methodName member
    have same := congrArg String.toList (List.mem_singleton.mp member)
    simp [jniSymbol] at same
  have ran : Run.run (step (isLinked generatedExports)) initial generatedRun =
      some generatedFinal := by
    rw [not_isLinked others]
    rfl
  exact (neverProcesses_of_run others ran).2.2 _ 7 rfl rfl rfl rfl

end RelizVpnService
end Flutter
end GhostProtocol
