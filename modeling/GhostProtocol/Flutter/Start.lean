import GhostProtocol.Flutter.Bridge

/-!
# The result of a start

A start waits for its task to tell that the listener is bound.  The wait also
ends when the task drops the channel, and both ends count as bound, so an
immediate error is reported as a connected proxy.  A start is honest when the
bind succeeds, and when the wait elapses.
-/

namespace GhostProtocol
namespace Flutter

open Foundation

/-- How the bind of a start answers: with success or with an error before the
wait elapses, or not before that. -/
inductive BindOutcome
  | success
  | immediateError
  | noAnswer
  deriving DecidableEq, Repr

/-- Whether a call has still to learn how its bind answers. -/
def CallPoint.waits : CallPoint → Bool
  | .loadRunning => true
  | .storeConnecting => true
  | .spawn => true
  | .storeHandle _ => true
  | .waitReady _ => true
  | _ => false

/-- The steps of one start and of its task, when the bind answers with
`outcome`. -/
def Answers (outcome : BindOutcome) (bridge : Bridge) : Label → Prop
  | .call _ => False
  | .elapse _ => outcome = .noAnswer
  | .bindAnswer _ ok =>
      match outcome with
      | .success => ok = true
      | .immediateError => ok = false
      | .noAnswer => ∀ point ∈ bridge.calls, point.waits = false
  | _ => True

/-- A bridge on which nothing is going on. -/
structure Bridge.Idle (bridge : Bridge) : Prop where
  running : bridge.running = false
  calls : bridge.calls = []
  ended : ∀ task ∈ bridge.tasks, task.point = .ended

/-- The bridge when a start has been called. -/
def Bridge.started (bridge : Bridge) : Bridge :=
  { bridge with calls := [ApiFunction.startRelizProxy.entry] }

/-- In every interleaving of a start with its task: the start reports a
connected proxy only if the listener was bound, and otherwise an error. -/
def HonestStart (bridge : Bridge) (outcome : BindOutcome) : Prop :=
  ∀ labels final code,
    Run.Guarded step (Answers outcome) bridge.started labels →
    Run.run step bridge.started labels = some final →
    final.calls = [.returned code] →
    (code = 0 ∧ final.status = .connected →
        ∃ task, final.tasks[bridge.tasks.length]? = some task ∧
          task.bound = true) ∧
      (outcome ≠ .success → code ≠ 0 ∧ final.status = .error)

/-! ## One start and its task -/

/-- What is known of a task while its start waits. -/
def Waits : BindOutcome → ProxyTask → Prop
  | .success, task =>
      task.aborted = false ∧ task.ready ≠ .dropped ∧
        (task.ready = .sent → task.bound = true) ∧
        (task.point = .sendReady → task.bound = true)
  | .immediateError, _ => True
  | .noAnswer, task =>
      task.aborted = false ∧ task.ready = .pending ∧
        (task.point = .storeRunning ∨ task.point = .bind)

/-- How far a start and its task have come. -/
inductive Progress
    (outcome : BindOutcome)
    (earlier : List ProxyTask)
    (bridge : Bridge) : Prop
  | checking
      (calls : bridge.calls = [.loadRunning])
      (tasks : bridge.tasks = earlier)
      (idle : bridge.running = false)
  | starting
      (calls : bridge.calls = [.storeConnecting] ∨ bridge.calls = [.spawn])
      (tasks : bridge.tasks = earlier)
  | waiting {task}
      (calls : bridge.calls = [.storeHandle earlier.length] ∨
        bridge.calls = [.waitReady earlier.length])
      (tasks : bridge.tasks = earlier ++ [task])
      (waits : Waits outcome task)
  | bound {task}
      (calls : bridge.calls = [.storeConnected] ∨
        bridge.calls = [.returned 0])
      (tasks : bridge.tasks = earlier ++ [task])
      (isBound : task.bound = true)
      (isSuccess : outcome = .success)
  | givingUp
      (calls : bridge.calls = [.abortTask true] ∨
        bridge.calls = [.clearRunning true] ∨
        bridge.calls = [.storeStopped true] ∨ bridge.calls = [.storeError])
      (isNoAnswer : outcome = .noAnswer)
  | failed
      (calls : bridge.calls = [.returned ProxyStatus.error.code])
      (isNoAnswer : outcome = .noAnswer)
      (status : bridge.status = .error)

/-- The only call is at the front. -/
theorem eq_of_only_call
    {bridge : Bridge}
    {call : Nat}
    {point found : CallPoint}
    (calls : bridge.calls = [point])
    (reached : bridge.calls[call]? = some found) :
    call = 0 ∧ found = point := by
  rw [calls] at reached
  obtain ⟨bound, same⟩ := List.getElem?_eq_some_iff.mp reached
  obtain rfl : call = 0 := Nat.lt_one_iff.mp bound
  exact ⟨rfl, same.symm⟩

/-- The only call is the one that advances. -/
theorem advance_of_step
    {bridge next : Bridge}
    {call : Nat}
    {point : CallPoint}
    (calls : bridge.calls = [point])
    (stepped : step bridge (.advance call) = some next) :
    call = 0 ∧ advance bridge 0 point = some next := by
  obtain ⟨found, reached, advanced⟩ := Option.bind_eq_some_iff.mp stepped
  obtain ⟨rfl, rfl⟩ := eq_of_only_call calls reached
  exact ⟨rfl, advanced⟩

/-- The only call is the one whose wait elapses. -/
theorem elapse_of_step
    {bridge next : Bridge}
    {call : Nat}
    {point : CallPoint}
    (calls : bridge.calls = [point])
    (stepped : step bridge (.elapse call) = some next) :
    call = 0 ∧ elapse bridge 0 point = some next := by
  obtain ⟨found, reached, elapsed⟩ := Option.bind_eq_some_iff.mp stepped
  obtain ⟨rfl, rfl⟩ := eq_of_only_call calls reached
  exact ⟨rfl, elapsed⟩

/-- The only call goes on at another point. -/
theorem calls_goto
    {bridge : Bridge}
    {point : CallPoint}
    (calls : bridge.calls = [point])
    (next : CallPoint) :
    (bridge.goto 0 next).calls = [next] := by
  rw [Bridge.goto, calls]
  rfl

/-- Steps of tasks. -/
def Label.isTask : Label → Bool
  | .poll _ => true
  | .bindAnswer _ _ => true
  | .acceptError _ => true
  | .cancel _ => true
  | _ => false

/-- What a step leaves of a start and its task, if it is a step of the task. -/
structure TaskStep
    (outcome : BindOutcome)
    (bridge next : Bridge)
    (task changed : ProxyTask) : Prop where
  calls : next.calls = bridge.calls
  status : next.status = bridge.status ∨ next.status = .error
  bound : task.bound = true → changed.bound = true
  waits : (∃ point ∈ bridge.calls, point.waits = true) →
    Waits outcome task → Waits outcome changed

/-- What is known of a waiting task does not depend on where it goes on, except
that it binds its listener before it is ready, and late if at all. -/
theorem Waits.goto
    {outcome : BindOutcome}
    {task : ProxyTask}
    {point : TaskPoint}
    (notReady : point ≠ .sendReady)
    (early : task.point = .storeRunning ∨ task.point = .bind → point = .bind)
    (waits : Waits outcome task) :
    Waits outcome { task with point } := by
  cases outcome with
  | success =>
      exact ⟨waits.1, waits.2.1, waits.2.2.1,
        fun isReady => absurd isReady notReady⟩
  | immediateError => trivial
  | noAnswer => exact ⟨waits.1, waits.2.1, .inr (early waits.2.2)⟩

/-- A step of a task changes no other task. -/
theorem exists_taskStep_of_transition
    {outcome : BindOutcome}
    (notError : outcome ≠ .immediateError)
    {bridge next : Bridge}
    {label : Label}
    (isTask : label.isTask = true)
    (answers : Answers outcome bridge label)
    (transition : Transition bridge label next) :
    ∃ id task changed, bridge.tasks[id]? = some task ∧
      task.point ≠ .ended ∧
      next.tasks = bridge.tasks.set id changed ∧
      TaskStep outcome bridge next task changed := by
  cases transition with
  | @taskStarts id task found point =>
      refine ⟨id, task, _, found, by simp [point], rfl, rfl, .inl rfl,
        fun isBound => isBound, fun _ waits => ?_⟩
      exact waits.goto TaskPoint.noConfusion fun _ => rfl
  | @taskReady id task found point =>
      refine ⟨id, task, _, found, by simp [point], rfl, rfl, .inl rfl,
        fun isBound => isBound, fun _ waits => ?_⟩
      cases outcome with
      | success =>
          exact ⟨waits.1, Ready.noConfusion, fun _ => waits.2.2.2 point,
            fun isReady => TaskPoint.noConfusion isReady⟩
      | immediateError => trivial
      | noAnswer => exact absurd waits.2.2 (by simp [point])
  | @taskErrs id task found point =>
      refine ⟨id, task, _, found, by simp [point], rfl, rfl, .inr rfl,
        fun isBound => isBound, fun _ waits => ?_⟩
      exact waits.goto TaskPoint.noConfusion (by simp [point])
  | @taskEnds id task found point =>
      refine ⟨id, task, _, found, by simp [point], rfl, rfl, .inl rfl,
        fun isBound => isBound, fun _ waits => ?_⟩
      exact waits.goto TaskPoint.noConfusion (by simp [point])
  | @bound id task found point free =>
      refine ⟨id, task, _, found, by simp [point], rfl, rfl, .inl rfl,
        fun _ => rfl, fun waiting waits => ?_⟩
      cases outcome with
      | success => exact ⟨waits.1, waits.2.1, fun _ => rfl, fun _ => rfl⟩
      | immediateError => trivial
      | noAnswer =>
          obtain ⟨call, member, isWaiting⟩ := waiting
          exact absurd (answers call member) (by simp [isWaiting])
  | @refused id task found point =>
      refine ⟨id, task, _, found, by simp [point], rfl, rfl, .inl rfl,
        fun isBound => isBound, fun waiting waits => ?_⟩
      cases outcome with
      | success => exact absurd answers Bool.false_ne_true
      | immediateError => trivial
      | noAnswer =>
          obtain ⟨call, member, isWaiting⟩ := waiting
          exact absurd (answers call member) (by simp [isWaiting])
  | @acceptFails id task found point =>
      refine ⟨id, task, _, found, by simp [point], rfl, rfl, .inl rfl,
        fun isBound => isBound, fun _ waits => ?_⟩
      exact waits.goto TaskPoint.noConfusion (by simp [point])
  | @cancelled id task found isAborted awaits =>
      refine ⟨id, task, _, found, ?_, rfl, rfl, .inl rfl,
        fun isBound => isBound, fun _ waits => ?_⟩
      · intro ended
        rw [ProxyTask.awaits, ended] at awaits
        cases awaits
      · cases outcome with
        | success => exact absurd waits.1 (by simp [isAborted])
        | immediateError => trivial
        | noAnswer => exact absurd waits.1 (by simp [isAborted])
  | _ => cases isTask

/-- The first step of a task is a step of the task just started. -/
theorem setTask_last
    {earlier : List ProxyTask}
    (ended : ∀ task ∈ earlier, task.point = .ended)
    {task found changed : ProxyTask}
    {id : Nat}
    (isTask : (earlier ++ [task])[id]? = some found)
    (running : found.point ≠ .ended) :
    found = task ∧
      (earlier ++ [task]).set id changed = earlier ++ [changed] := by
  rcases Table.found_of_concat isTask with known | ⟨rfl, rfl⟩
  · exact absurd (ended found (List.mem_of_getElem? known)) running
  · refine ⟨rfl, ?_⟩
    rw [List.set_append_right _ _ (Nat.le_refl _), Nat.sub_self]
    rfl

/-- A task that has not run yet is waited for. -/
theorem waits_spawned (outcome : BindOutcome) :
    Waits outcome ProxyTask.spawned := by
  cases outcome with
  | success =>
      exact ⟨rfl, Ready.noConfusion, fun isSent => Ready.noConfusion isSent,
        fun isReady => TaskPoint.noConfusion isReady⟩
  | immediateError => trivial
  | noAnswer => exact ⟨rfl, rfl, .inl rfl⟩

/-- The next access of a start takes it further. -/
theorem Progress.of_advance
    {outcome : BindOutcome}
    (notError : outcome ≠ .immediateError)
    {earlier : List ProxyTask}
    {bridge next : Bridge}
    {call : Nat}
    (progress : Progress outcome earlier bridge)
    (stepped : step bridge (.advance call) = some next) :
    Progress outcome earlier next := by
  cases progress with
  | checking calls tasks idle =>
      obtain ⟨rfl, advanced⟩ := advance_of_step calls stepped
      obtain rfl := Option.some.inj advanced
      rw [idle]
      exact .starting (.inl (calls_goto calls _)) tasks
  | starting calls tasks =>
      rcases calls with calls | calls
      · obtain ⟨rfl, advanced⟩ := advance_of_step calls stepped
        obtain rfl := Option.some.inj advanced
        exact .starting (.inr (calls_goto calls _)) tasks
      · obtain ⟨rfl, advanced⟩ := advance_of_step calls stepped
        obtain rfl := Option.some.inj advanced
        subst tasks
        exact .waiting (.inl (calls_goto calls _)) rfl (waits_spawned outcome)
  | @waiting task calls tasks waits =>
      rcases calls with calls | calls
      · obtain ⟨rfl, advanced⟩ := advance_of_step calls stepped
        obtain rfl := Option.some.inj advanced
        exact .waiting (.inr (calls_goto calls _)) tasks waits
      · obtain ⟨rfl, advanced⟩ := advance_of_step calls stepped
        simp only [advance, tasks, List.getElem?_concat_length] at advanced
        split_ifs at advanced with pending
        obtain rfl := Option.some.inj advanced
        cases outcome with
        | success =>
            refine .bound (.inl (calls_goto calls _)) tasks ?_ rfl
            cases ready : task.ready with
            | pending => exact absurd ready pending
            | sent => exact waits.2.2.1 ready
            | dropped => exact absurd ready waits.2.1
        | immediateError => exact absurd rfl notError
        | noAnswer => exact absurd waits.2.1 pending
  | bound calls tasks isBound isSuccess =>
      rcases calls with calls | calls
      · obtain ⟨rfl, advanced⟩ := advance_of_step calls stepped
        obtain rfl := Option.some.inj advanced
        exact .bound (.inr (calls_goto calls _)) tasks isBound isSuccess
      · cases (advance_of_step calls stepped).2
  | givingUp calls isNoAnswer =>
      rcases calls with calls | calls | calls | calls
      · obtain ⟨rfl, advanced⟩ := advance_of_step calls stepped
        obtain rfl := Option.some.inj advanced
        refine .givingUp (.inr (.inl ?_)) isNoAnswer
        rw [← calls_abortSlot] at calls
        exact calls_goto calls _
      · obtain ⟨rfl, advanced⟩ := advance_of_step calls stepped
        obtain rfl := Option.some.inj advanced
        exact .givingUp (.inr (.inr (.inl (calls_goto calls _)))) isNoAnswer
      · obtain ⟨rfl, advanced⟩ := advance_of_step calls stepped
        obtain rfl := Option.some.inj advanced
        exact .givingUp (.inr (.inr (.inr (calls_goto calls _)))) isNoAnswer
      · obtain ⟨rfl, advanced⟩ := advance_of_step calls stepped
        obtain rfl := Option.some.inj advanced
        exact .failed (calls_goto calls _) isNoAnswer rfl
  | failed calls isNoAnswer status => cases (advance_of_step calls stepped).2

/-- A start whose wait elapses gives up. -/
theorem Progress.of_elapse
    {outcome : BindOutcome}
    {earlier : List ProxyTask}
    {bridge next : Bridge}
    {call : Nat}
    (progress : Progress outcome earlier bridge)
    (isNoAnswer : outcome = .noAnswer)
    (stepped : step bridge (.elapse call) = some next) :
    Progress outcome earlier next := by
  cases progress with
  | checking calls tasks idle => cases (elapse_of_step calls stepped).2
  | starting calls tasks =>
      rcases calls with calls | calls
      · cases (elapse_of_step calls stepped).2
      · cases (elapse_of_step calls stepped).2
  | @waiting task calls tasks waits =>
      rcases calls with calls | calls
      · cases (elapse_of_step calls stepped).2
      · obtain ⟨rfl, elapsed⟩ := elapse_of_step calls stepped
        simp only [elapse, tasks, List.getElem?_concat_length] at elapsed
        split_ifs at elapsed
        obtain rfl := Option.some.inj elapsed
        exact .givingUp (.inl (calls_goto calls _)) isNoAnswer
  | bound calls tasks isBound isSuccess =>
      rw [isSuccess] at isNoAnswer
      cases isNoAnswer
  | givingUp calls isNoAnswer =>
      rcases calls with calls | calls | calls | calls
      · cases (elapse_of_step calls stepped).2
      · cases (elapse_of_step calls stepped).2
      · cases (elapse_of_step calls stepped).2
      · cases (elapse_of_step calls stepped).2
  | failed calls isNoAnswer status => cases (elapse_of_step calls stepped).2

/-- A step of the task keeps what a start has come to. -/
theorem Progress.of_task
    {outcome : BindOutcome}
    (notError : outcome ≠ .immediateError)
    {earlier : List ProxyTask}
    (ended : ∀ task ∈ earlier, task.point = .ended)
    {bridge next : Bridge}
    {label : Label}
    (progress : Progress outcome earlier bridge)
    (isTask : label.isTask = true)
    (answers : Answers outcome bridge label)
    (stepped : step bridge label = some next) :
    Progress outcome earlier next := by
  obtain ⟨id, found, changed, isFound, running, tasks', taskStep⟩ :=
    exists_taskStep_of_transition notError isTask answers
      (transition_of_step stepped)
  cases progress with
  | checking calls tasks idle =>
      rw [tasks] at isFound
      exact absurd (ended found (List.mem_of_getElem? isFound)) running
  | starting calls tasks =>
      rw [tasks] at isFound
      exact absurd (ended found (List.mem_of_getElem? isFound)) running
  | @waiting task calls tasks waits =>
      rw [tasks] at isFound tasks'
      obtain ⟨rfl, last⟩ := setTask_last ended isFound running
      refine .waiting (by rwa [taskStep.calls]) (tasks'.trans last)
        (taskStep.waits ?_ waits)
      rcases calls with calls | calls
      · exact ⟨_, by rw [calls]; exact List.mem_singleton_self _, rfl⟩
      · exact ⟨_, by rw [calls]; exact List.mem_singleton_self _, rfl⟩
  | @bound task calls tasks isBound isSuccess =>
      rw [tasks] at isFound tasks'
      obtain ⟨rfl, last⟩ := setTask_last ended isFound running
      exact .bound (by rwa [taskStep.calls]) (tasks'.trans last)
        (taskStep.bound isBound) isSuccess
  | givingUp calls isNoAnswer =>
      exact .givingUp (by rwa [taskStep.calls]) isNoAnswer
  | failed calls isNoAnswer status =>
      refine .failed (by rwa [taskStep.calls]) isNoAnswer ?_
      rcases taskStep.status with same | isError
      · rw [same, status]
      · exact isError

/-- Every step takes a start and its task further. -/
theorem Progress.of_step
    {outcome : BindOutcome}
    (notError : outcome ≠ .immediateError)
    {earlier : List ProxyTask}
    (ended : ∀ task ∈ earlier, task.point = .ended)
    {bridge next : Bridge}
    {label : Label}
    (progress : Progress outcome earlier bridge)
    (answers : Answers outcome bridge label)
    (stepped : step bridge label = some next) :
    Progress outcome earlier next := by
  cases label with
  | call function => exact answers.elim
  | advance call => exact progress.of_advance notError stepped
  | elapse call => exact progress.of_elapse answers stepped
  | poll id => exact progress.of_task notError ended rfl answers stepped
  | bindAnswer id ok => exact progress.of_task notError ended rfl answers stepped
  | acceptError id => exact progress.of_task notError ended rfl answers stepped
  | cancel id => exact progress.of_task notError ended rfl answers stepped

/-- A start is honest unless its bind fails at once. -/
theorem honestStart_of_ne
    {bridge : Bridge}
    (idle : bridge.Idle)
    {outcome : BindOutcome}
    (notError : outcome ≠ .immediateError) :
    HonestStart bridge outcome := by
  intro labels final code guarded reached returned
  have progress : Progress outcome bridge.tasks final := by
    refine Run.invariant_of_guarded (Answers outcome)
      (Progress outcome bridge.tasks) ?_ ?_ guarded reached
    · intro before label after progress answers stepped
      exact progress.of_step notError idle.ended answers stepped
    · exact .checking rfl rfl idle.running
  cases progress with
  | checking calls tasks idle => rw [returned] at calls; cases calls
  | starting calls tasks =>
      rw [returned] at calls
      rcases calls with calls | calls
      · cases calls
      · cases calls
  | waiting calls tasks waits =>
      rw [returned] at calls
      rcases calls with calls | calls
      · cases calls
      · cases calls
  | bound calls tasks isBound isSuccess =>
      refine ⟨fun _ => ⟨_, ?_, isBound⟩, fun failed => absurd isSuccess failed⟩
      rw [tasks, List.getElem?_concat_length]
  | givingUp calls isNoAnswer =>
      rw [returned] at calls
      rcases calls with calls | calls | calls | calls
      · cases calls
      · cases calls
      · cases calls
      · cases calls
  | failed calls isNoAnswer status =>
      rw [returned] at calls
      obtain rfl : code = 3 := by
        cases calls
        rfl
      exact ⟨fun success => absurd success.1 (by decide),
        fun _ => ⟨by decide, status⟩⟩

/-! ## An immediate error -/

/-- A start whose bind fails at once, step by step: it stores its handle, its
task fails, and the dropped channel ends the wait. -/
def failingStart (id : Nat) : List Label :=
  [.advance 0, .advance 0, .advance 0, .advance 0, .poll id,
    .bindAnswer id false, .advance 0, .advance 0]

/-- Such a start returns zero and leaves a connected proxy. -/
theorem run_failingStart
    {bridge : Bridge}
    (idle : bridge.Idle) :
    Run.run step bridge.started (failingStart bridge.tasks.length) =
      some {
        status := .connected
        running := true
        slot := some bridge.tasks.length
        tasks := bridge.tasks ++
          [{ point := .storeError
             ready := .dropped
             bound := false
             aborted := false }]
        calls := [.returned 0] } := by
  have running := idle.running
  obtain ⟨status, _, slot, earlier, calls⟩ := bridge
  obtain rfl : _ = false := running
  simp [Run.run, failingStart, step, Bridge.started, ApiFunction.entry, advance,
    poll, bindAnswer, Bridge.goto, Bridge.setTask, ProxyTask.spawned,
    Ready.drop, List.set_append_right]

/-- A start whose bind fails at once is not honest. -/
theorem not_honestStart_of_idle
    {bridge : Bridge}
    (idle : bridge.Idle) :
    ¬ HonestStart bridge .immediateError := by
  intro honest
  have guarded : Run.Guarded step (Answers .immediateError) bridge.started
      (failingStart bridge.tasks.length) := by
    refine Run.guarded_of_forall_state fun label member state => ?_
    simp only [failingStart, List.mem_cons, List.not_mem_nil, or_false]
      at member
    rcases member with rfl | rfl | rfl | rfl | rfl | rfl | rfl | rfl
    · trivial
    · trivial
    · trivial
    · trivial
    · trivial
    · rfl
    · trivial
    · trivial
  obtain ⟨nonzero, -⟩ := (honest _ _ 0 guarded (run_failingStart idle) rfl).2
    BindOutcome.noConfusion
  exact nonzero rfl

/-- A start is honest exactly unless its bind fails at once. -/
theorem honestStart_iff
    {bridge : Bridge}
    (idle : bridge.Idle)
    (outcome : BindOutcome) :
    HonestStart bridge outcome ↔ outcome ≠ .immediateError := by
  constructor
  · rintro honest rfl
    exact not_honestStart_of_idle idle honest
  · exact honestStart_of_ne idle

/-- Nothing is going on in a new process. -/
theorem idle_initial : Bridge.initial.Idle where
  running := rfl
  calls := rfl
  ended _ member := (List.not_mem_nil member).elim

/-- The first start of a process, when nothing answers. -/
theorem honestStart_iff_initial :
    HonestStart Bridge.initial .noAnswer ↔
      BindOutcome.noAnswer ≠ .immediateError :=
  honestStart_iff idle_initial .noAnswer

/-- The first start of a process whose port is taken is not honest. -/
theorem not_honestStart_initial :
    ¬ HonestStart Bridge.initial .immediateError :=
  not_honestStart_of_idle idle_initial

end Flutter
end GhostProtocol
