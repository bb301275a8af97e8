import GhostProtocol.Foundation.Run
import GhostProtocol.Foundation.Table
import Mathlib.Data.List.Induction

/-!
# Pools of independent machines

A pool starts machines over time, and every machine takes its events between
those of the others.  The events of one machine are therefore a run of that
machine alone, whatever the others do, so what holds of every run of one
machine holds of every machine in every run of the pool.
-/

namespace Foundation
namespace Pool

variable {Origin State Event : Type*}

/-- A machine: its state at the start and its events, both of which depend on
where the machine comes from. -/
structure Machine (Origin State Event : Type*) where
  start : Origin → State
  step : Origin → State → Event → Option State

/-- A started machine. -/
structure Member (Origin State : Type*) where
  origin : Origin
  state : State

/-- What happens to a pool: a machine is started, or one takes an event. -/
inductive Label (Origin Event : Type*)
  | spawn (origin : Origin)
  | member (id : Nat) (event : Event)

/-- One event of a pool. -/
def step
    (machine : Machine Origin State Event)
    (members : List (Member Origin State)) :
    Label Origin Event → Option (List (Member Origin State))
  | .spawn origin => some (members ++ [⟨origin, machine.start origin⟩])
  | .member id event =>
      match members[id]? with
      | none => none
      | some member =>
          (machine.step member.origin member.state event).map fun state =>
            members.set id { member with state }

/-- The event of a machine in a label, if it is one. -/
def eventOf (id : Nat) : Label Origin Event → Option Event
  | .spawn _ => none
  | .member other event => if other = id then some event else none

/-- The events of one machine in a run. -/
def eventsOf (id : Nat) (labels : List (Label Origin Event)) : List Event :=
  labels.filterMap (eventOf id)

/-- Everything one event can do to a pool. -/
inductive Transition
    (machine : Machine Origin State Event)
    (members : List (Member Origin State)) :
    Label Origin Event → List (Member Origin State) → Prop
  | spawn (origin : Origin) :
      Transition machine members (.spawn origin)
        (members ++ [⟨origin, machine.start origin⟩])
  | member {id event member state}
      (found : members[id]? = some member)
      (stepped : machine.step member.origin member.state event = some state) :
      Transition machine members (.member id event)
        (members.set id { member with state })

/-- Every step is one of the listed transitions. -/
theorem transition_of_step
    {machine : Machine Origin State Event}
    {members next : List (Member Origin State)}
    {label : Label Origin Event}
    (stepped : step machine members label = some next) :
    Transition machine members label next := by
  cases label with
  | spawn origin =>
      obtain rfl := Option.some.inj stepped
      exact .spawn origin
  | member id event =>
      rw [step] at stepped
      cases found : members[id]? with
      | none =>
          rw [found] at stepped
          cases stepped
      | some member =>
          rw [found] at stepped
          obtain ⟨state, moved, rfl⟩ := Option.map_eq_some_iff.mp stepped
          exact .member found moved

/-- The member is where its own events lead from its start. -/
def Member.Ran
    (machine : Machine Origin State Event)
    (events : List Event)
    (member : Member Origin State) : Prop :=
  Run.run (machine.step member.origin) (machine.start member.origin) events =
    some member.state

/-- One more event of a member. -/
theorem Member.Ran.concat
    {machine : Machine Origin State Event}
    {events : List Event}
    {member : Member Origin State}
    (ran : member.Ran machine events)
    {event : Event}
    {state : State}
    (stepped : machine.step member.origin member.state event = some state) :
    Member.Ran machine (events ++ [event]) { member with state } :=
  (Run.run_append_eq_some ..).mpr
    ⟨member.state, ran, (Run.run_cons_eq_some ..).mpr ⟨state, stepped, rfl⟩⟩

/-- The events in a pool so far: each of a member, and none of a machine that
has not been started. -/
structure Separated
    (machine : Machine Origin State Event)
    (labels : List (Label Origin Event))
    (members : List (Member Origin State)) : Prop where
  ran : ∀ (id : Nat) (member : Member Origin State),
    members[id]? = some member → member.Ran machine (eventsOf id labels)
  none : ∀ id, members.length ≤ id → eventsOf id labels = []

/-- One event keeps the members apart. -/
theorem Separated.step
    {machine : Machine Origin State Event}
    {labels : List (Label Origin Event)}
    {members next : List (Member Origin State)}
    {label : Label Origin Event}
    (separated : Separated machine labels members)
    (transition : Transition machine members label next) :
    Separated machine (labels ++ [label]) next := by
  have split : ∀ id, eventsOf id (labels ++ [label]) =
      eventsOf id labels ++ (eventOf id label).toList := by
    intro id
    rw [eventsOf, List.filterMap_append, eventsOf, List.filterMap_cons]
    cases eventOf id label with
    | none => rfl
    | some event => rfl
  cases transition with
  | spawn origin =>
      have same : ∀ id, eventsOf id (labels ++ [.spawn origin]) =
          eventsOf id labels :=
        fun id => (split id).trans (List.append_nil _)
      constructor
      · intro id member found
        rw [same]
        rcases Table.found_of_concat found with there | ⟨last, rfl⟩
        · exact separated.ran id member there
        · rw [separated.none id (Nat.le_of_eq last.symm)]
          rfl
      · intro id outside
        rw [List.length_append] at outside
        rw [same]
        exact separated.none id (Nat.le_of_add_right_le outside)
  | @member target event member state found stepped =>
      obtain ⟨inside, -⟩ := List.getElem?_eq_some_iff.mp found
      have here : eventOf target (.member target event : Label Origin Event) =
          some event :=
        if_pos rfl
      have elsewhere : ∀ id, id ≠ target →
          eventsOf id (labels ++ [.member target event]) =
            eventsOf id labels := by
        intro id other
        rw [split, eventOf, if_neg (Ne.symm other)]
        exact List.append_nil _
      constructor
      · intro id after isFound
        rcases Table.found_of_set isFound with ⟨rfl, rfl⟩ | ⟨other, there⟩
        · rw [split, here]
          exact (separated.ran id member found).concat stepped
        · rw [elsewhere id other]
          exact separated.ran id after there
      · intro id outside
        rw [List.length_set] at outside
        rw [elsewhere id (by omega)]
        exact separated.none id outside

/-- In every run of a pool, every member is where its own events lead from its
start. -/
theorem ran_of_run
    {machine : Machine Origin State Event}
    {labels : List (Label Origin Event)}
    {members : List (Member Origin State)}
    (reached : Run.run (step machine) [] labels = some members)
    {id : Nat}
    {member : Member Origin State}
    (found : members[id]? = some member) :
    member.Ran machine (eventsOf id labels) := by
  have separated : Separated machine labels members := by
    refine Run.history_of_run (Separated machine) ?_ ?_ reached
    · intro labels members label next separated stepped
      exact separated.step (transition_of_step stepped)
    · constructor
      · intro id member nothing
        cases nothing
      · exact fun _ _ => rfl
  exact separated.ran id member found

end Pool
end Foundation
