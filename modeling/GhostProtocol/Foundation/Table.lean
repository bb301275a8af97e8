import Mathlib.Logic.Function.Basic

/-!
# Tables by position

The entries of a table are known by their position.  An entry is replaced or
changed in its place, and a new one is added at the end.  What is found
afterwards is the entry in question or was there before.
-/

namespace Foundation
namespace Table

variable {Entry : Type*}

/-- What is found after an entry has been replaced. -/
theorem found_of_set
    {table : List Entry}
    {id other : Nat}
    {new found : Entry}
    (isFound : (table.set id new)[other]? = some found) :
    (other = id ∧ found = new) ∨
      (other ≠ id ∧ table[other]? = some found) := by
  by_cases same : id = other
  · subst same
    obtain ⟨inside, -⟩ := List.getElem?_eq_some_iff.mp isFound
    rw [List.length_set] at inside
    rw [List.getElem?_set_self inside] at isFound
    exact .inl ⟨rfl, (Option.some.inj isFound).symm⟩
  · rw [List.getElem?_set_ne same] at isFound
    exact .inr ⟨fun equal => same equal.symm, isFound⟩

/-- What is found after an entry has been changed. -/
theorem found_of_modify
    {table : List Entry}
    {id other : Nat}
    {change : Entry → Entry}
    {found : Entry}
    (isFound : (table.modify id change)[other]? = some found) :
    ∃ before, table[other]? = some before ∧
      ((id = other ∧ found = change before) ∨
        (id ≠ other ∧ found = before)) := by
  rw [List.getElem?_modify] at isFound
  obtain ⟨before, wasFound, rfl⟩ := Option.map_eq_some_iff.mp isFound
  refine ⟨before, wasFound, ?_⟩
  by_cases same : id = other
  · exact .inl ⟨same, if_pos same⟩
  · exact .inr ⟨same, if_neg same⟩

/-- What is found after an entry has been added. -/
theorem found_of_concat
    {table : List Entry}
    {id : Nat}
    {new found : Entry}
    (isFound : (table ++ [new])[id]? = some found) :
    table[id]? = some found ∨ (id = table.length ∧ found = new) := by
  by_cases inside : id < table.length
  · rw [List.getElem?_append_left inside] at isFound
    exact .inl isFound
  · have outside := Nat.not_lt.mp inside
    rw [List.getElem?_append_right outside] at isFound
    obtain ⟨last, same⟩ := List.getElem?_eq_some_iff.mp isFound
    have first : id - table.length = 0 := Nat.lt_one_iff.mp last
    refine .inr ⟨Nat.le_antisymm (Nat.le_of_sub_eq_zero first) outside, ?_⟩
    exact List.mem_singleton.mp (List.mem_of_getElem? isFound)

end Table
end Foundation
