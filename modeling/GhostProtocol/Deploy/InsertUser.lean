import GhostProtocol.Deploy.RewriteUsers

/-!
# When the `sed` command keeps the configuration

The `sed` command looks for the closing bracket of the array at the start of a
line, behind a line that starts with the key.  It inserts the line of the user
in front of every such bracket, whether a comma stands there or not.  This
module says exactly for which configurations the array then holds the old users
and the new one, and all other lines stay.
-/

namespace GhostProtocol
namespace Deploy

open Foundation Toml

/-- No line that starts with the key of the users comes before one that starts
with a closing bracket. -/
def WithoutRange (lines : List Line) : Prop :=
  lines.Pairwise fun first second =>
    ¬(startsUsers first = true ∧ startsBracket second = true)

/-- The configurations that the `sed` command keeps: the array ends with a line
that starts with its bracket, a value may follow before it, a line that starts
with the key of the users comes before it, and no further bracket follows such a
line. -/
structure SedKeeps (before array after ids : List Line) : Prop where
  closes : ∃ front last, array = front ++ [last] ∧
    startsBracket last = true ∧
    readArray allowedUsers front = some (.value ids) ∧
    ∃ line ∈ before ++ front, startsUsers line = true
  early : WithoutRange before
  late : WithoutRange after

/-! ## Ranges of lines -/

/-- Nothing is inserted into an open range without a bracket. -/
theorem insertUser_true_iff (uuid : Line) (lines : List Line) :
    insertUser uuid true lines = lines ↔
      ∀ line ∈ lines, startsBracket line = false := by
  induction lines with
  | nil => simp [insertUser]
  | cons line others inductionHypothesis =>
      rw [insertUser, List.forall_mem_cons]
      cases bracket : startsBracket line with
      | true =>
          rw [if_pos rfl]
          constructor
          · intro equal
            obtain ⟨rfl, -⟩ := List.cons.inj equal
            cases bracket
          · rintro ⟨none, -⟩
            cases none
      | false =>
          rw [if_neg Bool.false_ne_true, List.cons.injEq, inductionHypothesis]
          exact ⟨fun both => ⟨rfl, both.2⟩, fun both => ⟨rfl, both.2⟩⟩

/-- Lines without a bracket have no range. -/
theorem withoutRange_of_forall
    {lines : List Line}
    (open_lines : ∀ line ∈ lines, startsBracket line = false) :
    WithoutRange lines := by
  refine List.pairwise_iff_getElem.mpr ?_
  rintro first second - inside - ⟨-, bracket⟩
  rw [open_lines _ (List.getElem_mem inside)] at bracket
  cases bracket

/-- Nothing is inserted into lines without a range. -/
theorem insertUser_false_iff (uuid : Line) (lines : List Line) :
    insertUser uuid false lines = lines ↔ WithoutRange lines := by
  induction lines with
  | nil => exact iff_of_true rfl .nil
  | cons line others inductionHypothesis =>
      rw [insertUser, List.cons.injEq, WithoutRange, List.pairwise_cons]
      cases starts : startsUsers line with
      | true =>
          rw [insertUser_true_iff]
          constructor
          · rintro ⟨-, none⟩
            refine ⟨fun other member => ?_, withoutRange_of_forall none⟩
            rintro ⟨-, bracket⟩
            rw [none other member] at bracket
            cases bracket
          · rintro ⟨none, -⟩
            refine ⟨rfl, fun other member => ?_⟩
            rw [← Bool.not_eq_true]
            exact fun bracket => none other member ⟨rfl, bracket⟩
      | false =>
          rw [inductionHypothesis]
          constructor
          · rintro ⟨-, rest⟩
            exact ⟨fun other member both => Bool.false_ne_true both.1, rest⟩
          · rintro ⟨-, rest⟩
            exact ⟨rfl, rest⟩

/-- Lines into which nothing is inserted open a range if one of them starts with
the key of the users. -/
theorem insertUser_append
    {uuid : Line}
    {opened : Bool}
    {front : List Line}
    (unchanged : insertUser uuid opened front = front)
    (lines : List Line) :
    insertUser uuid opened (front ++ lines) =
      front ++ insertUser uuid (opened || front.any startsUsers) lines := by
  induction front generalizing opened with
  | nil => simp
  | cons line others inductionHypothesis =>
      cases opened with
      | false =>
          rw [insertUser, List.cons.injEq] at unchanged
          rw [List.cons_append, insertUser, inductionHypothesis unchanged.2]
          rfl
      | true =>
          have none := (insertUser_true_iff uuid _).mp unchanged line
            List.mem_cons_self
          rw [insertUser, if_neg (by simp [none]), List.cons.injEq]
            at unchanged
          rw [List.cons_append, insertUser, if_neg (by simp [none]),
            inductionHypothesis unchanged.2]
          rfl

/-- The first line of a user is inserted in front of a bracket in a range. -/
theorem exists_insertion
    {uuid : Line}
    {opened : Bool}
    {lines : List Line}
    (changed : insertUser uuid opened lines ≠ lines) :
    ∃ front line rest, lines = front ++ line :: rest ∧
      insertUser uuid opened front = front ∧
      (opened || front.any startsUsers) = true ∧
      startsBracket line = true := by
  induction lines generalizing opened with
  | nil => cases opened <;> exact absurd rfl changed
  | cons line others inductionHypothesis =>
      cases opened with
      | false =>
          rw [insertUser] at changed
          obtain ⟨front, first, rest, rfl, unchanged, inRange, bracket⟩ :=
            inductionHypothesis fun same => changed (by rw [same])
          refine ⟨line :: front, first, rest, rfl, ?_, inRange, bracket⟩
          rw [insertUser, unchanged]
      | true =>
          cases bracket : startsBracket line with
          | true => exact ⟨[], line, others, rfl, rfl, rfl, bracket⟩
          | false =>
              rw [insertUser, if_neg (by simp [bracket])] at changed
              obtain ⟨front, first, rest, rfl, unchanged, -, isFirst⟩ :=
                inductionHypothesis fun same => changed (by rw [same])
              refine ⟨line :: front, first, rest, rfl, ?_, rfl, isFirst⟩
              rw [insertUser, if_neg (by simp [bracket]), unchanged]

/-! ## Brackets in an array -/

/-- A bracket closes an array that is open. -/
theorem eq_closed_of_startsBracket
    {state next : ArrayState}
    {line : Line}
    (between : state.isBetween = true)
    (bracket : startsBracket line = true)
    (read : readArrayLine state line = some next) :
    ∃ values, (state = .value values ∨ state = .comma values) ∧
      next = .closed values := by
  obtain ⟨rest, rfl⟩ := List.isPrefixOf_iff_prefix.mp bracket
  rw [List.singleton_append, readArrayLine, List.foldlM_cons] at read
  cases state with
  | value values =>
      have behind : readArrayLine (.closed values) rest = some next := read
      exact ⟨values, .inl rfl, (of_readArrayLine_closed behind).2⟩
  | comma values =>
      have behind : readArrayLine (.closed values) rest = some next := read
      exact ⟨values, .inr rfl, (of_readArrayLine_closed behind).2⟩
  | closed values => cases read
  | string quote values text => cases between
  | comment behind => cases between

/-- The first line of an array does not start with a bracket. -/
theorem startsBracket_of_readArrayStart
    {line : Line}
    {state : ArrayState}
    (start : readArrayStart allowedUsers line = some state) :
    startsBracket line = false := by
  rw [← Bool.not_eq_true]
  intro bracket
  obtain ⟨rest, rfl⟩ := List.isPrefixOf_iff_prefix.mp bracket
  have noKey : readDefinition ([']'] ++ rest) = none := rfl
  rw [readArrayStart, noKey] at start
  cases start

/-- The lines of an array that may go on hold no line that starts with a
bracket. -/
theorem startsBracket_of_mem
    {front ids : List Line}
    (read : readArray allowedUsers front = some (.value ids)) :
    ∀ line ∈ front, startsBracket line = false := by
  intro line member
  rw [← Bool.not_eq_true]
  intro bracket
  obtain ⟨early, late, rfl⟩ := List.append_of_mem member
  cases early with
  | nil =>
      obtain ⟨first, others, state, same, start, -⟩ :=
        exists_readArrayStart read
      obtain ⟨rfl, -⟩ := List.cons.inj same
      rw [startsBracket_of_readArrayStart start] at bracket
      cases bracket
  | cons first others =>
      obtain ⟨state, found, rest⟩ :=
        exists_readArray_of_append (List.cons_ne_nil first others) read
      rw [List.foldlM_cons] at rest
      obtain ⟨next, here, rest⟩ := Option.bind_eq_some_iff.mp rest
      obtain ⟨values, -, rfl⟩ := eq_closed_of_startsBracket
        (isBetween_of_readArray found) bracket here
      cases (of_foldlM_closed rest).2

/-- A bracket at the start of a line of an array stands on its last line. -/
theorem eq_nil_of_startsBracket
    {front behind ids : List Line}
    {line : Line}
    (isArray : IsArray allowedUsers (front ++ line :: behind) ids)
    (bracket : startsBracket line = true) :
    behind = [] ∧ ∃ state, readArray allowedUsers front = some state ∧
      (state = .value ids ∨ state = .comma ids) := by
  have nonempty : front ≠ [] := by
    rintro rfl
    obtain ⟨first, others, state, same, start, -⟩ :=
      exists_readArrayStart isArray.read
    obtain ⟨rfl, -⟩ := List.cons.inj same
    rw [startsBracket_of_readArrayStart start] at bracket
    cases bracket
  obtain ⟨state, found, rest⟩ :=
    exists_readArray_of_append nonempty isArray.read
  rw [List.foldlM_cons] at rest
  obtain ⟨next, here, rest⟩ := Option.bind_eq_some_iff.mp rest
  obtain ⟨values, states, rfl⟩ := eq_closed_of_startsBracket
    (isBetween_of_readArray found) bracket here
  obtain ⟨free, same⟩ := of_foldlM_closed rest
  obtain rfl := ArrayState.closed.inj same
  refine ⟨?_, state, found, states⟩
  by_contra more
  refine isArray.last ids ?_
  rw [List.dropLast_append_of_ne_nil (List.cons_ne_nil line behind),
    List.dropLast_cons_of_ne_nil more, readArray_append found,
    List.foldlM_cons, here]
  exact foldlM_of_isFree rfl fun other member =>
    free other (List.dropLast_subset behind member)

/-- The last line of an array closes it. -/
theorem readArrayLine_last
    {front ids : List Line}
    {last : Line}
    {state : ArrayState}
    (isArray : IsArray allowedUsers (front ++ [last]) ids)
    (found : readArray allowedUsers front = some state) :
    readArrayLine state last = some (.closed ids) := by
  have complete := isArray.read
  rw [readArray_append found, List.foldlM_cons] at complete
  obtain ⟨next, here, closed⟩ := Option.bind_eq_some_iff.mp complete
  exact here.trans closed

/-- A line that starts with the bracket closes the array whatever its values. -/
theorem readArrayLine_bracket
    {line : Line}
    {ids : List Line}
    (bracket : startsBracket line = true)
    (closed : readArrayLine (.value ids) line = some (.closed ids))
    (others : List Line) :
    readArrayLine (.value others) line = some (.closed others) := by
  obtain ⟨rest, rfl⟩ := List.isPrefixOf_iff_prefix.mp bracket
  have behind : readArrayLine (.closed ids) rest = some (.closed ids) := closed
  have free := (of_readArrayLine_closed behind).1
  exact readArrayLine_of_isFree
    (show (ArrayState.closed others).isBetween = true from rfl) free

/-- The line of a user in front of the last line of an array. -/
theorem readArray_insert
    {front ids : List Line}
    {last uuid : Line}
    (isArray : IsArray allowedUsers (front ++ [last]) ids)
    (plain : IsPlainText uuid)
    (found : readArray allowedUsers front = some (.value ids))
    (bracket : startsBracket last = true) :
    readArray allowedUsers (front ++ [userLine uuid, last]) =
      some (.closed (ids ++ [uuid])) := by
  have entry : readArrayLine (.value ids) (userLine uuid) =
      some (.value (ids ++ [uuid])) := readArrayLine_entry plain ids 4
  have closed := readArrayLine_bracket bracket
    (readArrayLine_last isArray found) (ids ++ [uuid])
  rw [readArray_append found, List.foldlM_cons, entry]
  change [last].foldlM readArrayLine (.value (ids ++ [uuid])) = _
  rw [List.foldlM_cons, closed]
  rfl

/-! ## What the `sed` command keeps -/

/-- The command adds the user to a configuration that it keeps. -/
theorem addsUser_insertUser
    {before array after ids : List Line}
    {uuid : Line}
    (isArray : IsArray allowedUsers array ids)
    (plain : IsPlainText uuid)
    (keeps : SedKeeps before array after ids) :
    AddsUser before ids after uuid
      (insertUser uuid false (before ++ array ++ after)) := by
  obtain ⟨front, last, rfl, bracket, read, starts⟩ := keeps.closes
  have unchanged : insertUser uuid false (before ++ front) =
      before ++ front := by
    refine (insertUser_false_iff ..).mpr (List.pairwise_append.mpr
      ⟨keeps.early, withoutRange_of_forall (startsBracket_of_mem read), ?_⟩)
    rintro first - second member ⟨-, isBracket⟩
    rw [startsBracket_of_mem read second member] at isBracket
    cases isBracket
  refine ⟨front ++ [userLine uuid, last], ids ++ [uuid], ?_,
    readArray_insert isArray plain read bracket, fun id => ?_⟩
  · rw [← List.append_assoc, List.append_assoc (before ++ front),
      insertUser_append unchanged, List.any_eq_true.mpr starts,
      Bool.or_true, List.singleton_append, insertUser, if_pos bracket,
      (insertUser_false_iff ..).mpr keeps.late]
    simp only [List.append_assoc]
    rfl
  · rw [List.mem_append, List.mem_singleton]

/-- A line of the new user in front of the lines that are shared stands in the
array. -/
theorem exists_eq_append
    {uuid : Line}
    {front rest lines after : List Line}
    (unknown : ∀ line ∈ after, quotes uuid line = false)
    (equal : front ++ userLine uuid :: rest = lines ++ after) :
    ∃ more, lines = front ++ userLine uuid :: more ∧ rest = more ++ after := by
  have foreign : userLine uuid ∉ after := fun late => by
    have quoted := unknown _ late
    rw [quotes_userLine] at quoted
    cases quoted
  rcases List.append_eq_append_iff.mp equal with
    ⟨more, rfl, split⟩ | ⟨more, rfl, rfl⟩
  · cases more with
    | nil =>
        rw [List.nil_append] at split
        exact absurd (split ▸ List.mem_cons_self) foreign
    | cons line others =>
        obtain ⟨rfl, rfl⟩ := List.cons.inj split
        exact ⟨others, rfl, rfl⟩
  · exact absurd (List.mem_append_right more List.mem_cons_self) foreign

/-- The insertion is made into the array: in front of it or behind it the line
of the new user would change other lines. -/
theorem exists_insertion_in_array
    {uuid line : Line}
    {before array after lines front behind rest ids values : List Line}
    (complete : readArray allowedUsers array = some (.closed ids))
    (read : readArray allowedUsers lines = some (.closed values))
    (unknown : ∀ line ∈ after, quotes uuid line = false)
    (bracket : startsBracket line = true)
    (split : before ++ array ++ after = front ++ line :: behind)
    (equal : front ++ userLine uuid :: line :: rest =
      before ++ lines ++ after) :
    ∃ inner more, front = before ++ inner ∧ array = inner ++ line :: more ∧
      behind = more ++ after := by
  rw [List.append_assoc] at split equal
  rcases List.append_eq_append_iff.mp split with
    ⟨inner, rfl, left⟩ | ⟨more, rfl, left⟩
  · rw [List.append_assoc, List.append_cancel_left_eq] at equal
    rcases List.append_eq_append_iff.mp left with
      ⟨more, rfl, -⟩ | ⟨more, rfl, here⟩
    · rw [List.append_assoc] at equal
      exact absurd (List.mem_append_right more List.mem_cons_self)
        (not_mem_of_append_eq complete read unknown equal)
    · cases more with
      | nil =>
          rw [List.append_nil] at complete
          exact absurd List.mem_cons_self
            (not_mem_of_append_eq complete read unknown equal)
      | cons first others =>
          rw [List.cons_append] at here
          obtain ⟨rfl, rfl⟩ := List.cons.inj here
          exact ⟨inner, others, rfl, rfl, rfl⟩
  · cases more with
    | nil =>
        rw [List.append_nil, List.append_cancel_left_eq] at equal
        rw [List.nil_append] at left
        cases array with
        | nil => cases complete
        | cons first others =>
            rw [List.cons_append] at left
            obtain ⟨rfl, rfl⟩ := List.cons.inj left
            exact ⟨[], others, by simp, rfl, rfl⟩
    | cons first others =>
        rw [List.append_assoc, List.append_cancel_left_eq, List.cons_append]
          at equal
        rw [List.cons_append] at left
        obtain ⟨rfl, -⟩ := List.cons.inj left
        obtain ⟨rfl, -⟩ := List.cons.inj equal
        cases bracket

/-- A configuration to which the command adds the user is one that it keeps. -/
theorem sedKeeps_of_addsUser
    {before array after ids : List Line}
    {uuid : Line}
    (isArray : IsArray allowedUsers array ids)
    (plain : IsPlainText uuid)
    (isNew : uuid ∉ ids)
    (unknown : ∀ line ∈ before ++ array ++ after, quotes uuid line = false)
    (adds : AddsUser before ids after uuid
      (insertUser uuid false (before ++ array ++ after))) :
    SedKeeps before array after ids := by
  obtain ⟨lines, values, equal, read, members⟩ := adds
  have unknownAfter : ∀ other ∈ after, quotes uuid other = false :=
    fun other member => unknown other (List.mem_append_right _ member)
  have changed : insertUser uuid false (before ++ array ++ after) ≠
      before ++ array ++ after := by
    intro same
    rw [same, List.append_cancel_right_eq, List.append_cancel_left_eq] at equal
    rw [← equal, isArray.read] at read
    obtain rfl := ArrayState.closed.inj (Option.some.inj read)
    exact isNew ((members uuid).mpr (.inr rfl))
  obtain ⟨front, line, behind, split, unchanged, inRange, bracket⟩ :=
    exists_insertion changed
  rw [split, insertUser_append unchanged, inRange, insertUser, if_pos bracket]
    at equal
  obtain ⟨inner, more, rfl, rfl, rfl⟩ := exists_insertion_in_array
    isArray.read read unknownAfter bracket split equal
  obtain ⟨rfl, state, found, states⟩ := eq_nil_of_startsBracket isArray bracket
  rw [List.nil_append, List.append_assoc, List.append_assoc,
    List.append_cancel_left_eq] at equal
  rcases states with rfl | rfl
  · have complete := readArray_insert isArray plain found bracket
    have without : userLine uuid ∉ insertUser uuid false after := by
      refine not_mem_of_append_eq complete read unknownAfter ?_
      rw [List.append_assoc]
      exact equal
    have kept : insertUser uuid false after = after := by
      by_contra again
      obtain ⟨early, next, rest, rfl, same, opened, isNext⟩ :=
        exists_insertion again
      rw [insertUser_append same, opened, insertUser, if_pos isNext] at without
      exact without (List.mem_append_right early List.mem_cons_self)
    rw [Bool.false_or, List.any_eq_true] at inRange
    exact {
      closes := ⟨inner, line, rfl, bracket, found, inRange⟩
      early := (List.pairwise_append.mp
        ((insertUser_false_iff ..).mp unchanged)).1
      late := (insertUser_false_iff ..).mp kept }
  · -- Behind a value without a comma the new line is none of an array.
    obtain ⟨more, rfl, -⟩ := exists_eq_append unknownAfter equal
    rw [readArray_append found, List.foldlM_cons] at read
    cases read

end Deploy
end GhostProtocol
