import GhostProtocol.Deploy.Users

/-!
# When the Python program keeps the configuration

The Python program drops every line between the array and the next comment or
header that is not blank, and it writes the array for every line that seems to
define it.  Comments within the old array end it early.  This module says
exactly for which configurations the new array holds the old users and the new
one, and all other lines stay.
-/

namespace GhostProtocol
namespace Deploy

open Foundation Toml

/-! ## Stripped lines -/

/-- Blanks are white space in Python. -/
theorem isPythonSpace_of_isBlank
    {char : Char}
    (blank : isBlank char = true) :
    isPythonSpace char = true := by
  simp only [isBlank, Bool.or_eq_true, decide_eq_true_eq] at blank
  rcases blank with rfl | rfl <;> rfl

/-- A blank line is empty when stripped. -/
theorem strip_of_skipBlanks_nil
    {line : Line}
    (skipped : skipBlanks line = []) :
    strip line = [] := by
  have blank : ∀ char ∈ line, isPythonSpace char = true := fun char member =>
    isPythonSpace_of_isBlank (List.dropWhile_eq_nil_iff.mp skipped char member)
  rw [strip, List.dropWhile_eq_nil_iff.mpr blank]
  rfl

/-- A line starts, when stripped, with its first character behind the
blanks. -/
theorem strip_of_skipBlanks_cons
    {line rest : Line}
    {char : Char}
    (skipped : skipBlanks line = char :: rest)
    (visible : isPythonSpace char = false) :
    ∃ behind, strip line = char :: behind := by
  have split := eq_append_skipBlanks line
  have dropped : line.dropWhile isPythonSpace = char :: rest := by
    rw [split, skipped, List.dropWhile_append_of_pos fun blank member =>
      isPythonSpace_of_isBlank (List.mem_takeWhile_imp member)]
    exact List.dropWhile_cons_of_neg (by simp [visible])
  rw [strip, dropped]
  obtain ⟨dropEnd, same⟩ := List.rdropWhile_prefix isPythonSpace (char :: rest)
  cases left : (char :: rest).rdropWhile isPythonSpace with
  | nil =>
      have space := List.rdropWhile_eq_nil_iff.mp left char List.mem_cons_self
      rw [visible] at space
      cases space
  | cons first behind =>
      rw [left, List.cons_append] at same
      obtain ⟨rfl, -⟩ := List.cons.inj same
      exact ⟨behind, rfl⟩

/-- A line of an array that starts with a visible character when stripped
starts with a quote, a comma, a bracket or a number sign. -/
theorem strip_of_readArrayLine
    {state next : ArrayState}
    {line : Line}
    (between : state.isBetween = true)
    (read : readArrayLine state line = some next) :
    strip line = [] ∧ isFree line = true ∨
      ∃ char behind, strip line = char :: behind ∧
        char ∈ ['"', '\'', ',', ']', '#'] := by
  rcases isFree_or_of_readArrayLine between read with
    free | ⟨char, rest, skipped, known⟩
  · cases skipped : skipBlanks line with
    | nil => exact .inl ⟨strip_of_skipBlanks_nil skipped, free⟩
    | cons char rest =>
        have comment := free
        rw [isFree, skipped] at comment
        obtain rfl := of_decide_eq_true comment
        obtain ⟨behind, same⟩ :=
          strip_of_skipBlanks_cons skipped (by decide)
        exact .inr ⟨'#', behind, same, by decide⟩
  · have visible : isPythonSpace char = false := by
      simp only [List.mem_cons, List.not_mem_nil, or_false] at known
      rcases known with rfl | rfl | rfl | rfl <;> decide
    obtain ⟨behind, same⟩ := strip_of_skipBlanks_cons skipped visible
    refine .inr ⟨char, behind, same, ?_⟩
    simp only [List.mem_cons, List.not_mem_nil, or_false] at known ⊢
    tauto

/-- No line of an array behind its first seems to define the users. -/
theorem opensUsers_of_readArrayLine
    {state next : ArrayState}
    {line : Line}
    (between : state.isBetween = true)
    (read : readArrayLine state line = some next) :
    opensUsers line = false := by
  rw [opensUsers]
  rcases strip_of_readArrayLine between read with
    ⟨empty, -⟩ | ⟨char, behind, same, known⟩
  · rw [empty]
    rfl
  · rw [same]
    simp only [List.mem_cons, List.not_mem_nil, or_false] at known
    rcases known with rfl | rfl | rfl | rfl | rfl <;> rfl

/-- None of the lines of an array behind its first seems to define the users. -/
theorem opensUsers_of_mem_array
    {line : Line}
    {inner : List Line}
    {state : ArrayState}
    (read : readArray allowedUsers (line :: inner) = some state) :
    ∀ other ∈ inner, opensUsers other = false := by
  intro other member
  obtain ⟨before, after, between, here⟩ :=
    exists_readArrayLine_of_mem read member
  exact opensUsers_of_readArrayLine between here

/-- A line that starts with the key of the users seems to define them. -/
theorem opensUsers_of_startsUsers
    {line : Line}
    (starts : startsUsers line = true) :
    opensUsers line = true := by
  obtain ⟨rest, rfl⟩ := List.isPrefixOf_iff_prefix.mp starts
  have dropped : (allowedUsers ++ rest).dropWhile isPythonSpace =
      allowedUsers ++ rest :=
    List.dropWhile_cons_of_neg (by decide)
  have kept : allowedUsers.reverse.dropWhile isPythonSpace =
      allowedUsers.reverse := by decide
  rw [opensUsers, strip, dropped, List.rdropWhile, List.reverse_append,
    List.dropWhile_append, kept, List.isPrefixOf_iff_prefix]
  split_ifs
  · rw [List.reverse_reverse]
  · rw [List.reverse_append, List.reverse_reverse]
    exact List.prefix_append _ _

/-! ## Present users -/

/-- An id that is found stands between double quotes and has the form of an
id. -/
theorem of_mem_quotedIds
    {id line : Line}
    {skip : Nat}
    (found : id ∈ quotedIds skip line) :
    isIdText id = true ∧ quotes id line = true := by
  have longer : ∀ {char : Char} {rest : Line},
      quotes id rest = true → quotes id (char :: rest) = true := by
    intro char rest quoted
    exact decide_eq_true ((of_decide_eq_true quoted).trans
      (List.infix_cons (List.infix_refl rest)))
  induction line generalizing skip with
  | nil => cases skip <;> cases found
  | cons char rest inductionHypothesis =>
      cases skip with
      | succ skip =>
          obtain ⟨isId, quoted⟩ := inductionHypothesis found
          exact ⟨isId, longer quoted⟩
      | zero =>
          rw [quotedIds] at found
          split_ifs at found with here
          · rcases List.mem_cons.mp found with rfl | later
            · obtain ⟨rfl, isId, closing⟩ := here
              obtain ⟨inside, quote⟩ := List.getElem?_eq_some_iff.mp closing
              refine ⟨isId, decide_eq_true (List.IsPrefix.isInfix ?_)⟩
              refine ⟨rest.drop 33, ?_⟩
              rw [List.cons_append, List.append_assoc, List.singleton_append,
                ← quote, List.getElem_cons_drop, List.take_append_drop]
            · obtain ⟨isId, quoted⟩ := inductionHypothesis later
              exact ⟨isId, longer quoted⟩
          · obtain ⟨isId, quoted⟩ := inductionHypothesis found
            exact ⟨isId, longer quoted⟩

/-- What `grep` prints are lines of the file. -/
theorem mem_of_mem_grepAfter
    {line : Line}
    {left : Nat}
    {config : TextFile}
    (found : line ∈ grepAfter left config) :
    line ∈ config := by
  induction config generalizing left with
  | nil => cases left <;> cases found
  | cons first others inductionHypothesis =>
      have here : ∀ {lines : List Line},
          (line ∈ lines → line ∈ others) → line ∈ first :: lines →
            line ∈ first :: others := by
        intro lines inside member
        rcases List.mem_cons.mp member with rfl | later
        · exact List.mem_cons_self
        · exact List.mem_cons_of_mem first (inside later)
      cases left with
      | zero =>
          rw [grepAfter] at found
          split_ifs at found
          · exact here inductionHypothesis found
          · exact List.mem_cons_of_mem first (inductionHypothesis found)
      | succ left =>
          rw [grepAfter] at found
          split_ifs at found
          · exact here inductionHypothesis found
          · exact here inductionHypothesis found

/-- A present user has the form of an id and stands between double quotes. -/
theorem of_mem_currentUsers
    {id : Line}
    {config : TextFile}
    (found : id ∈ currentUsers config) :
    isIdText id = true ∧ config.any (quotes id) = true := by
  obtain ⟨line, member, inside⟩ := List.mem_flatMap.mp found
  obtain ⟨isId, quoted⟩ := of_mem_quotedIds inside
  exact ⟨isId, List.any_eq_true.mpr ⟨line, mem_of_mem_grepAfter member, quoted⟩⟩

/-- An id that stands between double quotes in no line is no present user. -/
theorem notMem_currentUsers
    {uuid : Line}
    {config : TextFile}
    (unknown : ∀ line ∈ config, quotes uuid line = false) :
    uuid ∉ currentUsers config := by
  intro listed
  obtain ⟨line, member, quoted⟩ :=
    List.any_eq_true.mp (of_mem_currentUsers listed).2
  rw [unknown line member] at quoted
  cases quoted

/-- Without a line that starts with the key of the users `grep` prints
nothing. -/
theorem grepAfter_of_forall
    {config : TextFile}
    (foreign : ∀ line ∈ config, startsUsers line = false) :
    grepAfter 0 config = [] := by
  induction config with
  | nil => rfl
  | cons first others inductionHypothesis =>
      rw [grepAfter, foreign first List.mem_cons_self,
        if_neg Bool.false_ne_true]
      exact inductionHypothesis fun other member =>
        foreign other (List.mem_cons_of_mem first member)

/-- If there are present users, a line starts with their key. -/
theorem exists_startsUsers_of_currentUsers
    {config : TextFile}
    (present : currentUsers config ≠ []) :
    ∃ line ∈ config, startsUsers line = true := by
  by_contra none
  simp only [not_exists, not_and, Bool.not_eq_true] at none
  refine present ?_
  rw [currentUsers, grepAfter_of_forall none]
  rfl

/-! ## The lines of the new array -/

/-- Text without double quotes and backslashes. -/
def IsPlainText (text : Line) : Prop :=
  ∀ char ∈ text, char ≠ '"' ∧ char ≠ '\\'

/-- Hexadecimal text is plain. -/
theorem isPlainText_of_hexDigits
    {text : Line}
    (digits : ∀ char ∈ text, Text.isHexDigit char = true) :
    IsPlainText text := by
  intro char member
  have digit := digits char member
  constructor
  · rintro rfl
    revert digit
    decide
  · rintro rfl
    revert digit
    decide

/-- Text of the form of an id is plain. -/
theorem isPlainText_of_isIdText
    {text : Line}
    (isId : isIdText text = true) :
    IsPlainText text := by
  refine isPlainText_of_hexDigits fun char member => ?_
  rw [isIdText, Bool.and_eq_true, List.all_eq_true] at isId
  have digit := isId.2 char member
  rw [isIdChar, Bool.or_eq_true] at digit
  rw [Text.isHexDigit, Bool.or_eq_true, Bool.or_eq_true]
  exact .inl digit

/-- The present users and a new one have plain ids. -/
theorem isPlainText_of_mem_users
    (config : TextFile)
    {uuid : Line}
    (plain : IsPlainText uuid) :
    ∀ user ∈ currentUsers config ++ [uuid], IsPlainText user := by
  intro user member
  rcases List.mem_append.mp member with old | new
  · exact isPlainText_of_isIdText (of_mem_currentUsers old).1
  · rw [List.mem_singleton.mp new]
    exact plain

/-- The line of a user holds its id between double quotes. -/
theorem quotes_userLine (uuid : Line) :
    quotes uuid (userLine uuid) = true := by
  refine decide_eq_true ⟨List.replicate 4 ' ', [','], ?_⟩
  simp [userLine]

/-- The line of a user is neither blank nor a comment. -/
theorem isFree_userLine (uuid : Line) :
    isFree (userLine uuid) = false := by
  rfl

/-- The array of users does not start with the line of a user. -/
theorem readArrayStart_userLine
    {uuid : Line}
    (plain : IsPlainText uuid) :
    readArrayStart allowedUsers (userLine uuid) = none := by
  have key : readKey (skipBlanks (userLine uuid)) = some (uuid, [',']) := by
    change Quoting.read ⟨'"', 1⟩ .plain (uuid ++ '"' :: [',']) = _
    exact read_of_plain plain [',']
  have definition : readDefinition (userLine uuid) = none := by
    rw [readDefinition, key]
    rfl
  rw [readArrayStart, definition]

/-- The lines of users in an array. -/
theorem foldlM_userLines
    {users : List Line}
    (plain : ∀ user ∈ users, IsPlainText user)
    (values : List Line) :
    (users.map userLine).foldlM readArrayLine (.value values) =
      some (.value (values ++ users)) := by
  induction users generalizing values with
  | nil => rw [List.append_nil]; rfl
  | cons user others inductionHypothesis =>
      rw [List.map_cons, List.foldlM_cons, userLine,
        readArrayLine_entry (plain user List.mem_cons_self)]
      change (others.map userLine).foldlM readArrayLine _ = _
      rw [inductionHypothesis fun other member =>
        plain other (List.mem_cons_of_mem user member), List.append_assoc]
      rfl

/-- The new array has a line for the new user. -/
theorem userLine_mem_newArray (users : List Line) (uuid : Line) :
    userLine uuid ∈ newArray (users ++ [uuid]) :=
  List.mem_cons_of_mem _ (List.mem_append_left _ (List.mem_map_of_mem
    (List.mem_append_right users (List.mem_singleton_self uuid))))

/-- The new array holds the users. -/
theorem readArray_newArray
    {users : List Line}
    (plain : ∀ user ∈ users, IsPlainText user) :
    readArray allowedUsers (newArray users) = some (.closed users) := by
  have start : readArrayStart allowedUsers "allowed_users = [".toList =
      some (.value []) := by decide
  rw [newArray, readArray, start]
  dsimp only
  rw [List.foldlM_append, foldlM_userLines plain]
  rfl

/-! ## What the Python program keeps -/

/-- Lines in front of the array are kept. -/
theorem rewriteUsers_append
    {front : List Line}
    (foreign : ∀ line ∈ front, opensUsers line = false)
    (array lines : List Line) :
    rewriteUsers array false (front ++ lines) =
      front ++ rewriteUsers array false lines := by
  induction front with
  | nil => rfl
  | cons line others inductionHypothesis =>
      rw [List.cons_append, rewriteUsers,
        if_neg (by simp [foreign line List.mem_cons_self]),
        if_neg Bool.false_ne_true, inductionHypothesis fun other member =>
          foreign other (List.mem_cons_of_mem line member)]
      rfl

/-- Of the lines behind the array up to its end the blank ones are kept. -/
theorem rewriteUsers_skip
    {front : List Line}
    (foreign : ∀ line ∈ front, opensUsers line = false)
    (inside : ∀ line ∈ front, endsUsers line = false)
    (array lines : List Line) :
    rewriteUsers array true (front ++ lines) =
      front.filter (strip · = []) ++ rewriteUsers array true lines := by
  induction front with
  | nil => rfl
  | cons line others inductionHypothesis =>
      have rest := inductionHypothesis
        (fun other member => foreign other (List.mem_cons_of_mem line member))
        (fun other member => inside other (List.mem_cons_of_mem line member))
      rw [List.cons_append, rewriteUsers,
        if_neg (by simp [foreign line List.mem_cons_self]), if_pos rfl,
        if_neg (by simp [inside line List.mem_cons_self]), rest,
        List.filter_cons]
      split_ifs with blank blank' blank'
      · rfl
      · exact absurd (decide_eq_true blank) blank'
      · exact absurd (of_decide_eq_true blank') blank
      · rfl

/-- From the end of the array on all lines are kept. -/
theorem rewriteUsers_end
    {line : Line}
    {lines : List Line}
    (foreign : ∀ other ∈ line :: lines, opensUsers other = false)
    (ends : endsUsers line = true)
    (array : List Line) :
    rewriteUsers array true (line :: lines) = line :: lines := by
  have rest := rewriteUsers_append (fun other member =>
    foreign other (List.mem_cons_of_mem line member)) array []
  rw [List.append_nil] at rest
  rw [rewriteUsers, if_neg (by simp [foreign line List.mem_cons_self]),
    if_pos rfl, if_pos ends, rest]
  simp [rewriteUsers]

/-- Every line that seems to define the users brings in the array. -/
theorem mem_rewriteUsers_of_opensUsers
    {array lines : List Line}
    {line added : Line}
    (member : line ∈ lines)
    (opens : opensUsers line = true)
    (inArray : added ∈ array)
    (skip : Bool) :
    added ∈ rewriteUsers array skip lines := by
  induction lines generalizing skip with
  | nil => cases member
  | cons first others inductionHypothesis =>
      rw [rewriteUsers]
      split_ifs with here skipping ends blank
      · exact List.mem_append_left _ inArray
      all_goals
        have later : line ∈ others := by
          rcases List.mem_cons.mp member with rfl | later
          · exact absurd opens here
          · exact later
      · exact List.mem_cons_of_mem first (inductionHypothesis later false)
      · exact List.mem_cons_of_mem first (inductionHypothesis later true)
      · exact inductionHypothesis later true
      · exact List.mem_cons_of_mem first (inductionHypothesis later false)

/-- A list is cut in front of its first element with a property. -/
theorem exists_first_of_mem
    {property : Line → Bool}
    {lines : List Line}
    {line : Line}
    (member : line ∈ lines)
    (holds : property line = true) :
    ∃ front first behind, lines = front ++ first :: behind ∧
      property first = true ∧ ∀ other ∈ front, property other = false := by
  induction lines with
  | nil => cases member
  | cons head others inductionHypothesis =>
      cases here : property head with
      | true => exact ⟨[], head, others, rfl, here, nofun⟩
      | false =>
          have later : line ∈ others := by
            rcases List.mem_cons.mp member with rfl | later
            · rw [holds] at here
              cases here
            · exact later
          obtain ⟨front, first, behind, rfl, isFirst, foreign⟩ :=
            inductionHypothesis later
          exact ⟨head :: front, first, behind, rfl, isFirst,
            List.forall_mem_cons.mpr ⟨here, foreign⟩⟩

/-- The lines that a configuration with the new user shares with the old one
hold no second line of that user: not behind a complete array. -/
theorem not_mem_of_append_eq
    {uuid : Line}
    {array values lines after rest : List Line}
    {users : List Line}
    (complete : readArray allowedUsers array = some (.closed values))
    (read : readArray allowedUsers lines = some (.closed users))
    (unknown : ∀ line ∈ after, quotes uuid line = false)
    (equal : array ++ rest = lines ++ after) :
    userLine uuid ∉ rest := by
  intro member
  have foreign : userLine uuid ∉ after := fun late => by
    have quoted := unknown _ late
    rw [quotes_userLine] at quoted
    cases quoted
  rcases List.append_eq_append_iff.mp equal with
    ⟨more, rfl, rfl⟩ | ⟨more, rfl, rfl⟩
  · obtain ⟨free, -⟩ := of_readArray_append complete read
    rcases List.mem_append.mp member with inside | late
    · have isFree := free _ inside
      rw [isFree_userLine] at isFree
      cases isFree
    · exact foreign late
  · exact foreign (List.mem_append_right more member)

/-- The configurations that the Python program keeps: the ids that `grep` finds
are those of the array, of all lines only the first of the array seems to define
the users, no line of the array starts with a comment, and only blank lines
stand between the array and the next comment or header. -/
structure PythonKeeps
    (before array after ids : List Line) : Prop where
  users : ∀ id, id ∈ currentUsers (before ++ array ++ after) ↔ id ∈ ids
  foreign : ∀ line, line ∈ before ∨ line ∈ after → opensUsers line = false
  first : ∀ line ∈ array.head?, opensUsers line = true
  inner : ∀ line ∈ array.tail, endsUsers line = false
  skipped : ∀ line ∈ after.takeWhile (!endsUsers ·), strip line = []

/-- Behind an array the lines up to the next comment or header are kept if and
only if they are blank. -/
theorem rewriteUsers_after
    {after : List Line}
    (foreign : ∀ line ∈ after, opensUsers line = false)
    (array : List Line) :
    ∃ rest, after = after.takeWhile (!endsUsers ·) ++ rest ∧
      rewriteUsers array true after =
        (after.takeWhile (!endsUsers ·)).filter (strip · = []) ++ rest := by
  have split : after = after.takeWhile (!endsUsers ·) ++
      after.dropWhile (!endsUsers ·) :=
    List.takeWhile_append_dropWhile.symm
  have inside : ∀ line ∈ after.takeWhile (!endsUsers ·),
      endsUsers line = false := fun line member => by
    simpa using List.mem_takeWhile_imp member
  refine ⟨after.dropWhile (!endsUsers ·), split, ?_⟩
  have skipped := rewriteUsers_skip (fun line member =>
    foreign line ((List.takeWhile_prefix _).subset member)) inside array
      (after.dropWhile (!endsUsers ·))
  rw [← split] at skipped
  rw [skipped]
  cases dropped : after.dropWhile (!endsUsers ·) with
  | nil => rfl
  | cons line lines =>
      have ends : endsUsers line = true := by
        have head := List.head?_dropWhile_not (!endsUsers ·) after
        rw [dropped] at head
        simpa using head
      rw [rewriteUsers_end (fun other member => foreign other (by
        rw [split, dropped]
        exact List.mem_append_right _ member)) ends]

/-- The program adds the user to a configuration that it keeps. -/
theorem addsUser_rewriteUsers
    {before array after ids : List Line}
    {uuid : Line}
    (isArray : IsArray allowedUsers array ids)
    (plain : IsPlainText uuid)
    (keeps : PythonKeeps before array after ids) :
    AddsUser before ids after uuid
      (rewriteUsers
        (newArray (currentUsers (before ++ array ++ after) ++ [uuid])) false
        (before ++ array ++ after)) := by
  have read := isArray.read
  cases array with
  | nil => cases read
  | cons line inner =>
      generalize found :
        currentUsers (before ++ (line :: inner) ++ after) = users
      have users_iff := keeps.users
      rw [found] at users_iff
      have plainUsers := isPlainText_of_mem_users
        (before ++ (line :: inner) ++ after) plain
      rw [found] at plainUsers
      have innerForeign := opensUsers_of_mem_array read
      have innerFree : ∀ other ∈ inner.filter (strip · = []),
          isFree other = true := by
        intro other member
        obtain ⟨inside, empty⟩ := List.mem_filter.mp member
        obtain ⟨state, next, between, here⟩ :=
          exists_readArrayLine_of_mem read inside
        rcases strip_of_readArrayLine between here with
          ⟨-, free⟩ | ⟨char, behind, same, -⟩
        · exact free
        · rw [of_decide_eq_true empty] at same
          cases same
      obtain ⟨rest, split, skipped⟩ :=
        rewriteUsers_after
          (fun other member => keeps.foreign other (.inr member))
          (newArray (users ++ [uuid]))
      have blank : (after.takeWhile (!endsUsers ·)).filter (strip · = []) =
          after.takeWhile (!endsUsers ·) :=
        List.filter_eq_self.mpr fun other member =>
          decide_eq_true (keeps.skipped other member)
      refine ⟨newArray (users ++ [uuid]) ++ inner.filter (strip · = []),
        users ++ [uuid], ?_, ?_, fun id => ?_⟩
      · rw [List.append_assoc, rewriteUsers_append
            fun other member => keeps.foreign other (.inl member),
          List.cons_append, rewriteUsers,
          if_pos (keeps.first line rfl),
          rewriteUsers_skip innerForeign keeps.inner, skipped, blank, ← split]
        simp only [List.append_assoc]
      · rw [readArray_append (readArray_newArray plainUsers),
          foldlM_of_isFree rfl innerFree]
      · rw [List.mem_append, List.mem_singleton, users_iff]

/-- No line in front of the array seems to define the users: the program would
write the new array in its place. -/
theorem foreign_before
    {before rest lines after values users : List Line}
    {uuid : Line}
    (plain : ∀ user ∈ users ++ [uuid], IsPlainText user)
    (unknown : ∀ line ∈ before, quotes uuid line = false)
    (read : readArray allowedUsers lines = some (.closed values))
    (equal : rewriteUsers (newArray (users ++ [uuid])) false (before ++ rest) =
      before ++ lines ++ after) :
    ∀ line ∈ before, opensUsers line = false := by
  intro line member
  rw [← Bool.not_eq_true]
  intro opens
  obtain ⟨front, first, behind, rfl, isFirst, foreign⟩ :=
    exists_first_of_mem member opens
  rw [List.append_assoc, rewriteUsers_append foreign, List.cons_append,
    rewriteUsers, if_pos isFirst, List.append_assoc, List.append_assoc,
    List.append_cancel_left_eq, newArray, List.cons_append, List.cons_append,
    List.append_assoc] at equal
  have entries := (List.cons.inj equal).2
  obtain ⟨head, others, state, rfl, start, -⟩ := exists_readArrayStart read
  rcases List.append_eq_append_iff.mp entries with
    ⟨more, inside, -⟩ | ⟨more, inside, left⟩
  · -- The line of the new user would stand in the configuration already.
    have early : userLine uuid ∈ behind := by
      rw [inside]
      refine List.mem_append_left _ (List.mem_map_of_mem ?_)
      exact List.mem_append_right _ (List.mem_singleton_self uuid)
    have quoted := unknown _
      (List.mem_append_right front (List.mem_cons_of_mem first early))
    rw [quotes_userLine] at quoted
    cases quoted
  · -- The array would start with one of the lines behind the new key.
    cases more with
    | nil =>
        rw [List.nil_append, List.cons_append, List.cons_append] at left
        obtain ⟨rfl, -⟩ := List.cons.inj left
        have stuck : readArrayStart allowedUsers [']'] = none := by decide
        rw [stuck] at start
        cases start
    | cons entry others =>
        rw [List.cons_append, List.cons_append] at left
        obtain ⟨rfl, -⟩ := List.cons.inj left
        have isEntry : head ∈ (users ++ [uuid]).map userLine := by
          rw [inside]
          exact List.mem_append_right _ List.mem_cons_self
        obtain ⟨user, isUser, rfl⟩ := List.mem_map.mp isEntry
        rw [readArrayStart_userLine (plain user isUser)] at start
        cases start

/-- The lines around the new array are kept: what the program leaves of the
lines behind it are blank lines and comments, and all lines behind the array. -/
theorem eq_newArray_append
    {rest lines after values users : List Line}
    {uuid : Line}
    (plain : ∀ user ∈ users ++ [uuid], IsPlainText user)
    (read : readArray allowedUsers lines = some (.closed values))
    (equal : newArray (users ++ [uuid]) ++ rest = lines ++ after) :
    values = users ++ [uuid] ∧ ∃ more, rest = more ++ after ∧
      ∀ line ∈ more, isFree line = true := by
  have complete := readArray_newArray plain
  rcases List.append_eq_append_iff.mp equal with
    ⟨more, rfl, rfl⟩ | ⟨more, array, rfl⟩
  · obtain ⟨free, same⟩ := of_readArray_append complete read
    exact ⟨ArrayState.closed.inj same, more, rfl, free⟩
  · rw [array] at complete
    obtain ⟨free, same⟩ := of_readArray_append read complete
    cases none : more with
    | nil => exact ⟨(ArrayState.closed.inj same).symm, [], rfl, nofun⟩
    | cons first others =>
        have bracket : [']'] ∈ more := by
          have last := congrArg List.getLast? array
          rw [newArray, ← List.cons_append, List.getLast?_concat,
            List.getLast?_append_of_ne_nil _ (by simp [none])] at last
          exact List.mem_of_getLast? last.symm
        have isFree := free _ bracket
        cases isFree

/-- No line of the array is a comment or a header: the program would keep what
follows it, to the end of the old array. -/
theorem not_endsUsers_of_eq
    {line : Line}
    {inner more after values : List Line}
    (isArray : IsArray allowedUsers (line :: inner) values)
    (foreign : ∀ other ∈ inner ++ after, opensUsers other = false)
    (free : ∀ other ∈ more, isFree other = true)
    {array : List Line}
    (equal : rewriteUsers array true (inner ++ after) = more ++ after) :
    ∀ other ∈ inner, endsUsers other = false := by
  intro other member
  rw [← Bool.not_eq_true]
  intro ends
  obtain ⟨front, first, behind, rfl, isFirst, inside⟩ :=
    exists_first_of_mem member ends
  rw [List.append_assoc, List.cons_append] at equal foreign
  rw [rewriteUsers_skip
      (fun _ early => foreign _ (List.mem_append_left _ early)) inside,
    rewriteUsers_end
      (fun _ late => foreign _ (List.mem_append_right _ late)) isFirst,
    ← List.cons_append, ← List.append_assoc,
    List.append_cancel_right_eq] at equal
  obtain ⟨init, last, split⟩ : ∃ init last, first :: behind = init ++ [last] :=
    ⟨_, _, (List.dropLast_append_getLast (List.cons_ne_nil first behind)).symm⟩
  have closing : isFree last = false := by
    rw [split, ← List.append_assoc, ← List.cons_append] at isArray
    exact isArray.not_isFree (List.cons_ne_nil _ _)
  have isMore : last ∈ more := by
    rw [← equal, split]
    exact List.mem_append_right _
      (List.mem_append_right _ (List.mem_singleton_self last))
  rw [free last isMore] at closing
  cases closing

/-- The first line of the array seems to define the users: otherwise the program
would write the new array behind the old one. -/
theorem opensUsers_of_eq
    {line : Line}
    {inner after lines ids values users : List Line}
    {uuid : Line}
    (complete : readArray allowedUsers (line :: inner) = some (.closed ids))
    (read : readArray allowedUsers lines = some (.closed values))
    (innerForeign : ∀ other ∈ inner, opensUsers other = false)
    (unknown : ∀ other ∈ after, quotes uuid other = false)
    (opening : ∃ other ∈ line :: inner ++ after, opensUsers other = true)
    (equal : rewriteUsers (newArray (users ++ [uuid])) false
      (line :: inner ++ after) = lines ++ after) :
    opensUsers line = true := by
  rw [← Bool.not_eq_false]
  intro silent
  have foreign : ∀ other ∈ line :: inner, opensUsers other = false :=
    List.forall_mem_cons.mpr ⟨silent, innerForeign⟩
  rw [rewriteUsers_append foreign] at equal
  obtain ⟨other, member, isOther⟩ := opening
  rcases List.mem_append.mp member with early | late
  · rw [foreign other early] at isOther
    cases isOther
  · exact not_mem_of_append_eq complete read unknown equal
      (mem_rewriteUsers_of_opensUsers late isOther
        (userLine_mem_newArray users uuid) false)

/-- Only blank lines stand between the array and the next comment or header:
the program would drop the others. -/
theorem strip_of_eq
    {inner more after array : List Line}
    (innerForeign : ∀ other ∈ inner, opensUsers other = false)
    (inside : ∀ other ∈ inner, endsUsers other = false)
    (afterForeign : ∀ other ∈ after, opensUsers other = false)
    (kept : rewriteUsers array true (inner ++ after) = more ++ after) :
    ∀ other ∈ after.takeWhile (!endsUsers ·), strip other = [] := by
  intro other member
  obtain ⟨rest, split, skipped⟩ := rewriteUsers_after afterForeign array
  rw [rewriteUsers_skip innerForeign inside, skipped] at kept
  have blanks : inner.filter (strip · = []) ++
        (after.takeWhile (!endsUsers ·)).filter (strip · = []) =
      more ++ after.takeWhile (!endsUsers ·) := by
    refine (List.append_left_inj rest).mp ?_
    rw [List.append_assoc, List.append_assoc, ← split]
    exact kept
  have isBlank : other ∈ inner.filter (strip · = []) ++
      (after.takeWhile (!endsUsers ·)).filter (strip · = []) := by
    rw [blanks]
    exact List.mem_append_right more member
  rcases List.mem_append.mp isBlank with early | late
  · exact of_decide_eq_true (List.mem_filter.mp early).2
  · exact of_decide_eq_true (List.mem_filter.mp late).2

/-- If adding one new user to two lists gives the same users, the lists have
the same users. -/
theorem mem_iff_of_new
    {ids users : List Line}
    {uuid : Line}
    (isNew : uuid ∉ ids)
    (unlisted : uuid ∉ users)
    (members : ∀ id, id ∈ users ++ [uuid] ↔ id ∈ ids ∨ id = uuid) :
    ∀ id, id ∈ users ↔ id ∈ ids := by
  intro id
  have same := members id
  rw [List.mem_append, List.mem_singleton] at same
  constructor
  · intro listed
    rcases same.mp (.inl listed) with old | rfl
    · exact old
    · exact absurd listed unlisted
  · intro old
    rcases same.mpr (.inl old) with listed | rfl
    · exact listed
    · exact absurd old isNew

/-- A configuration to which the program adds the user is one that it keeps. -/
theorem pythonKeeps_of_addsUser
    {before array after ids : List Line}
    {uuid : Line}
    (isArray : IsArray allowedUsers array ids)
    (plain : IsPlainText uuid)
    (isNew : uuid ∉ ids)
    (unknown : ∀ line ∈ before ++ array ++ after, quotes uuid line = false)
    (present : currentUsers (before ++ array ++ after) ≠ [])
    (adds : AddsUser before ids after uuid
      (rewriteUsers
        (newArray (currentUsers (before ++ array ++ after) ++ [uuid])) false
        (before ++ array ++ after))) :
    PythonKeeps before array after ids := by
  have complete := isArray.read
  cases array with
  | nil => cases complete
  | cons line inner =>
      obtain ⟨lines, values, equal, read, members⟩ := adds
      have plainUsers := isPlainText_of_mem_users
        (before ++ (line :: inner) ++ after) plain
      have unlisted := notMem_currentUsers unknown
      have innerForeign := opensUsers_of_mem_array complete
      obtain ⟨opening, isLine, starts⟩ :=
        exists_startsUsers_of_currentUsers present
      generalize found : currentUsers (before ++ (line :: inner) ++ after) =
        users at plainUsers unlisted equal
      rw [List.append_assoc] at equal unknown isLine
      have unknownBefore : ∀ other ∈ before, quotes uuid other = false :=
        fun other member => unknown other (List.mem_append_left _ member)
      have unknownAfter : ∀ other ∈ after, quotes uuid other = false :=
        fun other member => unknown other
          (List.mem_append_right _ (List.mem_append_right _ member))
      have beforeForeign := foreign_before plainUsers unknownBefore read equal
      rw [rewriteUsers_append beforeForeign, List.append_assoc,
        List.append_cancel_left_eq] at equal
      have isOpening := opensUsers_of_startsUsers starts
      have behind : opening ∈ line :: inner ++ after := by
        rcases List.mem_append.mp isLine with early | behind
        · rw [beforeForeign opening early] at isOpening
          cases isOpening
        · exact behind
      have opens := opensUsers_of_eq complete read innerForeign unknownAfter
        ⟨opening, behind, isOpening⟩ equal
      rw [List.cons_append, rewriteUsers, if_pos opens] at equal
      have foreign : ∀ other ∈ inner ++ after, opensUsers other = false := by
        intro other member
        rw [← Bool.not_eq_true]
        intro isOther
        exact not_mem_of_append_eq (readArray_newArray plainUsers) read
          unknownAfter equal (mem_rewriteUsers_of_opensUsers member isOther
            (userLine_mem_newArray users uuid) true)
      have afterForeign : ∀ other ∈ after, opensUsers other = false :=
        fun other member => foreign other (List.mem_append_right inner member)
      obtain ⟨rfl, more, kept, free⟩ :=
        eq_newArray_append plainUsers read equal
      have inside := not_endsUsers_of_eq isArray foreign free kept
      refine {
        users := ?_
        foreign := ?_
        first := ?_
        inner := inside
        skipped := strip_of_eq innerForeign inside afterForeign kept }
      · rw [found]
        exact mem_iff_of_new isNew unlisted members
      · rintro other (early | late)
        · exact beforeForeign other early
        · exact afterForeign other late
      · intro other isFirst
        obtain rfl := Option.some.inj isFirst
        exact opens

end Deploy
end GhostProtocol
