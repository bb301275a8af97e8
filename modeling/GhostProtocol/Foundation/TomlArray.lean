import GhostProtocol.Foundation.TomlLine

/-!
# Arrays of strings over several lines of TOML

The definition of an array starts on the line of its key and may go on over
further lines, with blanks, comments and line ends between its values.  Values
are strings in single or double quotes, written without escapes.  Reading goes
line by line, so it composes along the concatenation of lines, and behind the
closing bracket only blank lines and comments can follow.
-/

namespace Foundation
namespace Toml

/-- What may follow next in an array, with the values read so far: a value, a
comma, more of a string, or nothing behind the closing bracket.  A comment goes
on to the end of its line. -/
inductive ArrayState
  | value (values : List Line)
  | comma (values : List Line)
  | string (quote : Char) (values : List Line) (text : Line)
  | closed (values : List Line)
  | comment (behind : ArrayState)
  deriving DecidableEq, Repr

/-- The state of an array after one more character. -/
def ArrayState.next : ArrayState → Char → Option ArrayState
  | .comment behind, _ => some (.comment behind)
  | .string quote values text, char =>
      if char = quote then some (.comma (values ++ [text]))
      else if char = '\\' ∧ quote = '"' then none
      else some (.string quote values (text ++ [char]))
  | .value values, char =>
      if isBlank char then some (.value values)
      else if char = '#' then some (.comment (.value values))
      else if char = ']' then some (.closed values)
      else if char = '"' ∨ char = '\'' then some (.string char values [])
      else none
  | .comma values, char =>
      if isBlank char then some (.comma values)
      else if char = '#' then some (.comment (.comma values))
      else if char = ',' then some (.value values)
      else if char = ']' then some (.closed values)
      else none
  | .closed values, char =>
      if isBlank char then some (.closed values)
      else if char = '#' then some (.comment (.closed values))
      else none

/-- The state of an array after the end of a line.  No string goes on over
it. -/
def ArrayState.endLine : ArrayState → Option ArrayState
  | .comment behind => some behind
  | .string _ _ _ => none
  | state => some state

/-- Read a line of an array. -/
def readArrayLine (state : ArrayState) (line : Line) : Option ArrayState :=
  (line.foldlM ArrayState.next state).bind ArrayState.endLine

/-- Read the line on which the array of a key starts. -/
def readArrayStart (key line : Line) : Option ArrayState :=
  match readDefinition line with
  | none => none
  | some (found, rest) =>
      if found = key then
        match skipBlanks rest with
        | '[' :: rest => readArrayLine (.value []) rest
        | _ => none
      else none

/-- Read the lines of the array of a key. -/
def readArray (key : Line) : List Line → Option ArrayState
  | [] => none
  | line :: lines =>
      match readArrayStart key line with
      | none => none
      | some state => lines.foldlM readArrayLine state

/-- A blank line or a comment. -/
def isFree (line : Line) : Bool :=
  match skipBlanks line with
  | [] => true
  | char :: _ => char = '#'

/-- The lines of an array with the given values, from the line of its key to the
line that closes it. -/
structure IsArray (key : Line) (lines values : List Line) : Prop where
  read : readArray key lines = some (.closed values)
  last : ∀ others, readArray key lines.dropLast ≠ some (.closed others)

/-! ## Lines without values -/

/-- A state between two lines. -/
def ArrayState.isBetween : ArrayState → Bool
  | .value _ => true
  | .comma _ => true
  | .closed _ => true
  | _ => false

/-- A comment stands behind a state between two lines. -/
def ArrayState.isFormed : ArrayState → Bool
  | .comment behind => behind.isBetween
  | _ => true

/-- Blanks change no state between two lines. -/
theorem ArrayState.next_blank
    {state : ArrayState}
    {char : Char}
    (between : state.isBetween = true)
    (blank : isBlank char = true) :
    state.next char = some state := by
  cases state with
  | value values => exact if_pos blank
  | comma values => exact if_pos blank
  | closed values => exact if_pos blank
  | string quote values text => cases between
  | comment behind => cases between

/-- A comment can start in every state between two lines. -/
theorem ArrayState.next_comment
    {state : ArrayState}
    (between : state.isBetween = true) :
    state.next '#' = some (.comment state) := by
  cases state with
  | value values => rfl
  | comma values => rfl
  | closed values => rfl
  | string quote values text => cases between
  | comment behind => cases between

/-- The end of a line changes no state between two lines. -/
theorem ArrayState.endLine_of_isBetween
    {state : ArrayState}
    (between : state.isBetween = true) :
    state.endLine = some state := by
  cases state with
  | value values => rfl
  | comma values => rfl
  | closed values => rfl
  | string quote values text => cases between
  | comment behind => cases between

/-- A comment goes on to the end of its line. -/
theorem foldlM_comment (behind : ArrayState) (text : Line) :
    text.foldlM ArrayState.next (.comment behind) =
      some (.comment behind) := by
  induction text with
  | nil => rfl
  | cons char rest inductionHypothesis =>
      rw [List.foldlM_cons]
      exact inductionHypothesis

/-- Blanks in front of a line change no state between two lines. -/
theorem readArrayLine_skipBlanks
    {state : ArrayState}
    (between : state.isBetween = true)
    (line : Line) :
    readArrayLine state line = readArrayLine state (skipBlanks line) := by
  induction line with
  | nil => rfl
  | cons char rest inductionHypothesis =>
      by_cases blank : isBlank char = true
      · have step : readArrayLine state (char :: rest) =
            readArrayLine state rest := by
          rw [readArrayLine, List.foldlM_cons, state.next_blank between blank]
          rfl
        rw [step, inductionHypothesis, skipBlanks, skipBlanks,
          List.dropWhile_cons_of_pos blank]
      · rw [skipBlanks, List.dropWhile_cons_of_neg blank]

/-- Blank lines and comments change no state between two lines. -/
theorem readArrayLine_of_isFree
    {state : ArrayState}
    {line : Line}
    (between : state.isBetween = true)
    (free : isFree line = true) :
    readArrayLine state line = some state := by
  rw [readArrayLine_skipBlanks between]
  rw [isFree] at free
  cases skipped : skipBlanks line with
  | nil => exact ArrayState.endLine_of_isBetween between
  | cons char rest =>
      rw [skipped] at free
      obtain rfl := of_decide_eq_true free
      rw [readArrayLine, List.foldlM_cons, ArrayState.next_comment between]
      change (rest.foldlM ArrayState.next (.comment state)).bind _ = _
      rw [foldlM_comment]
      rfl

/-- A line of an array that is neither blank nor a comment starts with a
quote, a comma or a bracket behind its blanks. -/
theorem isFree_or_of_readArrayLine
    {state next : ArrayState}
    {line : Line}
    (between : state.isBetween = true)
    (read : readArrayLine state line = some next) :
    isFree line = true ∨ ∃ char rest, skipBlanks line = char :: rest ∧
      char ∈ ['"', '\'', ',', ']'] := by
  rw [readArrayLine_skipBlanks between] at read
  cases skipped : skipBlanks line with
  | nil => exact .inl (by rw [isFree, skipped])
  | cons char rest =>
      have visible : ¬isBlank char = true := by
        have head := List.head?_dropWhile_not isBlank line
        rw [← skipBlanks, skipped] at head
        simpa using head
      by_cases hash : char = '#'
      · exact .inl (by rw [isFree, skipped]; exact decide_eq_true hash)
      · refine .inr ⟨char, rest, rfl, ?_⟩
        have known : state.next char ≠ none := by
          intro stuck
          rw [skipped, readArrayLine, List.foldlM_cons, stuck] at read
          cases read
        cases state with
        | value values =>
            rw [ArrayState.next, if_neg visible, if_neg hash] at known
            split_ifs at known with bracket quote
            · simp [bracket]
            · rcases quote with rfl | rfl <;> decide
            · exact absurd rfl known
        | comma values =>
            rw [ArrayState.next, if_neg visible, if_neg hash] at known
            split_ifs at known with comma bracket
            · simp [comma]
            · simp [bracket]
            · exact absurd rfl known
        | closed values =>
            rw [ArrayState.next, if_neg visible, if_neg hash] at known
            exact absurd rfl known
        | string quote values text => cases between
        | comment behind => cases between

/-- Only blank lines and comments follow a closed array. -/
theorem of_readArrayLine_closed
    {values : List Line}
    {line : Line}
    {next : ArrayState}
    (read : readArrayLine (.closed values) line = some next) :
    isFree line = true ∧ next = .closed values := by
  have free : isFree line = true := by
    rcases isFree_or_of_readArrayLine rfl read with free | ⟨char, rest, skipped, known⟩
    · exact free
    · rw [readArrayLine_skipBlanks rfl, skipped, readArrayLine,
        List.foldlM_cons] at read
      have stuck : ArrayState.next (.closed values) char = none := by
        simp only [List.mem_cons, List.not_mem_nil, or_false] at known
        rcases known with rfl | rfl | rfl | rfl <;> rfl
      rw [stuck] at read
      cases read
  rw [readArrayLine_of_isFree rfl free] at read
  exact ⟨free, (Option.some.inj read).symm⟩

/-! ## Several lines -/

/-- One more character keeps comments behind states between two lines. -/
theorem ArrayState.isFormed_next
    {state after : ArrayState}
    {char : Char}
    (formed : state.isFormed = true)
    (stepped : state.next char = some after) :
    after.isFormed = true := by
  cases state with
  | value values =>
      rw [next] at stepped
      split_ifs at stepped <;> obtain rfl := Option.some.inj stepped <;> rfl
  | comma values =>
      rw [next] at stepped
      split_ifs at stepped <;> obtain rfl := Option.some.inj stepped <;> rfl
  | closed values =>
      rw [next] at stepped
      split_ifs at stepped <;> obtain rfl := Option.some.inj stepped <;> rfl
  | string quote values text =>
      rw [next] at stepped
      split_ifs at stepped <;> obtain rfl := Option.some.inj stepped <;> rfl
  | comment behind =>
      obtain rfl := Option.some.inj stepped
      exact formed

/-- The state after a line is one between two lines. -/
theorem isBetween_of_readArrayLine
    {state after : ArrayState}
    {line : Line}
    (formed : state.isFormed = true)
    (read : readArrayLine state line = some after) :
    after.isBetween = true := by
  induction line generalizing state with
  | nil =>
      cases state with
      | value values => obtain rfl := Option.some.inj read; rfl
      | comma values => obtain rfl := Option.some.inj read; rfl
      | closed values => obtain rfl := Option.some.inj read; rfl
      | string quote values text => cases read
      | comment behind =>
          obtain rfl := Option.some.inj read
          exact formed
  | cons char rest inductionHypothesis =>
      rw [readArrayLine, List.foldlM_cons, Option.bind_eq_bind,
        Option.bind_assoc] at read
      obtain ⟨middle, stepped, read⟩ := Option.bind_eq_some_iff.mp read
      exact inductionHypothesis (ArrayState.isFormed_next formed stepped) read

/-- A state between two lines is formed. -/
theorem ArrayState.isFormed_of_isBetween
    {state : ArrayState}
    (between : state.isBetween = true) :
    state.isFormed = true := by
  cases state with
  | comment behind => cases between
  | _ => rfl

/-- The state after some lines is one between two lines. -/
theorem isBetween_of_foldlM
    {state after : ArrayState}
    {lines : List Line}
    (between : state.isBetween = true)
    (read : lines.foldlM readArrayLine state = some after) :
    after.isBetween = true := by
  induction lines generalizing state with
  | nil =>
      obtain rfl := Option.some.inj read
      exact between
  | cons line others inductionHypothesis =>
      rw [List.foldlM_cons] at read
      obtain ⟨middle, here, read⟩ := Option.bind_eq_some_iff.mp read
      exact inductionHypothesis (isBetween_of_readArrayLine
        (ArrayState.isFormed_of_isBetween between) here) read

/-- An array that is read starts on its first line. -/
theorem exists_readArrayStart
    {key : Line}
    {lines : List Line}
    {state : ArrayState}
    (read : readArray key lines = some state) :
    ∃ line others first, lines = line :: others ∧
      readArrayStart key line = some first ∧
      others.foldlM readArrayLine first = some state := by
  cases lines with
  | nil => cases read
  | cons line others =>
      rw [readArray] at read
      cases start : readArrayStart key line with
      | none =>
          rw [start] at read
          cases read
      | some first =>
          rw [start] at read
          exact ⟨line, others, first, rfl, start, read⟩

/-- The state after the line of the key is one between two lines. -/
theorem isBetween_of_readArrayStart
    {key line : Line}
    {state : ArrayState}
    (read : readArrayStart key line = some state) :
    state.isBetween = true := by
  rw [readArrayStart] at read
  split at read
  · cases read
  · split_ifs at read
    split at read
    · exact isBetween_of_readArrayLine rfl read
    · cases read

/-- The state after the lines of an array is one between two lines. -/
theorem isBetween_of_readArray
    {key : Line}
    {lines : List Line}
    {state : ArrayState}
    (read : readArray key lines = some state) :
    state.isBetween = true := by
  obtain ⟨line, others, first, rfl, start, rest⟩ := exists_readArrayStart read
  exact isBetween_of_foldlM (isBetween_of_readArrayStart start) rest

/-- Blank lines and comments change no state between two lines. -/
theorem foldlM_of_isFree
    {state : ArrayState}
    {lines : List Line}
    (between : state.isBetween = true)
    (free : ∀ line ∈ lines, isFree line = true) :
    lines.foldlM readArrayLine state = some state := by
  induction lines with
  | nil => rfl
  | cons line others inductionHypothesis =>
      rw [List.foldlM_cons, readArrayLine_of_isFree between
        (free line List.mem_cons_self)]
      exact inductionHypothesis fun other member =>
        free other (List.mem_cons_of_mem line member)

/-- Only blank lines and comments follow a closed array. -/
theorem of_foldlM_closed
    {values : List Line}
    {lines : List Line}
    {after : ArrayState}
    (read : lines.foldlM readArrayLine (.closed values) = some after) :
    (∀ line ∈ lines, isFree line = true) ∧ after = .closed values := by
  induction lines with
  | nil =>
      obtain rfl := Option.some.inj read
      exact ⟨nofun, rfl⟩
  | cons line others inductionHypothesis =>
      rw [List.foldlM_cons] at read
      obtain ⟨middle, here, read⟩ := Option.bind_eq_some_iff.mp read
      obtain ⟨free, rfl⟩ := of_readArrayLine_closed here
      obtain ⟨others, rfl⟩ := inductionHypothesis read
      exact ⟨List.forall_mem_cons.mpr ⟨free, others⟩, rfl⟩

/-- An array is read line by line. -/
theorem readArray_append
    {key : Line}
    {lines : List Line}
    {state : ArrayState}
    (read : readArray key lines = some state)
    (more : List Line) :
    readArray key (lines ++ more) = more.foldlM readArrayLine state := by
  obtain ⟨line, others, first, rfl, start, rest⟩ := exists_readArrayStart read
  rw [List.cons_append, readArray, start]
  dsimp only
  rw [List.foldlM_append, rest]
  rfl

/-- An array that is read is read up to each of its lines. -/
theorem exists_readArray_of_append
    {key : Line}
    {lines more : List Line}
    {after : ArrayState}
    (nonempty : lines ≠ [])
    (read : readArray key (lines ++ more) = some after) :
    ∃ state, readArray key lines = some state ∧
      more.foldlM readArrayLine state = some after := by
  obtain ⟨line, others, rfl⟩ := List.exists_cons_of_ne_nil nonempty
  obtain ⟨head, tail, first, same, start, rest⟩ := exists_readArrayStart read
  obtain ⟨rfl, behind⟩ := List.cons.inj same
  rw [← behind, List.append_eq, List.foldlM_append] at rest
  obtain ⟨state, found, rest⟩ := Option.bind_eq_some_iff.mp rest
  refine ⟨state, ?_, rest⟩
  rw [readArray, start]
  exact found

/-- Only blank lines and comments follow a complete array. -/
theorem of_readArray_append
    {key : Line}
    {lines more : List Line}
    {values : List Line}
    {after : ArrayState}
    (complete : readArray key lines = some (.closed values))
    (read : readArray key (lines ++ more) = some after) :
    (∀ line ∈ more, isFree line = true) ∧ after = .closed values := by
  rw [readArray_append complete] at read
  exact of_foldlM_closed read

/-- A line of an array behind that of its key. -/
theorem exists_readArrayLine_of_mem
    {key line : Line}
    {first : Line}
    {others : List Line}
    {after : ArrayState}
    (read : readArray key (first :: others) = some after)
    (member : line ∈ others) :
    ∃ state next, state.isBetween = true ∧
      readArrayLine state line = some next := by
  obtain ⟨front, behind, rfl⟩ := List.append_of_mem member
  obtain ⟨state, found, rest⟩ :=
    exists_readArray_of_append (List.cons_ne_nil first front) read
  rw [List.foldlM_cons] at rest
  obtain ⟨next, here, -⟩ := Option.bind_eq_some_iff.mp rest
  exact ⟨state, next, isBetween_of_readArray found, here⟩

/-- The line that closes an array is neither blank nor a comment. -/
theorem IsArray.not_isFree
    {key : Line}
    {front : List Line}
    {line : Line}
    {values : List Line}
    (isArray : IsArray key (front ++ [line]) values)
    (nonempty : front ≠ []) :
    isFree line = false := by
  rw [← Bool.not_eq_true]
  intro free
  obtain ⟨state, found, rest⟩ :=
    exists_readArray_of_append nonempty isArray.read
  rw [List.foldlM_cons, readArrayLine_of_isFree
    (isBetween_of_readArray found) free] at rest
  obtain rfl := Option.some.inj rest
  have early := isArray.last values
  rw [List.dropLast_concat] at early
  exact early found

/-! ## Lines with a string -/

/-- A string goes on up to its closing quote. -/
theorem foldlM_string
    {text : Line}
    (plain : ∀ char ∈ text, char ≠ '"' ∧ char ≠ '\\')
    (values : List Line)
    (front : Line) :
    text.foldlM ArrayState.next (.string '"' values front) =
      some (.string '"' values (front ++ text)) := by
  induction text generalizing front with
  | nil => rw [List.append_nil]; rfl
  | cons char rest inductionHypothesis =>
      obtain ⟨quote, backslash⟩ := plain char List.mem_cons_self
      have step : ArrayState.next (.string '"' values front) char =
          some (.string '"' values (front ++ [char])) := by
        rw [ArrayState.next, if_neg quote, if_neg fun both => backslash both.1]
      rw [List.foldlM_cons, step]
      change rest.foldlM ArrayState.next _ = _
      rw [inductionHypothesis fun other member =>
        plain other (List.mem_cons_of_mem char member), List.append_assoc]
      rfl

/-- A value and a comma on a line of their own. -/
theorem readArrayLine_entry
    {text : Line}
    (plain : ∀ char ∈ text, char ≠ '"' ∧ char ≠ '\\')
    (values : List Line)
    (spaces : Nat) :
    readArrayLine (.value values)
        (List.replicate spaces ' ' ++ '"' :: (text ++ ['"', ','])) =
      some (.value (values ++ [text])) := by
  have skipped : skipBlanks (List.replicate spaces ' ' ++
      '"' :: (text ++ ['"', ','])) = '"' :: (text ++ ['"', ',']) := by
    rw [skipBlanks, List.dropWhile_append_of_pos]
    · exact List.dropWhile_cons_of_neg (by decide)
    · intro char member
      rw [List.eq_of_mem_replicate member]
      rfl
  rw [readArrayLine_skipBlanks rfl, skipped, readArrayLine, List.foldlM_cons]
  change (((text ++ ['"', ',']).foldlM ArrayState.next
    (.string '"' values [])).bind _) = _
  rw [List.foldlM_append, foldlM_string plain]
  rfl

end Toml
end Foundation
