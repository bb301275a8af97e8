import GhostProtocol.Foundation.Text
import Mathlib.Data.List.TakeWhile
import Mathlib.Tactic.SplitIfs

/-!
# Lines of TOML

A definition of a string on one line is a key, an equals sign and a string,
with blanks around them and perhaps a comment behind.  Keys are bare or quoted,
and strings are basic or literal, between one quote or three.  This module
reads such lines, and it says what is left of a string literal without its
double quotes and blanks: at least its value, and exactly its value if and only
if the value was written as it is.
-/

namespace Foundation
namespace Toml

/-- A line of text, without its end. -/
abbrev Line := List Char

/-- White space within a line. -/
def isBlank (char : Char) : Bool :=
  char = ' ' || char = '\t'

/-- The text behind leading blanks. -/
def skipBlanks (text : Line) : Line :=
  text.dropWhile isBlank

/-- The characters of a bare key. -/
def isBareKeyChar (char : Char) : Bool :=
  char.isAlphanum || char = '_' || char = '-'

/-! ## Strings -/

/-- How a string is quoted: by a quote, written once or three times. -/
structure Quoting where
  quote : Char
  width : Nat
  deriving DecidableEq, Repr

/-- The end of a string in front of some text, with the quotes that still belong
to the string, and the text behind it.  Up to two quotes may stand directly
before three that close a string. -/
def Quoting.close
    (quoting : Quoting)
    (text : Line) : Option (Line × Line) :=
  let quotes := (text.takeWhile (· = quoting.quote)).length
  if quotes < quoting.width then none
  else
    let inside :=
      if quoting.width = 3 then min (quotes - quoting.width) 2 else 0
    some (List.replicate inside quoting.quote,
      text.drop (quoting.width + inside))

/-- What the next character of a string belongs to: the string itself, an
escape, or the digits of an escape. -/
inductive Pending
  | plain
  | escape
  | digits (more value : Nat)
  deriving DecidableEq, Repr

/-- The character of an escape of one letter. -/
def escapedChar (letter : Char) : Option Char :=
  if letter = 'b' then some '\x08'
  else if letter = 't' then some '\t'
  else if letter = 'n' then some '\n'
  else if letter = 'f' then some '\x0C'
  else if letter = 'r' then some '\r'
  else if letter = '"' then some '"'
  else if letter = '\\' then some '\\'
  else none

/-- The value of a hexadecimal digit. -/
def digitValue (char : Char) : Nat :=
  if char.toNat < 58 then char.toNat - 48
  else if char.toNat < 71 then char.toNat - 55
  else char.toNat - 87

/-- Put a character in front of the string that has been read. -/
def prepend (char : Char) : Line × Line → Line × Line :=
  Prod.map (char :: ·) id

/-- Read a string behind its opening quotes: its value and the text behind its
closing quotes.  Only double quotes know escapes. -/
def Quoting.read
    (quoting : Quoting) : Pending → Line → Option (Line × Line)
  | _, [] => none
  | .plain, char :: rest =>
      match quoting.close (char :: rest) with
      | some closed => some closed
      | none =>
          if char = '\\' ∧ quoting.quote = '"' then quoting.read .escape rest
          else (quoting.read .plain rest).map (prepend char)
  | .escape, char :: rest =>
      if char = 'u' then quoting.read (.digits 3 0) rest
      else if char = 'U' then quoting.read (.digits 7 0) rest
      else
        match escapedChar char with
        | none => none
        | some escaped => (quoting.read .plain rest).map (prepend escaped)
  | .digits more value, char :: rest =>
      let value := value * 16 + digitValue char
      if Text.isHexDigit char then
        match more with
        | more + 1 => quoting.read (.digits more value) rest
        | 0 =>
            if value.isValidChar then
              (quoting.read .plain rest).map (prepend (Char.ofNat value))
            else none
      else none

/-- The quoting of the string in front of some text. -/
def quotingOf (text : Line) : Option Quoting :=
  if ['"', '"', '"'].isPrefixOf text then some ⟨'"', 3⟩
  else if ['"'].isPrefixOf text then some ⟨'"', 1⟩
  else if ['\'', '\'', '\''].isPrefixOf text then some ⟨'\'', 3⟩
  else if ['\''].isPrefixOf text then some ⟨'\'', 1⟩
  else none

/-- Read the string in front of some text: its value and the text behind it. -/
def readString (text : Line) : Option (Line × Line) :=
  match quotingOf text with
  | none => none
  | some quoting => quoting.read .plain (text.drop quoting.width)

/-! ## Definitions -/

/-- Read the key in front of some text. -/
def readKey (text : Line) : Option (Line × Line) :=
  if ['"'].isPrefixOf text then Quoting.read ⟨'"', 1⟩ .plain (text.drop 1)
  else if ['\''].isPrefixOf text then
    Quoting.read ⟨'\'', 1⟩ .plain (text.drop 1)
  else if text.takeWhile isBareKeyChar = [] then none
  else some (text.takeWhile isBareKeyChar, text.dropWhile isBareKeyChar)

/-- Read a definition: its key and the text behind the equals sign. -/
def readDefinition (line : Line) : Option (Line × Line) :=
  match readKey (skipBlanks line) with
  | none => none
  | some (key, rest) =>
      match skipBlanks rest with
      | '=' :: rest => some (key, rest)
      | _ => none

/-- A line defines a key. -/
def defines (key line : Line) : Bool :=
  (readDefinition line).any (·.1 = key)

/-- Nothing but blanks and a comment is left of a line. -/
def isEnd (text : Line) : Bool :=
  match skipBlanks text with
  | [] => true
  | ['\r'] => true
  | char :: _ => char = '#'

/-- Read the definition of a string on one line: its key and its value. -/
def readStringDefinition (line : Line) : Option (Line × Line) :=
  match readDefinition line with
  | none => none
  | some (key, rest) =>
      match readString (skipBlanks rest) with
      | none => none
      | some (value, rest) => if isEnd rest then some (key, value) else none

/-! ## What is left of a string without double quotes and blanks -/

/-- The characters that stay when double quotes and spaces are deleted. -/
def isKept (char : Char) : Bool :=
  char ≠ '"' && char ≠ ' '

/-- The text without its double quotes and spaces. -/
def stripped (text : Line) : Line :=
  text.filter isKept

@[simp] theorem stripped_append (first second : Line) :
    stripped (first ++ second) = stripped first ++ stripped second :=
  List.filter_append first second

/-- A character that is kept counts. -/
theorem stripped_cons_of_isKept
    {char : Char}
    (kept : isKept char = true)
    (text : Line) :
    stripped (char :: text) = char :: stripped text :=
  List.filter_cons_of_pos kept

/-- Deleting characters in front makes nothing longer. -/
theorem length_stripped_cons (char : Char) (text : Line) :
    (stripped text).length ≤ (stripped (char :: text)).length := by
  rw [stripped, stripped, List.filter_cons]
  split_ifs
  · exact Nat.le_succ _
  · exact Nat.le_refl _

/-- Double quotes leave nothing. -/
@[simp] theorem stripped_quotes (count : Nat) :
    stripped (List.replicate count '"') = [] := by
  simp [stripped, isKept]

/-- Spaces leave nothing. -/
@[simp] theorem stripped_spaces (count : Nat) :
    stripped (List.replicate count ' ') = [] := by
  simp [stripped, isKept]

/-- Text without double quotes and spaces is kept as it is. -/
theorem stripped_of_forall
    {text : Line}
    (kept : ∀ char ∈ text, isKept char = true) :
    stripped text = text :=
  List.filter_eq_self.mpr kept

/-- Nothing of what is left is deleted. -/
theorem isKept_of_mem_stripped
    {text : Line}
    {char : Char}
    (member : char ∈ stripped text) :
    isKept char = true :=
  (List.mem_filter.mp member).2

/-- Text starts with as many quotes as are counted. -/
theorem eq_replicate_append
    {quote : Char}
    {text : Line}
    {count : Nat}
    (enough : count ≤ (text.takeWhile (· = quote)).length) :
    text = List.replicate count quote ++ text.drop count := by
  induction text generalizing count with
  | nil =>
      obtain rfl := Nat.le_zero.mp enough
      rfl
  | cons char rest inductionHypothesis =>
      cases count with
      | zero => rfl
      | succ count =>
          by_cases here : char = quote
          · subst here
            rw [List.takeWhile_cons_of_pos (by simp), List.length_cons]
              at enough
            rw [List.replicate_succ, List.cons_append, List.drop_succ_cons,
              ← inductionHypothesis (Nat.le_of_succ_le_succ enough)]
          · rw [List.takeWhile_cons_of_neg (by simpa using here)] at enough
            exact absurd enough (Nat.not_succ_le_zero count)

/-- The end of a string consists of quotes, of which some belong to it. -/
theorem Quoting.eq_of_close
    {quoting : Quoting}
    {text inside rest : Line}
    (closed : quoting.close text = some (inside, rest)) :
    inside = List.replicate inside.length quoting.quote ∧
      text = List.replicate (quoting.width + inside.length) quoting.quote ++
        rest := by
  rw [close] at closed
  dsimp only at closed
  split_ifs at closed with few three
  · obtain ⟨rfl, rfl⟩ := Prod.mk.inj (Option.some.inj closed)
    rw [List.length_replicate]
    exact ⟨rfl, eq_replicate_append (by omega)⟩
  · obtain ⟨rfl, rfl⟩ := Prod.mk.inj (Option.some.inj closed)
    exact ⟨rfl, eq_replicate_append (by simpa using few)⟩

/-- The quotes of a string that belong to it count no more than those that are
left of its end. -/
theorem Quoting.length_of_close
    {quoting : Quoting}
    {text inside rest : Line}
    (visible : quoting.quote ≠ ' ')
    (closed : quoting.close text = some (inside, rest))
    (kept : ∀ char ∈ inside, isKept char = true) :
    inside.length + (stripped rest).length ≤ (stripped text).length := by
  obtain ⟨same, split⟩ := eq_of_close closed
  rw [split, stripped_append, List.length_append]
  by_cases double : quoting.quote = '"'
  · have none : inside = [] := by
      cases inside with
      | nil => rfl
      | cons char others =>
          have quote := List.eq_of_mem_replicate
            (same ▸ List.mem_cons_self : char ∈ List.replicate _ _)
          have keep := kept char List.mem_cons_self
          simp [isKept, quote, double] at keep
    rw [none, List.length_nil]
    omega
  · have keep : ∀ char ∈ List.replicate (quoting.width + inside.length)
        quoting.quote, isKept char = true := by
      intro char member
      rw [List.eq_of_mem_replicate member]
      simp [isKept, double, visible]
    rw [stripped_of_forall keep, List.length_replicate]
    omega

/-- A character that was put in front of a string that has been read. -/
theorem eq_cons_of_prepend
    {char : Char}
    {value rest : Line}
    {read : Option (Line × Line)}
    (prepended : read.map (prepend char) = some (value, rest)) :
    ∃ others, value = char :: others ∧ read = some (others, rest) := by
  obtain ⟨⟨others, behind⟩, found, equal⟩ := Option.map_eq_some_iff.mp prepended
  obtain ⟨rfl, rfl⟩ := Prod.mk.inj equal
  exact ⟨others, rfl, found⟩

/-- Hexadecimal digits are kept. -/
theorem isKept_of_isHexDigit
    {char : Char}
    (digit : Text.isHexDigit char = true) :
    isKept char = true := by
  have quote : char ≠ '"' := by
    rintro rfl
    revert digit
    decide
  have space : char ≠ ' ' := by
    rintro rfl
    revert digit
    decide
  simp [isKept, quote, space]

/-- The letter of an escape is kept if the character it stands for is. -/
theorem isKept_of_escapedChar
    {letter char : Char}
    (escaped : escapedChar letter = some char)
    (kept : isKept char = true) :
    isKept letter = true := by
  have quote : letter ≠ '"' := by
    rintro rfl
    obtain rfl : '"' = char := Option.some.inj escaped
    simp [isKept] at kept
  have space : letter ≠ ' ' := by
    rintro rfl
    simp [escapedChar] at escaped
  simp [isKept, quote, space]

/-- A string whose value holds no double quotes and spaces is no longer than
what is left of it without them. -/
theorem Quoting.length_of_read
    {quoting : Quoting}
    (visible : quoting.quote ≠ ' ')
    {pending : Pending}
    {text value rest : Line}
    (found : quoting.read pending text = some (value, rest))
    (kept : ∀ char ∈ value, isKept char = true) :
    value.length + (stripped rest).length ≤ (stripped text).length := by
  induction text generalizing pending value with
  | nil => cases pending <;> cases found
  | cons char text inductionHypothesis =>
      have shorter := length_stripped_cons char text
      have counted : ∀ {first : Char}, isKept char = true →
          (quoting.read .plain text).map (prepend first) =
            some (value, rest) →
          value.length + (stripped rest).length ≤
            (stripped (char :: text)).length := by
        intro first keep prepended
        obtain ⟨others, rfl, behind⟩ := eq_cons_of_prepend prepended
        have bound := inductionHypothesis behind fun other member =>
          kept other (List.mem_cons_of_mem first member)
        rw [stripped_cons_of_isKept keep, List.length_cons, List.length_cons]
        omega
      cases pending with
      | plain =>
          rw [read] at found
          cases closed : quoting.close (char :: text) with
          | some ending =>
              rw [closed] at found
              obtain rfl := Option.some.inj found
              exact length_of_close visible closed kept
          | none =>
              rw [closed] at found
              dsimp only at found
              split_ifs at found
              · exact (inductionHypothesis found kept).trans shorter
              · obtain ⟨others, rfl, -⟩ := eq_cons_of_prepend found
                exact counted (kept char List.mem_cons_self) found
      | escape =>
          rw [read] at found
          split_ifs at found
          · exact (inductionHypothesis found kept).trans shorter
          · exact (inductionHypothesis found kept).trans shorter
          · cases escaped : escapedChar char with
            | none =>
                rw [escaped] at found
                cases found
            | some first =>
                rw [escaped] at found
                obtain ⟨others, rfl, -⟩ := eq_cons_of_prepend found
                exact counted (isKept_of_escapedChar escaped
                  (kept first List.mem_cons_self)) found
      | digits more number =>
          cases more with
          | succ more =>
              rw [read] at found
              split_ifs at found
              exact (inductionHypothesis found kept).trans shorter
          | zero =>
              rw [read] at found
              split_ifs at found with digit
              exact counted (isKept_of_isHexDigit digit) found

/-- A string between double quotes whose value is as long as what is left of it
without double quotes and spaces was written as it is. -/
theorem Quoting.eq_of_read
    {width : Nat}
    {text value rest : Line}
    (found : Quoting.read ⟨'"', width⟩ .plain text = some (value, rest))
    (kept : ∀ char ∈ value, isKept char = true)
    (short : (stripped text).length ≤
      value.length + (stripped rest).length) :
    text = value ++ List.replicate width '"' ++ rest ∧ '\\' ∉ value := by
  induction text generalizing value with
  | nil => cases found
  | cons char text inductionHypothesis =>
      rw [read] at found
      cases closed : Quoting.close ⟨'"', width⟩ (char :: text) with
      | some ending =>
          rw [closed] at found
          obtain rfl := Option.some.inj found
          obtain ⟨same, split⟩ := eq_of_close closed
          have none : value = [] := by
            cases value with
            | nil => rfl
            | cons first others =>
                have quote := List.eq_of_mem_replicate
                  (same ▸ List.mem_cons_self : first ∈ List.replicate _ _)
                have keep := kept first List.mem_cons_self
                simp [isKept, quote] at keep
          subst none
          exact ⟨split, List.not_mem_nil⟩
      | none =>
          rw [closed] at found
          dsimp only at found
          split_ifs at found with backslash
          · have keep : isKept char = true := by
              rw [backslash.1]
              decide
            have bound := length_of_read (show '"' ≠ ' ' by decide) found kept
            rw [stripped_cons_of_isKept keep, List.length_cons] at short
            omega
          · obtain ⟨others, rfl, behind⟩ := eq_cons_of_prepend found
            have keep := kept char List.mem_cons_self
            rw [stripped_cons_of_isKept keep, List.length_cons,
              List.length_cons] at short
            obtain ⟨split, plain⟩ := inductionHypothesis behind
              (fun other member => kept other (List.mem_cons_of_mem char member))
              (by omega)
            refine ⟨?_, ?_⟩
            · rw [split]
              rfl
            · rw [List.mem_cons, not_or]
              exact ⟨fun same => backslash ⟨same.symm, rfl⟩, plain⟩

/-- Text in front of which blanks are skipped. -/
theorem eq_append_skipBlanks (text : Line) :
    text = text.takeWhile isBlank ++ skipBlanks text :=
  List.takeWhile_append_dropWhile.symm

/-- Blanks of which nothing is left are spaces. -/
theorem eq_spaces_of_blanks
    {text : Line}
    (blank : ∀ char ∈ text, isBlank char = true)
    (nothing : stripped text = []) :
    text = List.replicate text.length ' ' := by
  refine List.eq_replicate_iff.mpr ⟨rfl, fun char member => ?_⟩
  have deleted := List.filter_eq_nil_iff.mp nothing char member
  have either := blank char member
  simp only [isBlank, Bool.or_eq_true, decide_eq_true_eq] at either
  rcases either with space | tab
  · exact space
  · subst tab
    exact absurd rfl deleted

/-- The end of a line of which nothing is left consists of spaces. -/
theorem eq_spaces_of_isEnd
    {text : Line}
    (ends : isEnd text = true)
    (nothing : stripped text = []) :
    text = List.replicate text.length ' ' := by
  refine eq_spaces_of_blanks (fun char member => ?_) nothing
  have split := eq_append_skipBlanks text
  have behind : skipBlanks text = [] := by
    cases skipped : skipBlanks text with
    | nil => rfl
    | cons first others =>
        have inside : first ∈ text := by
          rw [split, skipped]
          exact List.mem_append_right _ List.mem_cons_self
        have deleted := List.filter_eq_nil_iff.mp nothing first inside
        rw [isEnd, skipped] at ends
        split at ends
        · rename_i equal
          cases equal
        · rename_i equal
          obtain ⟨rfl, -⟩ := List.cons.inj equal
          exact absurd rfl deleted
        · rename_i equal
          obtain ⟨rfl, -⟩ := List.cons.inj equal
          obtain rfl := of_decide_eq_true ends
          exact absurd rfl deleted
  rw [split, behind, List.append_nil] at member
  exact List.mem_takeWhile_imp member

/-- A string starts with its quotes. -/
theorem eq_of_quotingOf
    {text : Line}
    {quoting : Quoting}
    (found : quotingOf text = some quoting) :
    text = List.replicate quoting.width quoting.quote ++
        text.drop quoting.width ∧
      0 < quoting.width ∧
      (quoting = ⟨'"', 1⟩ ∨ quoting = ⟨'"', 3⟩ ∨
        isKept quoting.quote = true) := by
  have starts : ∀ {opening : Line},
      opening.isPrefixOf text = true →
        text = opening ++ text.drop opening.length := fun isPrefix => by
    obtain ⟨behind, rfl⟩ := List.isPrefixOf_iff_prefix.mp isPrefix
    rw [List.drop_left]
  rw [quotingOf] at found
  split_ifs at found with tripleDouble double tripleSingle single
  · obtain rfl := Option.some.inj found
    exact ⟨starts tripleDouble, by decide, .inr (.inl rfl)⟩
  · obtain rfl := Option.some.inj found
    exact ⟨starts double, by decide, .inl rfl⟩
  · obtain rfl := Option.some.inj found
    exact ⟨starts tripleSingle, by decide, .inr (.inr (by decide))⟩
  · obtain rfl := Option.some.inj found
    exact ⟨starts single, by decide, .inr (.inr (by decide))⟩

/-- Text that consists of a value between double quotes, one on each side or
three, and of spaces.  The value holds no double quote, space or backslash. -/
structure IsPlainString (value text : Line) : Prop where
  layout : ∃ before width behind, (width = 1 ∨ width = 3) ∧
    text = List.replicate before ' ' ++ (List.replicate width '"' ++
      (value ++ (List.replicate width '"' ++ List.replicate behind ' ')))
  kept : ∀ char ∈ value, isKept char = true
  backslash : '\\' ∉ value

/-- A value between double quotes is what is left without them. -/
theorem IsPlainString.stripped
    {value text : Line}
    (isPlain : IsPlainString value text) :
    stripped text = value := by
  obtain ⟨before, width, behind, -, rfl⟩ := isPlain.layout
  simp only [stripped_append, stripped_spaces, stripped_quotes,
    stripped_of_forall isPlain.kept, List.nil_append, List.append_nil]

/-- Deleting double quotes and spaces leaves the value of a string if and only
if the string is plain. -/
theorem stripped_eq_iff
    {text value rest : Line}
    (found : readString (skipBlanks text) = some (value, rest))
    (ends : isEnd rest = true) :
    stripped text = value ↔ IsPlainString value text := by
  constructor
  · intro left
    have kept : ∀ char ∈ value, isKept char = true := fun char member =>
      isKept_of_mem_stripped (left ▸ member)
    have split := eq_append_skipBlanks text
    have total := congrArg List.length left
    rw [split, stripped_append, List.length_append] at total
    rw [readString] at found
    cases quoted : quotingOf (skipBlanks text) with
    | none =>
        rw [quoted] at found
        cases found
    | some quoting =>
        rw [quoted] at found
        dsimp only at found
        obtain ⟨opened, positive, kinds⟩ := eq_of_quotingOf quoted
        have visible : quoting.quote ≠ ' ' := by
          rcases kinds with rfl | rfl | visible
          · decide
          · decide
          · intro space
            rw [space] at visible
            cases visible
        have bound := Quoting.length_of_read visible found kept
        rw [opened, stripped_append, List.length_append] at total
        have double : quoting = ⟨'"', quoting.width⟩ ∧
            (quoting.width = 1 ∨ quoting.width = 3) := by
          rcases kinds with rfl | rfl | literal
          · exact ⟨rfl, .inl rfl⟩
          · exact ⟨rfl, .inr rfl⟩
          · have keep : ∀ char ∈
                List.replicate quoting.width quoting.quote,
                isKept char = true := fun char member => by
              rw [List.eq_of_mem_replicate member, literal]
            rw [stripped_of_forall keep, List.length_replicate] at total
            omega
        obtain ⟨equal, widths⟩ := double
        rw [equal] at found
        dsimp only at found
        obtain ⟨inner, backslash⟩ :=
          Quoting.eq_of_read found kept (by omega)
        have blanks : stripped (text.takeWhile isBlank) = [] :=
          List.eq_nil_of_length_eq_zero (by omega)
        have nothing : stripped rest = [] :=
          List.eq_nil_of_length_eq_zero (by omega)
        have front :=
          eq_spaces_of_blanks (fun _ => List.mem_takeWhile_imp) blanks
        have behind := eq_spaces_of_isEnd ends nothing
        refine ⟨⟨(text.takeWhile isBlank).length, quoting.width, rest.length,
          widths, ?_⟩, kept, backslash⟩
        have double : quoting.quote = '"' := congrArg Quoting.quote equal
        rw [double] at opened
        rw [← front, ← behind, ← List.append_assoc value, ← inner, ← opened]
        exact split
  · exact IsPlainString.stripped

/-! ## Definitions with bare keys -/

/-- A bare key: some letters, digits, underscores and dashes. -/
structure IsBareKey (key : Line) : Prop where
  nonempty : key ≠ []
  bare : ∀ char ∈ key, isBareKeyChar char = true

/-- The front of some text that a predicate accepts. -/
theorem takeWhile_append_of_forall
    {accepts : Char → Bool}
    {front : Line}
    (accepted : ∀ char ∈ front, accepts char = true)
    {char : Char}
    (stops : accepts char = false)
    (rest : Line) :
    (front ++ char :: rest).takeWhile accepts = front ∧
      (front ++ char :: rest).dropWhile accepts = char :: rest := by
  induction front with
  | nil => simp [stops]
  | cons first others inductionHypothesis =>
      obtain ⟨taken, left⟩ := inductionHypothesis fun other member =>
        accepted other (List.mem_cons_of_mem first member)
      have here := accepted first List.mem_cons_self
      rw [List.cons_append, List.takeWhile_cons_of_pos here, taken,
        List.dropWhile_cons_of_pos here, left]
      exact ⟨rfl, rfl⟩

/-- A definition with a bare key directly before the equals sign. -/
theorem readDefinition_of_isBareKey
    {key : Line}
    (isBareKey : IsBareKey key)
    (rest : Line) :
    readDefinition (key ++ '=' :: rest) = some (key, rest) := by
  obtain ⟨taken, left⟩ :=
    takeWhile_append_of_forall isBareKey.bare
      (show isBareKeyChar '=' = false by decide) rest
  obtain ⟨first, others, rfl⟩ :=
    List.exists_cons_of_ne_nil isBareKey.nonempty
  have bare := isBareKey.bare first List.mem_cons_self
  have differs : ∀ {char : Char}, isBareKeyChar char = false →
      first ≠ char := by
    rintro char foreign rfl
    rw [bare] at foreign
    cases foreign
  have noBlank : isBlank first = false := by
    simp [isBlank, differs (show isBareKeyChar ' ' = false by decide),
      differs (show isBareKeyChar '\t' = false by decide)]
  have skipped : skipBlanks (first :: others ++ '=' :: rest) =
      first :: others ++ '=' :: rest :=
    List.dropWhile_cons_of_neg (by simp [noBlank])
  have unquoted : ∀ {quote : Char}, isBareKeyChar quote = false →
      ¬[quote].isPrefixOf (first :: others ++ '=' :: rest) = true := by
    intro quote foreign
    simpa using (differs foreign).symm
  rw [readDefinition, skipped, readKey, if_neg (unquoted (by decide)),
    if_neg (unquoted (by decide)), taken, left, if_neg (List.cons_ne_nil _ _)]
  rfl

/-- A string is defined by a key, a quoted text and nothing behind it. -/
theorem readStringDefinition_eq_some
    {line key value : Line}
    (read : readStringDefinition line = some (key, value)) :
    ∃ rest behind, readDefinition line = some (key, rest) ∧
      readString (skipBlanks rest) = some (value, behind) ∧
      isEnd behind = true := by
  rw [readStringDefinition] at read
  cases found : readDefinition line with
  | none =>
      rw [found] at read
      cases read
  | some definition =>
      rw [found] at read
      dsimp only at read
      cases string : readString (skipBlanks definition.2) with
      | none =>
          rw [string] at read
          cases read
      | some result =>
          rw [string] at read
          dsimp only at read
          split_ifs at read with ends
          obtain ⟨rfl, rfl⟩ := Prod.mk.inj (Option.some.inj read)
          exact ⟨definition.2, result.2, rfl, string, ends⟩

/-- A line that defines a string defines its key. -/
theorem defines_of_readStringDefinition
    {line key value : Line}
    (read : readStringDefinition line = some (key, value)) :
    defines key line = true := by
  obtain ⟨rest, behind, found, -⟩ := readStringDefinition_eq_some read
  rw [defines, found]
  simp

/-- The value behind a bare key that stands directly before the equals sign. -/
theorem readString_of_isBareKey
    {key rest value : Line}
    (isBareKey : IsBareKey key)
    (read : readStringDefinition (key ++ '=' :: rest) = some (key, value)) :
    ∃ behind, readString (skipBlanks rest) = some (value, behind) ∧
      isEnd behind = true := by
  obtain ⟨other, behind, found, string, ends⟩ :=
    readStringDefinition_eq_some read
  rw [readDefinition_of_isBareKey isBareKey] at found
  obtain ⟨-, rfl⟩ := Prod.mk.inj (Option.some.inj found)
  exact ⟨behind, string, ends⟩

/-- A value without double quotes and backslashes is read back from between
double quotes. -/
theorem read_of_plain
    {value : Line}
    (plain : ∀ char ∈ value, char ≠ '"' ∧ char ≠ '\\')
    (rest : Line) :
    Quoting.read ⟨'"', 1⟩ .plain (value ++ '"' :: rest) =
      some (value, rest) := by
  induction value with
  | nil =>
      have closed : Quoting.close ⟨'"', 1⟩ ('"' :: rest) = some ([], rest) := by
        simp [Quoting.close]
      rw [List.nil_append, Quoting.read, closed]
  | cons char others inductionHypothesis =>
      obtain ⟨quote, backslash⟩ := plain char List.mem_cons_self
      have goesOn : Quoting.close ⟨'"', 1⟩
          (char :: (others ++ '"' :: rest)) = none := by
        simp [Quoting.close, quote]
      rw [List.cons_append, Quoting.read, goesOn]
      dsimp only
      rw [if_neg fun both => backslash both.1,
        inductionHypothesis fun other member =>
          plain other (List.mem_cons_of_mem char member)]
      rfl

/-- A definition written with a bare key and a plain value is read back. -/
theorem readStringDefinition_of_plain
    {key value : Line}
    (isBareKey : IsBareKey key)
    (plain : ∀ char ∈ value, char ≠ '"' ∧ char ≠ '\\') :
    readStringDefinition (key ++ '=' :: '"' :: (value ++ ['"'])) =
      some (key, value) := by
  have quoted : quotingOf ('"' :: (value ++ ['"'])) = some ⟨'"', 1⟩ := by
    have single : ¬['"', '"', '"'].isPrefixOf ('"' :: (value ++ ['"'])) =
        true := by
      cases value with
      | nil => decide
      | cons char others =>
          have quote := (plain char List.mem_cons_self).1
          simp [Ne.symm quote]
    rw [quotingOf, if_neg single, if_pos (by simp)]
  have skipped : skipBlanks ('"' :: (value ++ ['"'])) =
      '"' :: (value ++ ['"']) :=
    List.dropWhile_cons_of_neg (by decide)
  rw [readStringDefinition, readDefinition_of_isBareKey isBareKey]
  dsimp only
  rw [skipped, readString, quoted]
  dsimp only
  rw [List.drop_succ_cons, List.drop_zero, read_of_plain plain]
  rfl

end Toml
end Foundation
