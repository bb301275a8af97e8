import GhostProtocol.Foundation.TomlLine

/-!
# Reading and writing settings of the server

The management script reads and writes the configuration line by line: it looks
for lines that start with the key and an equals sign.  The loader of the server
accepts more layouts, among them the one that the script itself generates, with
spaces around the equals sign.  This module says for which lines the script and
the loader agree.
-/

namespace GhostProtocol
namespace Deploy

open Foundation Toml

/-- A text file: the texts between its line feeds.  The last one is empty if the
file ends with a line feed. -/
abbrev TextFile := List Line

/-- Append a line, as `echo` does with its output redirected to the end. -/
def echoAppend (text : Line) : TextFile → TextFile
  | [] => [text, []]
  | [last] => [last ++ text, []]
  | line :: lines => line :: echoAppend text lines

/-- What the script looks for: the key and an equals sign at the start. -/
def isSetting (key line : Line) : Bool :=
  (key ++ ['=']).isPrefixOf line

/-- Get a value of the configuration: the text behind the first line's equals
sign without double quotes and spaces, or nothing. -/
def configGet (key : Line) (config : TextFile) : Line :=
  match config.find? (isSetting key) with
  | none => []
  | some line => stripped (line.drop (key ++ ['=']).length)

/-- What getting a value prints if it succeeds.  Without a line that starts with
the key and an equals sign its pipeline fails, which ends the script. -/
def tryConfigGet (key : Line) (config : TextFile) : Option Line :=
  if config.any (isSetting key) then some (configGet key config) else none

/-- The line that the script writes. -/
def settingLine (key value : Line) : Line :=
  key ++ '=' :: '"' :: (value ++ ['"'])

/-- Set a value of the configuration, in every line that starts with the key and
an equals sign or else in a new line. -/
def configSet (key value : Line) (config : TextFile) : TextFile :=
  if config.any (isSetting key) then
    config.map fun line =>
      if isSetting key line then settingLine key value else line
  else echoAppend (settingLine key value) config

/-- Whether a character of a new value is printable and neither a space, a
quote, nor special to the script's substitution. -/
def isCleanChar (char : Char) : Bool :=
  0x20 < char.toNat && char.toNat ≠ 0x7F &&
    !(['"', '\'', '\\', '&', '|'].contains char)

/-- A new value of which every character is clean. -/
def IsClean (value : Line) : Prop :=
  ∀ char ∈ value, isCleanChar char = true

instance (value : Line) : Decidable (IsClean value) :=
  decidable_of_iff (value.all isCleanChar = true) List.all_eq_true

/-- The law of setting and getting, for a file with a line that defines a string:
after a new value has been set, the key is defined in as many lines as before,
only that line has changed, it defines the new value, and getting returns it.
Before, getting returns the value that the line defines. -/
structure SetsAndGets
    (key value : Line)
    (before : List Line)
    (line : Line)
    (after : List Line) : Prop where
  once : ∀ new, IsClean new →
    (configSet key new (before ++ line :: after)).countP (defines key) =
      (before ++ line :: after).countP (defines key)
  set : ∀ new, IsClean new → ∃ changed,
    configSet key new (before ++ line :: after) =
      before ++ changed :: after ∧
    readStringDefinition changed = some (key, new)
  getNew : ∀ new, IsClean new →
    configGet key (configSet key new (before ++ line :: after)) = new
  get : configGet key (before ++ line :: after) = value

/-- The line starts with the key and an equals sign, the value stands plainly
between double quotes behind it, with no more than spaces around, and no other
line starts in this way. -/
structure IsPlainSetting
    (key value : Line)
    (before : List Line)
    (line : Line)
    (after : List Line) : Prop where
  alone : ∀ other, other ∈ before ∨ other ∈ after →
    isSetting key other = false
  line : ∃ text, line = key ++ '=' :: text ∧ IsPlainString value text

/-- A line that starts with a key and an equals sign. -/
theorem isSetting_iff {key line : Line} :
    isSetting key line = true ↔ ∃ text, line = key ++ '=' :: text := by
  rw [isSetting, List.isPrefixOf_iff_prefix]
  constructor
  · rintro ⟨text, rfl⟩
    exact ⟨text, by simp⟩
  · rintro ⟨text, rfl⟩
    exact ⟨text, by simp⟩

/-- A key and an equals sign are found in front of any text. -/
theorem isSetting_append (key text : Line) :
    isSetting key (key ++ '=' :: text) = true :=
  isSetting_iff.mpr ⟨text, rfl⟩

/-- Clean characters are kept by getting, and are no backslashes. -/
theorem isKept_of_isCleanChar
    {char : Char}
    (clean : isCleanChar char = true) :
    isKept char = true ∧ char ≠ '"' ∧ char ≠ '\\' := by
  have differs : ∀ {other : Char}, isCleanChar other = false →
      char ≠ other := by
    rintro other foul rfl
    rw [clean] at foul
    cases foul
  have quote : char ≠ '"' := differs (by decide)
  have space : char ≠ ' ' := differs (by decide)
  refine ⟨by simp [isKept, quote, space], quote, differs (by decide)⟩

/-- The line that the script writes defines the new value. -/
theorem readStringDefinition_settingLine
    {key value : Line}
    (isBareKey : IsBareKey key)
    (clean : IsClean value) :
    readStringDefinition (settingLine key value) = some (key, value) :=
  readStringDefinition_of_plain isBareKey fun char member =>
    (isKept_of_isCleanChar (clean char member)).2

/-- Getting reads the first line that starts with the key and an equals
sign. -/
theorem configGet_of_first
    {key text : Line}
    {before : List Line}
    (foreign : ∀ other ∈ before, isSetting key other = false)
    (after : List Line) :
    configGet key (before ++ (key ++ '=' :: text) :: after) =
      stripped text := by
  have first : (before ++ (key ++ '=' :: text) :: after).find?
      (isSetting key) = some (key ++ '=' :: text) := by
    rw [List.find?_append, List.find?_eq_none.mpr fun other member => by
      rw [foreign other member]
      exact Bool.false_ne_true]
    exact List.find?_cons_of_pos (isSetting_append key text)
  have split : key ++ '=' :: text = (key ++ ['=']) ++ text := by simp
  rw [configGet, first]
  dsimp only
  rw [split, List.drop_left]

/-- Setting replaces the only line that starts with the key and an equals
sign. -/
theorem configSet_of_alone
    {key text : Line}
    {before after : List Line}
    (foreign : ∀ other, other ∈ before ∨ other ∈ after →
      isSetting key other = false)
    (value : Line) :
    configSet key value (before ++ (key ++ '=' :: text) :: after) =
      before ++ settingLine key value :: after := by
  have here : isSetting key (key ++ '=' :: text) = true :=
    isSetting_append key text
  have kept : ∀ lines : List Line,
      (∀ other ∈ lines, isSetting key other = false) →
      lines.map (fun line =>
        if isSetting key line then settingLine key value else line) =
          lines := by
    intro lines others
    refine (List.map_congr_left fun other member => ?_).trans
      (List.map_id lines)
    rw [others other member]
    rfl
  have found : (before ++ (key ++ '=' :: text) :: after).any (isSetting key) =
      true := by
    rw [List.any_append, List.any_cons, here, Bool.true_or, Bool.or_true]
  rw [configSet, if_pos found, List.map_append, List.map_cons, if_pos here,
    kept before fun other member => foreign other (.inl member),
    kept after fun other member => foreign other (.inr member)]

/-- Appending makes a file longer. -/
theorem length_echoAppend (text : Line) {config : TextFile}
    (nonempty : config ≠ []) :
    (echoAppend text config).length = config.length + 1 := by
  induction config with
  | nil => exact absurd rfl nonempty
  | cons line lines inductionHypothesis =>
      cases lines with
      | nil => rfl
      | cons next others =>
          rw [echoAppend, List.length_cons,
            inductionHypothesis (List.cons_ne_nil next others)]
          · rfl
          · exact nofun

/-- Different values are written in different lines. -/
theorem settingLine_injective (key : Line) :
    Function.Injective (settingLine key) := by
  intro first second equal
  rw [settingLine, settingLine, List.append_cancel_left_eq, List.cons.injEq,
    List.cons.injEq, List.append_cancel_right_eq] at equal
  exact equal.2.2

/-- Setting replaces every line that starts with the key and an equals sign, so
a change of one line at most replaces no other line. -/
theorem isSetting_of_configSet
    {key value : Line}
    {before after : List Line}
    {line changed : Line}
    (replaced : configSet key value (before ++ line :: after) =
      before ++ changed :: after) :
    isSetting key line = true ∨
      ∃ other, (other ∈ before ∨ other ∈ after) ∧
        isSetting key other = true := by
  rw [configSet] at replaced
  split_ifs at replaced with found
  · obtain ⟨other, member, isOther⟩ := List.any_eq_true.mp found
    rcases List.mem_append.mp member with early | here
    · exact .inr ⟨other, .inl early, isOther⟩
    · rcases List.mem_cons.mp here with rfl | late
      · exact .inl isOther
      · exact .inr ⟨other, .inr late, isOther⟩
  · have longer := congrArg List.length replaced
    rw [length_echoAppend _ (by simp)] at longer
    simp at longer

/-- A line besides the changed one holds the new value already if it starts with
the key and an equals sign. -/
theorem eq_settingLine_of_isSetting
    {key value : Line}
    {before after : List Line}
    {line changed other : Line}
    (replaced : configSet key value (before ++ line :: after) =
      before ++ changed :: after)
    (member : other ∈ before ∨ other ∈ after)
    (isOther : isSetting key other = true) :
    other = settingLine key value := by
  have inside : other ∈ before ++ line :: after := by
    rcases member with early | late
    · exact List.mem_append_left _ early
    · exact List.mem_append_right _ (List.mem_cons_of_mem line late)
  have found : (before ++ line :: after).any (isSetting key) = true :=
    List.any_eq_true.mpr ⟨other, inside, isOther⟩
  have unchanged : ∀ lines : List Line,
      lines.map (fun line =>
        if isSetting key line then settingLine key value else line) =
          lines →
      other ∈ lines → other = settingLine key value := by
    intro lines same there
    have fixed := List.map_inj_left.mp (same.trans (List.map_id lines).symm)
      other there
    rw [if_pos isOther] at fixed
    exact fixed.symm
  rw [configSet, if_pos found, List.map_append, List.map_cons] at replaced
  obtain ⟨same, rest⟩ := List.append_inj replaced (List.length_map ..)
  rcases member with early | late
  · exact unchanged before same early
  · exact unchanged after (List.cons.inj rest).2 late

/-- The script and the loader agree about a line that defines a string if and
only if it is a plain setting. -/
theorem setsAndGets_iff
    {key value line : Line}
    (isBareKey : IsBareKey key)
    (read : readStringDefinition line = some (key, value))
    (before after : List Line) :
    SetsAndGets key value before line after ↔
      IsPlainSetting key value before line after := by
  constructor
  · rintro ⟨-, set, -, get⟩
    obtain ⟨changedA, replacedA, -⟩ := set ['a'] (by decide)
    obtain ⟨changedB, replacedB, -⟩ := set ['b'] (by decide)
    have alone : ∀ other, other ∈ before ∨ other ∈ after →
        isSetting key other = false := by
      intro other member
      rw [← Bool.not_eq_true]
      intro isOther
      -- The line would hold both values at once.
      have asA := eq_settingLine_of_isSetting replacedA member isOther
      have asB := eq_settingLine_of_isSetting replacedB member isOther
      have equal := settingLine_injective key (asA.symm.trans asB)
      cases equal
    have here : isSetting key line = true := by
      rcases isSetting_of_configSet replacedA with
        here | ⟨other, member, isOther⟩
      · exact here
      · rw [alone other member] at isOther
        cases isOther
    obtain ⟨text, rfl⟩ := isSetting_iff.mp here
    obtain ⟨behind, string, ends⟩ := readString_of_isBareKey isBareKey read
    rw [configGet_of_first fun other member => alone other (.inl member)]
      at get
    exact ⟨alone, text, rfl, (stripped_eq_iff string ends).mp get⟩
  · rintro ⟨alone, text, rfl, isPlain⟩
    have first : ∀ other ∈ before, isSetting key other = false :=
      fun other member => alone other (.inl member)
    refine ⟨fun new clean => ?_, fun new clean => ?_, fun new clean => ?_, ?_⟩
    · have old := defines_of_readStringDefinition read
      have now := defines_of_readStringDefinition
        (readStringDefinition_settingLine isBareKey clean)
      rw [configSet_of_alone alone, List.countP_append, List.countP_append,
        List.countP_cons_of_pos old, List.countP_cons_of_pos now]
    · exact ⟨_, configSet_of_alone alone new,
        readStringDefinition_settingLine isBareKey clean⟩
    · have kept : ∀ char ∈ new, isKept char = true := fun char member =>
        (isKept_of_isCleanChar (clean char member)).1
      have isNew : IsPlainString new ('"' :: (new ++ ['"'])) :=
        ⟨⟨0, 1, 0, .inl rfl, rfl⟩, kept, fun member =>
          (isKept_of_isCleanChar (clean _ member)).2.2 rfl⟩
      rw [configSet_of_alone alone, settingLine, configGet_of_first first]
      exact isNew.stripped
    · rw [configGet_of_first first]
      exact isPlain.stripped

/-! ## The layout that the script generates -/

/-- The key of the domain that the server is disguised as. -/
def maskDomain : Line := "mask_domain".toList

/-- The key of the server's key. -/
def realityAuthKey : Line := "reality_auth_key".toList

/-- A comment of the generated configuration, one of which holds the date. -/
abbrev Comment := {line : Line // ['#'].isPrefixOf line = true}

/-- The line of the server's key in the generated configuration. -/
def authKeyLine (authKey : Line) : Line :=
  "reality_auth_key = ".toList ++ '"' :: (authKey ++ ['"'])

/-- The lines of the generated configuration in front of the mask domain. -/
def generatedBefore (comment : Nat → Comment) : List Line :=
  [(comment 0).val, (comment 1).val, (comment 2).val, (comment 3).val,
    (comment 4).val,
    [],
    (comment 5).val,
    [],
    (comment 6).val,
    "listen_addr = \"0.0.0.0:443\"".toList,
    [],
    (comment 7).val,
    [],
    (comment 8).val, (comment 9).val,
    "allowed_users = [".toList,
    "]".toList,
    [],
    (comment 10).val,
    [],
    (comment 11).val,
    "enable_padding = true".toList,
    [],
    (comment 12).val,
    "max_padding_len = 64".toList,
    [],
    (comment 13).val,
    [],
    (comment 14).val,
    "enable_reality = true".toList,
    [],
    (comment 15).val]

/-- The line of the mask domain in the generated configuration. -/
def generatedLine : Line :=
  "mask_domain = \"www.apple.com\"".toList

/-- The lines of the generated configuration behind the mask domain. -/
def generatedAfter (comment : Nat → Comment) (authKey : Line) : List Line :=
  [[],
    (comment 16).val,
    authKeyLine authKey,
    [],
    (comment 17).val,
    [],
    (comment 18).val,
    "verify_ja4 = false".toList,
    [],
    (comment 19).val,
    "allowed_ja4 = []".toList,
    []]

/-- The configuration that the script generates, with its comments and some
key. -/
def generatedConfig (comment : Nat → Comment) (authKey : Line) : TextFile :=
  generatedBefore comment ++ generatedLine :: generatedAfter comment authKey

/-- The loader reads the line of the mask domain. -/
theorem readStringDefinition_generatedLine :
    readStringDefinition generatedLine =
      some (maskDomain, "www.apple.com".toList) := by
  decide

/-- The key of that line is bare. -/
theorem isBareKey_maskDomain : IsBareKey maskDomain :=
  ⟨by decide, List.all_eq_true.mp (by decide)⟩

/-- No line of the generated configuration starts with the key of the mask
domain and an equals sign. -/
theorem isSetting_generatedConfig
    (comment : Nat → Comment)
    (authKey : Line) :
    ∀ line ∈ generatedConfig comment authKey,
      isSetting maskDomain line = false := by
  have comments : ∀ index, isSetting maskDomain (comment index).val = false := by
    intro index
    obtain ⟨rest, hash⟩ :=
      List.isPrefixOf_iff_prefix.mp (comment index).property
    rw [← hash]
    rfl
  have key : isSetting maskDomain (authKeyLine authKey) = false := rfl
  have settings : ∀ text ∈ ["listen_addr = \"0.0.0.0:443\"",
      "allowed_users = [", "]", "enable_padding = true", "max_padding_len = 64",
      "enable_reality = true", "verify_ja4 = false", "allowed_ja4 = []"],
      isSetting maskDomain text.toList = false := by
    decide +kernel
  have line : isSetting maskDomain generatedLine = false := by
    decide +kernel
  have blank : isSetting maskDomain [] = false := rfl
  simp only [List.forall_mem_cons, List.not_mem_nil, false_imp_iff,
    implies_true, and_true] at settings
  simp only [generatedConfig, generatedBefore, generatedAfter,
    List.forall_mem_append, List.forall_mem_cons, comments, key, blank, line,
    settings, List.not_mem_nil, false_imp_iff, implies_true, and_self]

/-- Getting finds nothing if no line starts with the key and an equals sign. -/
theorem configGet_of_foreign
    {key : Line}
    {config : TextFile}
    (foreign : ∀ line ∈ config, isSetting key line = false) :
    configGet key config = [] := by
  have none : config.find? (isSetting key) = none :=
    List.find?_eq_none.mpr fun line member => by
      rw [foreign line member]
      exact Bool.false_ne_true
  rw [configGet, none]

/-- Whether the script and the loader agree about the mask domain depends on its
layout. -/
theorem setsAndGets_iff_generatedLine :
    SetsAndGets maskDomain "www.apple.com".toList
        (generatedBefore fun _ => ⟨['#'], rfl⟩) generatedLine
        (generatedAfter (fun _ => ⟨['#'], rfl⟩) (List.replicate 64 '0')) ↔
      IsPlainSetting maskDomain "www.apple.com".toList
        (generatedBefore fun _ => ⟨['#'], rfl⟩) generatedLine
        (generatedAfter (fun _ => ⟨['#'], rfl⟩) (List.replicate 64 '0')) :=
  setsAndGets_iff isBareKey_maskDomain readStringDefinition_generatedLine _ _

/-- In the generated configuration getting finds no mask domain. -/
theorem not_setsAndGets :
    ¬∀ (key value line : Line) (before after : List Line), IsBareKey key →
      readStringDefinition line = some (key, value) →
      SetsAndGets key value before line after := by
  intro law
  have get := (law _ _ _ (generatedBefore fun _ => ⟨['#'], rfl⟩)
    (generatedAfter (fun _ => ⟨['#'], rfl⟩) (List.replicate 64 '0'))
    isBareKey_maskDomain readStringDefinition_generatedLine).get
  have none := configGet_of_foreign (isSetting_generatedConfig
    (fun _ => ⟨['#'], rfl⟩) (List.replicate 64 '0'))
  have equal := none.symm.trans get
  revert equal
  decide

end Deploy
end GhostProtocol
