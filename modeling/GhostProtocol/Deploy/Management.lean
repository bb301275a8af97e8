import GhostProtocol.Deploy.KeyRuns
import Mathlib.Data.List.Dedup
import Mathlib.Logic.Function.Basic

/-!
# Managing a server

An administrator creates keys and changes the mask domain in any order, and both
go to the same configuration.  Neither disturbs the other: the users are those of
the store in which the keys are created, and getting a setting returns the value
that was last set, or the one of the beginning.  In the configuration that the
script generates the mask domain cannot be read, so both commands end before
they write anything.
-/

namespace GhostProtocol
namespace Deploy

open Foundation Toml

/-- The domains that the script offers. -/
def maskDomains : List Line :=
  ["www.apple.com".toList, "ads.x5.ru".toList, "www.google.com".toList,
    "www.microsoft.com".toList, "cdn.cloudflare.com".toList,
    "www.amazon.com".toList, "play.google.com".toList,
    "store.steampowered.com".toList]

/-- The domain that is chosen: an offered one by its number, or by the number
behind them the one that is entered, unless that is empty. -/
def chooseDomain (choice : Nat) (entered : Line) : Option Line :=
  if 1 ≤ choice ∧ choice ≤ maskDomains.length then maskDomains[choice - 1]?
  else if choice = maskDomains.length + 1 then
    if entered = [] then none else some entered
  else none

/-- Change the mask domain.  The script ends if the present one cannot be
read. -/
def doMask
    (host : Host)
    (choice : Nat)
    (entered : Line)
    (files : ConfigFiles) : ConfigFiles :=
  if !host.readsScript then files
  else
    match tryConfigGet maskDomain files.config,
      chooseDomain choice entered with
    | some _, some domain =>
        { files with config := configSet maskDomain domain files.config }
    | _, _ => files

/-- What an administrator does: create a key, whose id has been generated, or
change the mask domain by a choice and perhaps an entered domain. -/
inductive Command
  | key (uuid : Line)
  | mask (choice : Nat) (entered : Line)
  deriving DecidableEq, Repr

/-- Run a command. -/
def Command.run
    (host : Host)
    (files : ConfigFiles) : Command → ConfigFiles
  | .key uuid => doKey host uuid files
  | .mask choice entered => doMask host choice entered files

/-- The users of a server and the values of the settings that can be read. -/
structure Managed where
  store : KeyStore
  view : Line → Option Line

/-- Whether a line is sorted in front of another or is equal to it. -/
def sortsBefore (first second : Line) : Bool :=
  !List.lex second first fun one other => one.toNat < other.toNat

/-- The ids that the script lists: the ones that it takes for the present users,
sorted and without repetitions. -/
def getAllowedUsers (config : TextFile) : List Line :=
  ((currentUsers config).mergeSort sortsBefore).dedup

/-- What a command is for. -/
def Managed.run (host : Host) (managed : Managed) : Command → Managed
  | .key uuid =>
      if (managed.view maskDomain).isSome &&
          (managed.view realityAuthKey).isSome then
        { managed with store := managed.store.create host uuid }
      else managed
  | .mask choice entered =>
      if !host.readsScript then managed
      else
        match managed.view maskDomain, chooseDomain choice entered with
        | some _, some domain =>
            { managed with
              view := Function.update managed.view maskDomain (some domain) }
        | _, _ => managed

/-- A value that can be set: a clean one, which is not itself an id, for a bare
key that is not the one of the users. -/
structure IsProperSetting (key value : Line) : Prop where
  isBareKey : IsBareKey key
  other : ¬allowedUsers <+: key
  clean : IsClean value
  noId : isIdText value = false

/-- The commands that the script can be given: the ids of new keys are among
some, and an entered domain is clean and not itself an id. -/
def Command.IsProper (uuids : List Line) : Command → Prop
  | .key uuid => uuid ∈ uuids ∧ isIdText uuid = true
  | .mask _ entered => IsClean entered ∧ isIdText entered = false

/-! ## Lines that set a key -/

/-- A line that sets a bare key has no white space in front. -/
theorem strip_prefix_of_isSetting
    {key line : Line}
    (isBareKey : IsBareKey key)
    (sets : isSetting key line = true) :
    strip line <+: line := by
  obtain ⟨char, rest, -, rfl, -, bare⟩ := strip_of_isSetting isBareKey sets
  have visible := isPythonSpace_of_visible (visible_of_isBareKeyChar bare)
  rw [strip, List.dropWhile_cons_of_neg
    (show ¬isPythonSpace char = true by simp [visible])]
  exact List.rdropWhile_prefix isPythonSpace (char :: rest)

/-- A line that sets a bare key is neither blank nor does it end the array. -/
theorem inside_of_isSetting
    {key line : Line}
    (isBareKey : IsBareKey key)
    (sets : isSetting key line = true) :
    strip line ≠ [] ∧ endsUsers line = false := by
  obtain ⟨char, rest, behind, -, stripped, bare⟩ :=
    strip_of_isSetting isBareKey sets
  have differs : ∀ {other : Char}, isBareKeyChar other = false →
      (other == char) = false := by
    intro other foreign
    rw [beq_eq_false_iff_ne]
    rintro rfl
    rw [bare] at foreign
    cases foreign
  rw [endsUsers, stripped]
  refine ⟨List.cons_ne_nil _ _, ?_⟩
  simp [List.isPrefixOf, differs (show isBareKeyChar '[' = false by decide),
    differs (show isBareKeyChar '#' = false by decide)]

/-- No id starts in text without quotes. -/
theorem quotedIds_append
    {front : Line}
    (noQuote : '"' ∉ front)
    (rest : Line) :
    quotedIds 0 (front ++ rest) = quotedIds 0 rest := by
  induction front with
  | nil => rfl
  | cons char others inductionHypothesis =>
      rw [List.mem_cons, not_or] at noQuote
      rw [List.cons_append, quotedIds,
        if_neg fun found => noQuote.1 found.1.symm]
      exact inductionHypothesis noQuote.2

/-- The domain of a proper command can be set. -/
theorem isProperSetting_of_chooseDomain
    {choice : Nat}
    {entered domain : Line}
    (clean : IsClean entered)
    (noId : isIdText entered = false)
    (chosen : chooseDomain choice entered = some domain) :
    IsProperSetting maskDomain domain := by
  have offered : ∀ domain ∈ maskDomains,
      IsClean domain ∧ isIdText domain = false := by
    decide +kernel
  have isOther : ¬allowedUsers <+: maskDomain := by decide
  rw [chooseDomain] at chosen
  split_ifs at chosen with listed behind empty
  · obtain ⟨isClean, isNoId⟩ :=
      offered domain (List.mem_of_getElem? chosen)
    exact ⟨isBareKey_maskDomain, isOther, isClean, isNoId⟩
  · obtain rfl := Option.some.inj chosen
    exact ⟨isBareKey_maskDomain, isOther, clean, noId⟩

namespace IsProperSetting

variable
  {key value : Line}
  (proper : IsProperSetting key value)

include proper

/-- A value that can be set holds no quote. -/
theorem noQuote : '"' ∉ value := fun member =>
  (isKept_of_isCleanChar (proper.clean '"' member)).2.1 rfl

/-- The line of a setting holds two quotes. -/
theorem settingLine_eq :
    settingLine key value = (key ++ ['=']) ++ '"' :: (value ++ '"' :: []) ∧
      '"' ∉ key ++ ['='] := by
  refine ⟨by simp [settingLine], ?_⟩
  rw [List.mem_append, not_or]
  exact ⟨notMem_of_isBareKey proper.isBareKey (by decide), by decide⟩

/-- The line of a setting does not seem to define the users. -/
theorem opensUsers_settingLine :
    opensUsers (settingLine key value) = false := by
  rw [← Bool.not_eq_true, opensUsers, List.isPrefixOf_iff_prefix]
  intro opens
  have front : allowedUsers <+: key ++ '=' :: '"' :: (value ++ ['"']) :=
    opens.trans (strip_prefix_of_isSetting proper.isBareKey
      (isSetting_append key _))
  rcases List.prefix_or_prefix_of_prefix front (List.prefix_append _ _) with
    inside | ⟨rest, split⟩
  · exact proper.other inside
  · rw [← split, List.prefix_append_right_inj] at front
    cases rest with
    | nil =>
        rw [List.append_nil] at split
        exact proper.other ⟨[], by rw [split, List.append_nil]⟩
    | cons char others =>
        obtain ⟨rfl, -⟩ := List.cons_prefix_cons.mp front
        have member : '=' ∈ allowedUsers := by
          rw [← split]
          exact List.mem_append_right key List.mem_cons_self
        exact absurd member (by decide)

/-- The line of a setting holds no id. -/
theorem quotedIds_settingLine :
    quotedIds 0 (settingLine key value) = [] := by
  obtain ⟨split, front⟩ := proper.settingLine_eq
  have noId : ¬(isIdText ((value ++ ['"']).take 32) = true ∧
      (value ++ ['"'])[32]? = some '"') := by
    rintro ⟨isId, closed⟩
    obtain ⟨length, -⟩ := of_isIdText isId
    rw [List.length_take, List.length_append] at length
    by_cases exact_length : value.length = 32
    · rw [← exact_length, List.take_left, proper.noId] at isId
      cases isId
    · have long : 32 < value.length := by
        have least := Nat.min_le_right 32 (value.length + ['"'].length)
        obtain ⟨inside, -⟩ := List.getElem?_eq_some_iff.mp closed
        rw [List.length_append, List.length_singleton] at inside
        omega
      rw [List.getElem?_append_left long, List.getElem?_eq_getElem long]
        at closed
      have member := List.getElem_mem long
      rw [Option.some.inj closed] at member
      exact proper.noQuote member
  have none : quotedIds 0 ('"' :: (value ++ ['"'])) = [] := by
    rw [quotedIds, if_neg fun found => noId found.2,
      quotedIds_append proper.noQuote]
    rfl
  rw [split, quotedIds_append front]
  exact none

/-- A new id does not stand in the line of a setting. -/
theorem quotes_settingLine
    {uuid : Line}
    (isNew : isIdText uuid = true) :
    quotes uuid (settingLine key value) = false := by
  obtain ⟨split, front⟩ := proper.settingLine_eq
  rw [← Bool.not_eq_true, split, quotes_iff (of_isIdText isNew).2 front
    proper.noQuote List.not_mem_nil]
  rintro rfl
  rw [proper.noId] at isNew
  cases isNew

end IsProperSetting

/-! ## Setting a value -/

/-- Lines in which those that set a key have been replaced. -/
def replaced (key value : Line) (lines : List Line) : List Line :=
  lines.map fun line =>
    if isSetting key line then settingLine key value else line

/-- A replaced line is an old one or the new one. -/
theorem mem_of_mem_replaced
    {key value line : Line}
    {lines : List Line}
    (member : line ∈ replaced key value lines) :
    line ∈ lines ∨ line = settingLine key value := by
  obtain ⟨old, inside, rfl⟩ := List.mem_map.mp member
  split_ifs
  · exact .inr rfl
  · exact .inl inside

/-- Lines that do not set the key are not replaced. -/
theorem replaced_of_forall
    {key : Line}
    {lines : List Line}
    (foreign : ∀ line ∈ lines, isSetting key line = false)
    (value : Line) :
    replaced key value lines = lines := by
  refine (List.map_congr_left fun line member => ?_).trans (List.map_id lines)
  rw [foreign line member]
  rfl

/-- Replacing lines that set a key leaves the lines up to the end of the array
as they are if those are blank. -/
theorem takeWhile_replaced
    {key value : Line}
    (isBareKey : IsBareKey key)
    {lines : List Line}
    (skipped : ∀ line ∈ lines.takeWhile (!endsUsers ·), strip line = []) :
    (replaced key value lines).takeWhile (!endsUsers ·) =
      lines.takeWhile (!endsUsers ·) := by
  have same : ∀ line, (!endsUsers
      (if isSetting key line then settingLine key value else line)) =
        !endsUsers line := by
    intro line
    split_ifs with sets
    · rw [(inside_of_isSetting isBareKey sets).2,
        (inside_of_isSetting isBareKey (isSetting_settingLine key value)).2]
    · rfl
  have blank : ∀ line ∈ lines.takeWhile (!endsUsers ·),
      isSetting key line = false := by
    intro line member
    rw [← Bool.not_eq_true]
    intro sets
    exact (inside_of_isSetting isBareKey sets).1 (skipped line member)
  rw [replaced, List.takeWhile_map, Function.comp_def]
  simp only [same]
  exact replaced_of_forall blank value

/-- Lines around the array do not disturb the script when those that set a key
have been replaced. -/
theorem Surrounds.replaced
    {before after uuids : List Line}
    (surrounds : Surrounds before after uuids)
    (areNew : ∀ uuid ∈ uuids, isIdText uuid = true)
    {key value : Line}
    (proper : IsProperSetting key value) :
    Surrounds (replaced key value before) (replaced key value after)
      uuids := by
  have around : ∀ line, line ∈ Deploy.replaced key value before ∨
      line ∈ Deploy.replaced key value after →
      (line ∈ before ∨ line ∈ after) ∨ line = settingLine key value := by
    rintro line (early | late)
    · exact (mem_of_mem_replaced early).imp_left .inl
    · exact (mem_of_mem_replaced late).imp_left .inr
  refine ⟨fun line member => ?_, fun line member => ?_, fun line member => ?_,
    fun line member uuid isNew => ?_⟩
  · rcases around line member with old | rfl
    · exact surrounds.foreign line old
    · exact proper.opensUsers_settingLine
  · rcases mem_of_mem_replaced member with old | rfl
    · exact surrounds.bare line old
    · exact proper.quotedIds_settingLine
  · rw [takeWhile_replaced proper.isBareKey surrounds.skipped] at member
    exact surrounds.skipped line member
  · rcases around line member with old | rfl
    · exact surrounds.unknown line old uuid isNew
    · exact proper.quotes_settingLine (areNew uuid isNew)

/-- Setting a value that is there keeps the array and replaces lines around
it. -/
theorem configSet_newArray
    {key : Line}
    (isBareKey : IsBareKey key)
    {before users after : List Line}
    (found : (before ++ newArray users ++ after).any (isSetting key) = true)
    (value : Line) :
    configSet key value (before ++ newArray users ++ after) =
      replaced key value before ++ newArray users ++
        replaced key value after := by
  rw [configSet, if_pos found, List.map_append, List.map_append]
  exact congrArg (_ ++ · ++ _)
    (replaced_of_forall (isSetting_of_mem_newArray isBareKey) value)

/-! ## Getting -/

/-- The line of a setting sets no other bare key, and neither does a line that
sets the key. -/
theorem eq_of_isSetting
    {key other line : Line}
    (isBareKey : IsBareKey key)
    (isOther : IsBareKey other)
    (sets : isSetting key line = true)
    (setsOther : isSetting other line = true) :
    key = other := by
  obtain ⟨text, rfl⟩ := isSetting_iff.mp sets
  obtain ⟨behind, equal⟩ := isSetting_iff.mp setsOther
  exact (append_cons_inj_of_notMem (notMem_of_isBareKey isBareKey (by decide))
    (notMem_of_isBareKey isOther (by decide)) equal).1

/-- A replaced line sets another bare key if and only if the old one did. -/
theorem isSetting_replaced
    {key other : Line}
    (isBareKey : IsBareKey key)
    (isOther : IsBareKey other)
    (differs : other ≠ key)
    (value line : Line) :
    isSetting other
        (if isSetting key line then settingLine key value else line) =
      isSetting other line := by
  have neither : ∀ line, isSetting key line = true →
      isSetting other line = false := by
    intro line sets
    rw [← Bool.not_eq_true]
    intro setsOther
    exact differs (eq_of_isSetting isBareKey isOther sets setsOther).symm
  split_ifs with sets
  · rw [neither line sets, neither _ (isSetting_settingLine key value)]
  · rfl

/-- Getting returns the value of the line that is found. -/
theorem configGet_of_find
    {key value : Line}
    (clean : IsClean value)
    {config : TextFile}
    (found : config.find? (isSetting key) = some (settingLine key value)) :
    configGet key config = value := by
  have isPlain : IsPlainString value ('"' :: (value ++ ['"'])) :=
    ⟨⟨0, 1, 0, .inl rfl, rfl⟩, fun char member =>
      (isKept_of_isCleanChar (clean char member)).1, fun member =>
        (isKept_of_isCleanChar (clean _ member)).2.2 rfl⟩
  have split : settingLine key value =
      (key ++ ['=']) ++ '"' :: (value ++ ['"']) := by simp [settingLine]
  rw [configGet, found]
  dsimp only
  rw [split, List.drop_left]
  exact isPlain.stripped

/-- A line sets the key of a value that can be read. -/
theorem any_isSetting_of_tryConfigGet
    {key value : Line}
    {config : TextFile}
    (read : tryConfigGet key config = some value) :
    config.any (isSetting key) = true := by
  rw [tryConfigGet] at read
  split_ifs at read with found
  exact found

/-- Getting a value that has just been replaced returns the new one. -/
theorem tryConfigGet_configSet_self
    {key value : Line}
    (clean : IsClean value)
    {config : TextFile}
    (found : config.any (isSetting key) = true) :
    tryConfigGet key (configSet key value config) = some value := by
  have same : isSetting key ∘ (fun line =>
      if isSetting key line then settingLine key value else line) =
        isSetting key := by
    funext line
    rw [Function.comp_apply]
    split_ifs with sets
    · rw [sets, isSetting_settingLine]
    · rfl
  have first : (config.map fun line =>
      if isSetting key line then settingLine key value else line).find?
        (isSetting key) = some (settingLine key value) := by
    rw [List.find?_map, same]
    cases first : config.find? (isSetting key) with
    | none =>
        obtain ⟨line, member, sets⟩ := List.any_eq_true.mp found
        exact absurd sets (List.find?_eq_none.mp first line member)
    | some line =>
        rw [Option.map_some, if_pos (List.find?_some first)]
  rw [tryConfigGet, configSet, if_pos found, List.any_map, same,
    if_pos found, configGet_of_find clean first]

/-- Getting another value is not affected by replacing one. -/
theorem tryConfigGet_configSet_of_ne
    {key other : Line}
    (isBareKey : IsBareKey key)
    (isOther : IsBareKey other)
    (differs : other ≠ key)
    {config : TextFile}
    (found : config.any (isSetting key) = true)
    (value : Line) :
    tryConfigGet other (configSet key value config) =
      tryConfigGet other config := by
  have kept : isSetting other ∘ (fun line =>
      if isSetting key line then settingLine key value else line) =
        isSetting other :=
    funext (isSetting_replaced isBareKey isOther differs value)
  have same : (config.map fun line =>
      if isSetting key line then settingLine key value else line).find?
        (isSetting other) = config.find? (isSetting other) := by
    rw [List.find?_map, kept]
    cases first : config.find? (isSetting other) with
    | none => rfl
    | some line =>
        have sets : ¬isSetting key line = true := fun sets => differs
          (eq_of_isSetting isBareKey isOther sets
            (List.find?_some first)).symm
        rw [Option.map_some, if_neg sets]
  rw [tryConfigGet, tryConfigGet, configSet, if_pos found, List.any_map, kept,
    configGet, configGet, same]

/-! ## Any commands -/

/-- The files of a server are those of its users and settings, between lines
that do not disturb the script. -/
structure Represents
    (uuids : List Line)
    (files : ConfigFiles)
    (managed : Managed) : Prop where
  layout : ∃ before after, Surrounds before after uuids ∧
    files = managed.store.files before after
  valid : managed.store.IsValid
  view : ∀ key, IsBareKey key →
    tryConfigGet key files.config = managed.view key

/-- The settings can be read if they have values. -/
theorem Represents.hasSettings_iff
    {uuids : List Line}
    {files : ConfigFiles}
    {managed : Managed}
    (represents : Represents uuids files managed) :
    HasSettings files.config ↔ ((managed.view maskDomain).isSome &&
      (managed.view realityAuthKey).isSome) = true := by
  rw [← represents.view maskDomain isBareKey_maskDomain,
    ← represents.view realityAuthKey isBareKey_realityAuthKey,
    Bool.and_eq_true, Option.isSome_iff_exists, Option.isSome_iff_exists]
  exact ⟨fun has => ⟨has.maskDomain, has.realityAuthKey⟩,
    fun ⟨domain, authKey⟩ => ⟨domain, authKey⟩⟩

/-- Creating a key does to the files what it is for. -/
theorem Represents.doKey
    (host : Host)
    {uuids : List Line}
    {files : ConfigFiles}
    {managed : Managed}
    (represents : Represents uuids files managed)
    {uuid : Line}
    (member : uuid ∈ uuids)
    (isNew : isIdText uuid = true) :
    Represents uuids (doKey host uuid files)
      (managed.run host (.key uuid)) := by
  rw [Managed.run]
  by_cases has : HasSettings files.config
  · rw [if_pos (represents.hasSettings_iff.mp has)]
    obtain ⟨before, after, surrounds, rfl⟩ := represents.layout
    have created := doKey_files host surrounds
      ((hasSettings_files_iff managed.store before after).mp has)
      represents.valid member isNew
    constructor
    · exact ⟨before, after, surrounds, created⟩
    · exact represents.valid.create host isNew
    · intro key isBareKey
      rw [created, ← represents.view key isBareKey]
      exact (tryConfigGet_newArray isBareKey before _ after).trans
        (tryConfigGet_newArray isBareKey before _ after).symm
  · rw [if_neg fun read => has (represents.hasSettings_iff.mpr read),
      doKey_of_not_hasSettings has]
    exact represents

/-- Setting a proper value that can be read does to the files what it is
for. -/
theorem Represents.configSet
    {uuids : List Line}
    (areNew : ∀ uuid ∈ uuids, isIdText uuid = true)
    {files : ConfigFiles}
    {managed : Managed}
    (represents : Represents uuids files managed)
    {key value old : Line}
    (proper : IsProperSetting key value)
    (read : tryConfigGet key files.config = some old) :
    Represents uuids
      { files with config := configSet key value files.config }
      { managed with view := Function.update managed.view key (some value) }
    := by
  have found := any_isSetting_of_tryConfigGet read
  obtain ⟨before, after, surrounds, rfl⟩ := represents.layout
  constructor
  · exact ⟨_, _, surrounds.replaced areNew proper,
      congrArg (ConfigFiles.mk · managed.store.file)
        (configSet_newArray proper.isBareKey found value)⟩
  · exact represents.valid
  · intro other isOther
    dsimp only
    by_cases same : other = key
    · subst same
      rw [Function.update_self]
      exact tryConfigGet_configSet_self proper.clean found
    · rw [Function.update_of_ne same, ← represents.view other isOther]
      exact tryConfigGet_configSet_of_ne proper.isBareKey isOther same found
        value

/-- Changing the mask domain does to the files what it is for. -/
theorem Represents.doMask
    (host : Host)
    {uuids : List Line}
    (areNew : ∀ uuid ∈ uuids, isIdText uuid = true)
    {files : ConfigFiles}
    {managed : Managed}
    (represents : Represents uuids files managed)
    {choice : Nat}
    {entered : Line}
    (clean : IsClean entered)
    (noId : isIdText entered = false) :
    Represents uuids (doMask host choice entered files)
      (managed.run host (.mask choice entered)) := by
  rw [Managed.run, Deploy.doMask,
    ← represents.view maskDomain isBareKey_maskDomain]
  split_ifs with unread
  · exact represents
  · cases read : tryConfigGet maskDomain files.config with
    | none => exact represents
    | some old =>
        cases chosen : chooseDomain choice entered with
        | none => exact represents
        | some domain =>
            exact represents.configSet areNew
              (isProperSetting_of_chooseDomain clean noId chosen) read

/-- A proper command does to the files what it is for. -/
theorem Represents.run
    (host : Host)
    {uuids : List Line}
    (areNew : ∀ uuid ∈ uuids, isIdText uuid = true)
    {files : ConfigFiles}
    {managed : Managed}
    (represents : Represents uuids files managed)
    {command : Command}
    (proper : command.IsProper uuids) :
    Represents uuids (command.run host files) (managed.run host command) := by
  cases command with
  | key uuid => exact represents.doKey host proper.1 proper.2
  | mask choice entered =>
      exact represents.doMask host areNew proper.1 proper.2

/-- In whatever order keys are created and the mask domain is changed, the users
that the server reads are those of the store in which the keys are created, the
script lists the first hundred of them, and getting a setting returns the value
that was set last, or the one of the beginning. -/
theorem managed_of_commands
    (host : Host)
    {before after uuids : List Line}
    (surrounds : Surrounds before after uuids)
    (areNew : ∀ uuid ∈ uuids, isIdText uuid = true)
    {store : KeyStore}
    (valid : store.IsValid)
    {commands : List Command}
    (proper : ∀ command ∈ commands, command.IsProper uuids) :
    let files := commands.foldl (Command.run host) (store.files before after)
    let final := commands.foldl (Managed.run host) {
      store
      view := fun key => tryConfigGet key (store.files before after).config }
    ∃ newBefore lines newAfter,
      files.config = newBefore ++ lines ++ newAfter ∧
      readArray allowedUsers lines = some (.closed final.store.users) ∧
      (∀ id, id ∈ getAllowedUsers files.config ↔
        id ∈ final.store.users.take 100) ∧
      files.users = final.store.file ∧
      ∀ key, IsBareKey key →
        tryConfigGet key files.config = final.view key := by
  have step : ∀ (files : ConfigFiles) (managed : Managed),
      Represents uuids files managed →
        Represents uuids (commands.foldl (Command.run host) files)
          (commands.foldl (Managed.run host) managed) := by
    induction commands with
    | nil => exact fun _ _ represents => represents
    | cons command others inductionHypothesis =>
        intro files managed represents
        exact inductionHypothesis
          (fun other member => proper other (List.mem_cons_of_mem _ member)) _ _
          (represents.run host areNew (proper command List.mem_cons_self))
  obtain ⟨⟨newBefore, newAfter, newSurrounds, same⟩, isValid, view⟩ :=
    step (store.files before after) {
      store
      view := fun key => tryConfigGet key (store.files before after).config } {
        layout := ⟨before, after, surrounds, rfl⟩
        valid
        view := fun _ _ => rfl }
  have config := congrArg ConfigFiles.config same
  refine ⟨newBefore, _, newAfter, config,
    readArray_newArray fun user member => isPlainText_of_isIdText
      (isValid.ids user member), fun id => ?_,
    congrArg ConfigFiles.users same, view⟩
  rw [config, getAllowedUsers, List.mem_dedup, List.mem_mergeSort]
  exact iff_of_eq (congrArg (id ∈ ·) (currentUsers_newArray newSurrounds.foreign
    newSurrounds.bare isValid.ids))

/-- A key is created, the mask domain is changed to an entered one, and another
key is created. -/
def exampleCommands : List Command :=
  [.key exampleUuid, .mask 9 "b.c".toList, .key (List.replicate 32 'a')]

/-- The commands of the example are proper. -/
theorem isProper_exampleCommands :
    ∀ command ∈ exampleCommands,
      command.IsProper [List.replicate 32 'a', exampleUuid] := by
  simp only [exampleCommands, List.forall_mem_cons, List.not_mem_nil,
    false_imp_iff, implies_true, and_true]
  refine ⟨⟨?_, ?_⟩, ⟨?_, ?_⟩, ⟨?_, ?_⟩⟩ <;> decide +kernel

/-- The users and the mask domain of the example. -/
theorem managed_of_commands_example :
    let host : Host := { readsScript := true, runsPython := true }
    let files := exampleCommands.foldl (Command.run host)
      (exampleStore.files exampleSettings exampleBehind)
    let final := exampleCommands.foldl (Managed.run host) {
      store := exampleStore
      view := fun key => tryConfigGet key
        (exampleStore.files exampleSettings exampleBehind).config }
    ∃ newBefore lines newAfter,
      files.config = newBefore ++ lines ++ newAfter ∧
      readArray allowedUsers lines = some (.closed final.store.users) ∧
      (∀ id, id ∈ getAllowedUsers files.config ↔
        id ∈ final.store.users.take 100) ∧
      files.users = final.store.file ∧
      ∀ key, IsBareKey key → tryConfigGet key files.config = final.view key :=
  managed_of_commands _ surrounds_example (by decide +kernel)
    isValid_exampleStore isProper_exampleCommands

/-! ## The generated configuration -/

/-- If the mask domain cannot be read, no command changes a file. -/
theorem Command.run_of_unreadable
    (host : Host)
    {files : ConfigFiles}
    (unreadable : tryConfigGet maskDomain files.config = none)
    (command : Command) :
    command.run host files = files := by
  cases command with
  | key uuid =>
      refine doKey_of_not_hasSettings fun has => ?_
      obtain ⟨value, read⟩ := has.maskDomain
      rw [unreadable] at read
      cases read
  | mask choice entered =>
      rw [run, doMask, unreadable]
      split_ifs <;> rfl

/-- In the generated configuration the mask domain cannot be read, so on
whatever host and whatever commands are run, its files stay as they are. -/
theorem generatedConfig_of_commands
    (host : Host)
    (commands : List Command)
    (comment : Nat → Comment)
    (authKey : Line)
    (users : TextFile) :
    tryConfigGet maskDomain (generatedConfig comment authKey) = none ∧
      commands.foldl (Command.run host)
          { config := generatedConfig comment authKey, users } =
        { config := generatedConfig comment authKey, users } := by
  have unreadable :
      tryConfigGet maskDomain (generatedConfig comment authKey) = none := by
    rw [tryConfigGet, List.any_eq_false.mpr fun line member => by
      rw [isSetting_generatedConfig comment authKey line member]
      exact Bool.false_ne_true]
    rfl
  refine ⟨unreadable, ?_⟩
  induction commands with
  | nil => rfl
  | cons command others inductionHypothesis =>
      rw [List.foldl_cons, Command.run_of_unreadable host unreadable]
      exact inductionHypothesis

end Deploy
end GhostProtocol
