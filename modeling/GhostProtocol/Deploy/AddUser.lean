import GhostProtocol.Deploy.InsertUser

/-!
# When adding a user keeps the configuration

The function adds a user and keeps all other lines exactly for the
configurations that the Python program keeps or, where Python does not run,
those that the `sed` command keeps.  Before that the shell has to read the
function, the new id must not stand between double quotes anywhere, and there
must be a present user.
-/

namespace GhostProtocol
namespace Deploy

open Foundation Toml

/-- The configurations to which the function adds a user. -/
structure KeepsConfig
    (host : Host)
    (before array after ids : List Line)
    (uuid : Line) : Prop where
  readsScript : host.readsScript = true
  unknown : ∀ line ∈ before ++ array ++ after, quotes uuid line = false
  present : currentUsers (before ++ array ++ after) ≠ []
  rewritten : host.runsPython = true → PythonKeeps before array after ids
  inserted : host.runsPython = false → SedKeeps before array after ids

/-- A configuration that has not changed lacks the new user. -/
theorem not_addsUser_self
    {before array after ids : List Line}
    {uuid : Line}
    (isArray : IsArray allowedUsers array ids)
    (isNew : uuid ∉ ids) :
    ¬AddsUser before ids after uuid (before ++ array ++ after) := by
  rintro ⟨lines, values, equal, read, members⟩
  rw [List.append_cancel_right_eq, List.append_cancel_left_eq] at equal
  rw [← equal, isArray.read] at read
  obtain rfl := ArrayState.closed.inj (Option.some.inj read)
  exact isNew ((members uuid).mpr (.inr rfl))

/-- What the function makes of the configuration when there is a present user
and the new one is unknown. -/
theorem config_addUserToConfig
    {host : Host}
    {uuid : Line}
    {files : ConfigFiles}
    (readsScript : host.readsScript = true)
    (unknown : ∀ line ∈ files.config, quotes uuid line = false)
    (present : currentUsers files.config ≠ []) :
    (addUserToConfig host uuid files).config =
      if host.runsPython then
        rewriteUsers (newArray (currentUsers files.config ++ [uuid])) false
          files.config
      else insertUser uuid false files.config := by
  have foreign : ¬files.config.any (quotes uuid) = true := by
    intro found
    obtain ⟨line, member, quoted⟩ := List.any_eq_true.mp found
    rw [unknown line member] at quoted
    cases quoted
  rw [addUserToConfig, if_neg (by simp [readsScript]), if_neg foreign]
  dsimp only
  rw [if_neg present]

/-- The function adds a new user to a configuration and keeps its other lines if
and only if this is a configuration that it keeps. -/
theorem addsUser_iff
    (host : Host)
    {before array after ids : List Line}
    (isArray : IsArray allowedUsers array ids)
    {uuid : Line}
    (isUserId : IsUserId uuid)
    (isNew : uuid ∉ ids)
    (users : TextFile) :
    AddsUser before ids after uuid
        (addUserToConfig host uuid
          { config := before ++ array ++ after, users }).config ↔
      KeepsConfig host before array after ids uuid := by
  have plain := isPlainText_of_hexDigits isUserId.digits
  constructor
  · intro adds
    have changed : (addUserToConfig host uuid
        { config := before ++ array ++ after, users }).config ≠
          before ++ array ++ after := by
      intro same
      rw [same] at adds
      exact not_addsUser_self isArray isNew adds
    have readsScript : host.readsScript = true := by
      rw [← Bool.not_eq_false]
      intro unread
      exact changed (by rw [addUserToConfig, if_pos (by simp [unread])])
    have unknown : ∀ line ∈ before ++ array ++ after,
        quotes uuid line = false := by
      intro line member
      rw [← Bool.not_eq_true]
      intro quoted
      refine changed ?_
      rw [addUserToConfig, if_neg (by simp [readsScript]),
        if_pos (List.any_eq_true.mpr ⟨line, member, quoted⟩)]
    have present : currentUsers (before ++ array ++ after) ≠ [] := by
      intro none
      refine changed ?_
      rw [addUserToConfig]
      dsimp only
      split_ifs <;> rfl
    rw [config_addUserToConfig readsScript unknown present] at adds
    refine ⟨readsScript, unknown, present, fun python => ?_, fun python => ?_⟩
    · rw [if_pos python] at adds
      exact pythonKeeps_of_addsUser isArray plain isNew unknown present adds
    · rw [if_neg (by simp [python])] at adds
      exact sedKeeps_of_addsUser isArray plain isNew unknown adds
  · intro keeps
    rw [config_addUserToConfig keeps.readsScript keeps.unknown keeps.present]
    cases python : host.runsPython with
    | true =>
        rw [if_pos rfl]
        exact addsUser_rewriteUsers isArray plain (keeps.rewritten python)
    | false =>
        rw [if_neg Bool.false_ne_true]
        exact addsUser_insertUser isArray plain (keeps.inserted python)

/-! ## The example configuration -/

/-- The line of the array in the example configuration. -/
def exampleArray : List Line :=
  ["allowed_users    = [\"00000000000000000000000000000001\"]".toList]

/-- The user of the example configuration. -/
def exampleUsers : List Line :=
  ["00000000000000000000000000000001".toList]

/-- The lines of the example configuration in front of the array. -/
def exampleBefore : List Line :=
  ["listen_addr      = \"0.0.0.0:443\"".toList]

/-- The lines of the example configuration behind the array. -/
def exampleAfter : List Line :=
  ["enable_padding   = true".toList, "max_padding_len  = 64".toList,
    "enable_reality   = true".toList,
    "mask_domain      = \"www.apple.com\"".toList,
    "reality_auth_key = \"<32_bytes_hex_key>\"".toList,
    "verify_ja4       = false".toList, "allowed_ja4      = []".toList, []]

/-- An id that the example configuration does not know. -/
def exampleUuid : Line :=
  "0000000000000000000000000000000a".toList

/-- The array of the example configuration holds its user. -/
theorem isArray_exampleArray :
    IsArray allowedUsers exampleArray exampleUsers where
  read := by decide
  last := nofun

/-- The new id consists of hexadecimal digits. -/
theorem isUserId_exampleUuid : IsUserId exampleUuid :=
  ⟨by decide, List.all_eq_true.mp (by decide)⟩

/-- Whether a user is added to the example configuration depends on its
layout. -/
theorem addsUser_iff_example :
    AddsUser exampleBefore exampleUsers exampleAfter exampleUuid
        (addUserToConfig ⟨true, true⟩ exampleUuid
          { config := exampleBefore ++ exampleArray ++ exampleAfter
            users := [[]] }).config ↔
      KeepsConfig ⟨true, true⟩ exampleBefore exampleArray exampleAfter
        exampleUsers exampleUuid :=
  addsUser_iff ⟨true, true⟩ isArray_exampleArray isUserId_exampleUuid
    (by decide) [[]]

/-- On no machine a user is added to the example configuration: the Python
program drops the keys behind the array, and the `sed` command does not find its
bracket. -/
theorem not_addsUser_example :
    ¬∃ host, AddsUser exampleBefore exampleUsers exampleAfter exampleUuid
      (addUserToConfig host exampleUuid
        { config := exampleBefore ++ exampleArray ++ exampleAfter
          users := [[]] }).config := by
  rintro ⟨host, adds⟩
  have unknown : ∀ line ∈ exampleBefore ++ exampleArray ++ exampleAfter,
      quotes exampleUuid line = false := by decide
  have present :
      currentUsers (exampleBefore ++ exampleArray ++ exampleAfter) ≠ [] := by
    decide
  have plain := isPlainText_of_hexDigits isUserId_exampleUuid.digits
  have isNew : exampleUuid ∉ exampleUsers := by decide
  cases reads : host.readsScript with
  | false =>
      rw [addUserToConfig, if_pos (by simp [reads])] at adds
      exact not_addsUser_self isArray_exampleArray isNew adds
  | true =>
      rw [config_addUserToConfig reads unknown present] at adds
      cases python : host.runsPython with
      | true =>
          rw [if_pos python] at adds
          have skipped := (pythonKeeps_of_addsUser isArray_exampleArray plain
            isNew unknown present adds).skipped
          have dropped := skipped "enable_padding   = true".toList (by decide)
          revert dropped
          decide
      | false =>
          rw [if_neg (by simp [python])] at adds
          obtain ⟨front, last, split, bracket, -⟩ := (sedKeeps_of_addsUser
            isArray_exampleArray plain isNew unknown adds).closes
          have only : exampleArray.getLast? = some last := by
            rw [split, List.getLast?_concat]
          obtain rfl := Option.some.inj only
          revert bracket
          decide

end Deploy
end GhostProtocol
