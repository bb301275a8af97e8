import GhostProtocol.Deploy.AddUser

/-!
# The users of a server after many keys

Every key that the management script creates is added to the configuration, if
the settings for the client's link can be read before.  A configuration that
holds its users as the script writes them keeps that form, and its users are
those of a small store: the Python program looks at the first hundred users
only, so it drops a later one with every key, whereas the `sed` command keeps
all of them.
-/

namespace GhostProtocol
namespace Deploy

open Foundation Toml

/-- Create a key with an id that has been generated.  The script ends if the
mask domain or the server's key, which belong in the client's link, cannot be
read; the port of the link has a default. -/
def doKey
    (host : Host)
    (uuid : Line)
    (files : ConfigFiles) : ConfigFiles :=
  if !host.readsScript then files
  else if uuid.length ≠ 32 then files
  else
    match tryConfigGet maskDomain files.config,
      tryConfigGet realityAuthKey files.config with
    | some _, some _ => addUserToConfig host uuid files
    | _, _ => files

/-- Create keys with the given ids, one after the other. -/
def createKeys
    (host : Host)
    (uuids : List Line)
    (files : ConfigFiles) : ConfigFiles :=
  uuids.foldl (fun files uuid => doKey host uuid files) files

/-- The settings for the client's link can be read. -/
structure HasSettings (config : TextFile) : Prop where
  maskDomain : ∃ value, tryConfigGet maskDomain config = some value
  realityAuthKey : ∃ value, tryConfigGet realityAuthKey config = some value

/-- The users in the configuration, and the text file that lists all users. -/
structure KeyStore where
  users : List Line
  file : TextFile

/-- Create a key.  Only Python is limited to the first hundred users, the lines
that `grep` prints behind the first line of the array. -/
def KeyStore.create
    (host : Host)
    (store : KeyStore)
    (uuid : Line) : KeyStore :=
  if !host.readsScript then store
  else if uuid ∈ store.users then store
  else {
    users :=
      (if host.runsPython then store.users.take 100 else store.users) ++ [uuid]
    file := echoAppend uuid store.file }

/-- The files of a store: the users stand in an array as the script writes it,
between other lines of the configuration. -/
def KeyStore.files (store : KeyStore) (before after : List Line) :
    ConfigFiles where
  config := before ++ newArray store.users ++ after
  users := store.file

/-- The users of a store have the form of an id, and there is one. -/
structure KeyStore.IsValid (store : KeyStore) : Prop where
  ids : ∀ user ∈ store.users, isIdText user = true
  present : store.users ≠ []

/-- Lines around an array of users that do not disturb the script: none of them
seems to define users, those behind the array hold no id and are blank up to the
next comment or header, and the new ids stand in none of them. -/
structure Surrounds
    (before after uuids : List Line) : Prop where
  foreign : ∀ line, line ∈ before ∨ line ∈ after → opensUsers line = false
  bare : ∀ line ∈ after, quotedIds 0 line = []
  skipped : ∀ line ∈ after.takeWhile (!endsUsers ·), strip line = []
  unknown : ∀ line, line ∈ before ∨ line ∈ after →
    ∀ uuid ∈ uuids, quotes uuid line = false

/-! ## What `grep` finds in an array that the script has written -/

/-- An id has thirty-two characters, and none of them is a quote. -/
theorem of_isIdText
    {id : Line}
    (isId : isIdText id = true) :
    id.length = 32 ∧ '"' ∉ id := by
  have length := isId
  rw [isIdText, Bool.and_eq_true, decide_eq_true_eq] at length
  refine ⟨length.1, fun member => ?_⟩
  exact (isPlainText_of_isIdText isId '"' member).1 rfl

/-- The characters of an id that has been found are passed over. -/
theorem quotedIds_skip (front rest : Line) :
    quotedIds front.length (front ++ rest) = quotedIds 0 rest := by
  induction front with
  | nil => rfl
  | cons char others inductionHypothesis => exact inductionHypothesis

/-- The id of a user's line is found there, and no other one. -/
theorem quotedIds_userLine
    {user : Line}
    (isId : isIdText user = true) :
    quotedIds 0 (userLine user) = [user] := by
  obtain ⟨length, -⟩ := of_isIdText isId
  have taken : (user ++ ['"', ',']).take 32 = user := by
    rw [← length, List.take_left]
  have closed : (user ++ ['"', ','])[32]? = some '"' := by
    rw [← length, List.getElem?_append_right (Nat.le_refl _), Nat.sub_self]
    rfl
  have skipped := quotedIds_skip (user ++ ['"']) [',']
  rw [List.length_append, length, List.append_assoc] at skipped
  change quotedIds 0 ('"' :: (user ++ ['"', ','])) = _
  rw [quotedIds, if_pos ⟨rfl, by rw [taken]; exact isId, closed⟩, taken]
  exact congrArg (user :: ·) skipped

/-- The texts in front of the first occurrences of a character in equal lines
are equal. -/
theorem append_cons_inj_of_notMem
    {char : Char}
    {first second behindFirst behindSecond : Line}
    (absent : char ∉ first)
    (absentToo : char ∉ second)
    (equal : first ++ char :: behindFirst = second ++ char :: behindSecond) :
    first = second ∧ behindFirst = behindSecond := by
  have split : ∀ {front : Line}, char ∉ front → ∀ rest : Line,
      (front ++ char :: rest).takeWhile (· ≠ char) = front ∧
        (front ++ char :: rest).dropWhile (· ≠ char) = char :: rest := by
    intro front none rest
    refine takeWhile_append_of_forall (fun other member => ?_) (by simp) rest
    exact decide_eq_true fun same => none (same ▸ member)
  obtain ⟨taken, left⟩ := split absent behindFirst
  rw [equal] at taken left
  obtain ⟨takenToo, leftToo⟩ := split absentToo behindSecond
  exact ⟨taken.symm.trans takenToo,
    (List.cons.inj (left.symm.trans leftToo)).2⟩

/-- In a line with two quotes an id stands between double quotes if and only if
it is the text between them. -/
theorem quotes_iff
    {uuid front text behind : Line}
    (noQuote : '"' ∉ uuid)
    (inFront : '"' ∉ front)
    (between : '"' ∉ text)
    (after : '"' ∉ behind) :
    quotes uuid (front ++ '"' :: (text ++ '"' :: behind)) = true ↔
      uuid = text := by
  constructor
  · intro quoted
    obtain ⟨first, last, equal⟩ := of_decide_eq_true quoted
    have counts := congrArg (List.count '"') equal
    simp only [List.count_append, List.count_cons_self, List.count_nil,
      List.count_eq_zero_of_not_mem noQuote,
      List.count_eq_zero_of_not_mem inFront,
      List.count_eq_zero_of_not_mem between,
      List.count_eq_zero_of_not_mem after] at counts
    have none : '"' ∉ first := List.count_eq_zero.mp (by omega)
    rw [List.append_assoc, List.cons_append, List.append_assoc] at equal
    obtain ⟨-, rest⟩ := append_cons_inj_of_notMem none inFront equal
    exact (append_cons_inj_of_notMem noQuote between rest).1
  · rintro rfl
    exact decide_eq_true ⟨front, behind, by simp⟩

/-- An id stands in the line of a user if and only if it is the user's. -/
theorem quotes_userLine_iff
    {uuid user : Line}
    (isNew : isIdText uuid = true)
    (isId : isIdText user = true) :
    quotes uuid (userLine user) = true ↔ uuid = user :=
  quotes_iff (of_isIdText isNew).2 (by decide) (of_isIdText isId).2 (by decide)

/-- Behind the last line that starts with the key of the users `grep` prints as
many lines as are left. -/
theorem grepAfter_eq_take
    {lines : List Line}
    (foreign : ∀ line ∈ lines, startsUsers line = false)
    (left : Nat) :
    grepAfter left lines = lines.take left := by
  induction lines generalizing left with
  | nil => cases left <;> rfl
  | cons line others inductionHypothesis =>
      have rest := inductionHypothesis fun other member =>
        foreign other (List.mem_cons_of_mem line member)
      have here := foreign line List.mem_cons_self
      cases left with
      | zero =>
          rw [grepAfter, if_neg (by simp [here]), List.take_zero, rest 0,
            List.take_zero]
      | succ left =>
          rw [grepAfter, if_neg (by simp [here]), List.take_succ_cons,
            rest left]

/-- Lines in front of the key of the users are not printed. -/
theorem grepAfter_append
    {front : List Line}
    (foreign : ∀ line ∈ front, startsUsers line = false)
    (lines : List Line) :
    grepAfter 0 (front ++ lines) = grepAfter 0 lines := by
  induction front with
  | nil => rfl
  | cons line others inductionHypothesis =>
      rw [List.cons_append, grepAfter,
        if_neg (by simp [foreign line List.mem_cons_self])]
      exact inductionHypothesis fun other member =>
        foreign other (List.mem_cons_of_mem line member)

/-- The line of a user does not start with the key of the users. -/
theorem startsUsers_userLine (user : Line) :
    startsUsers (userLine user) = false := by
  rfl

/-- A line that does not seem to define the users does not start with their
key. -/
theorem startsUsers_of_not_opensUsers
    {line : Line}
    (foreign : opensUsers line = false) :
    startsUsers line = false := by
  rw [← Bool.not_eq_true]
  intro starts
  rw [opensUsers_of_startsUsers starts] at foreign
  cases foreign

/-- The script takes the first hundred users of an array that it has written for
the present ones. -/
theorem currentUsers_newArray
    {before users after : List Line}
    (foreign : ∀ line, line ∈ before ∨ line ∈ after → opensUsers line = false)
    (bare : ∀ line ∈ after, quotedIds 0 line = [])
    (ids : ∀ user ∈ users, isIdText user = true) :
    currentUsers (before ++ newArray users ++ after) = users.take 100 := by
  have inFront : ∀ line ∈ before, startsUsers line = false :=
    fun line member => startsUsers_of_not_opensUsers
      (foreign line (.inl member))
  have behind : ∀ line ∈ users.map userLine ++ ([']'] :: after),
      startsUsers line = false := by
    intro line member
    rcases List.mem_append.mp member with inside | late
    · obtain ⟨user, -, rfl⟩ := List.mem_map.mp inside
      exact startsUsers_userLine user
    · rcases List.mem_cons.mp late with rfl | late
      · rfl
      · exact startsUsers_of_not_opensUsers (foreign line (.inr late))
  have others : ∀ line ∈ [']'] :: after, quotedIds 0 line = [] :=
    List.forall_mem_cons.mpr ⟨rfl, bare⟩
  have found : ∀ ids : List Line, (∀ user ∈ ids, isIdText user = true) →
      (ids.map userLine).flatMap (quotedIds 0) = ids := by
    intro ids valid
    rw [List.flatMap_map, List.flatMap_congr fun user member =>
      quotedIds_userLine (valid user member), List.flatMap_singleton']
  have none : ∀ count, (([']'] :: after).take count).flatMap (quotedIds 0) =
      [] := by
    intro count
    exact List.flatMap_eq_nil_iff.mpr fun line member =>
      others line (List.mem_of_mem_take member)
  have shape : before ++ newArray users ++ after =
      before ++ ("allowed_users = [".toList ::
        (users.map userLine ++ ([']'] :: after))) := by
    simp [newArray]
  rw [shape, currentUsers, grepAfter_append inFront, grepAfter,
    if_pos (by decide), grepAfter_eq_take behind, List.flatMap_cons,
    List.take_append, List.flatMap_append, none, ← List.map_take,
    found _ fun user member => ids user (List.mem_of_mem_take member),
    List.append_nil]
  rfl

/-! ## Lines that set a key -/

/-- The characters of a bare key are visible. -/
theorem visible_of_isBareKeyChar
    {char : Char}
    (bare : isBareKeyChar char = true) :
    0x21 ≤ char.toNat ∧ char.toNat < 0x7F := by
  unfold isBareKeyChar at bare
  delta Char.isAlphanum Char.isAlpha Char.isUpper Char.isLower Char.isDigit
    at bare
  simp only [Bool.or_eq_true, Bool.and_eq_true, decide_eq_true_eq, ge_iff_le,
    UInt32.le_iff_toNat_le] at bare
  rcases bare with (((⟨low, high⟩ | ⟨low, high⟩) | ⟨low, high⟩) | rfl) | rfl
  · exact ⟨Nat.le_trans (by decide) low, Nat.lt_of_le_of_lt high (by decide)⟩
  · exact ⟨Nat.le_trans (by decide) low, Nat.lt_of_le_of_lt high (by decide)⟩
  · exact ⟨Nat.le_trans (by decide) low, Nat.lt_of_le_of_lt high (by decide)⟩
  · decide
  · decide

/-- A visible character is no white space. -/
theorem isPythonSpace_of_visible
    {char : Char}
    (visible : 0x21 ≤ char.toNat ∧ char.toNat < 0x7F) :
    isPythonSpace char = false := by
  rw [← Bool.not_eq_true]
  simp only [isPythonSpace, Text.isWhitespace, Bool.or_eq_true,
    Bool.and_eq_true, decide_eq_true_eq, beq_iff_eq]
  omega

/-- The line that is written sets its key. -/
theorem isSetting_settingLine (key value : Line) :
    isSetting key (settingLine key value) = true :=
  isSetting_append key _

/-- Some characters are in no bare key. -/
theorem notMem_of_isBareKey
    {key : Line}
    (isBareKey : IsBareKey key)
    {char : Char}
    (foreign : isBareKeyChar char = false) :
    char ∉ key := by
  intro member
  rw [isBareKey.bare char member] at foreign
  cases foreign

/-- A line that sets a bare key starts with one of its characters, also when
stripped. -/
theorem strip_of_isSetting
    {key line : Line}
    (isBareKey : IsBareKey key)
    (sets : isSetting key line = true) :
    ∃ char rest behind, line = char :: rest ∧ strip line = char :: behind ∧
      isBareKeyChar char = true := by
  obtain ⟨text, rfl⟩ := isSetting_iff.mp sets
  obtain ⟨char, others, rfl⟩ := List.exists_cons_of_ne_nil isBareKey.nonempty
  have bare := isBareKey.bare char List.mem_cons_self
  have visible := isPythonSpace_of_visible (visible_of_isBareKeyChar bare)
  have dark : isBlank char = false := by
    rw [← Bool.not_eq_true]
    intro blank
    rw [isPythonSpace_of_isBlank blank] at visible
    cases visible
  obtain ⟨behind, stripped⟩ := strip_of_skipBlanks_cons
    (List.dropWhile_cons_of_neg (show ¬isBlank char = true by simp [dark]))
    visible
  exact ⟨char, _, behind, rfl, stripped, bare⟩

/-- No line of an array that the script has written sets a bare key. -/
theorem isSetting_of_mem_newArray
    {key : Line}
    (isBareKey : IsBareKey key)
    {users : List Line} :
    ∀ line ∈ newArray users, isSetting key line = false := by
  intro line member
  rw [← Bool.not_eq_true]
  intro sets
  obtain ⟨char, rest, -, rfl, -, bare⟩ := strip_of_isSetting isBareKey sets
  simp only [newArray, List.mem_cons, List.mem_append, List.mem_map,
    List.not_mem_nil, or_false] at member
  rcases member with same | ⟨user, -, same⟩ | same
  · obtain ⟨text, split⟩ := isSetting_iff.mp sets
    have noEquals := notMem_of_isBareKey isBareKey
      (show isBareKeyChar '=' = false by decide)
    have equal : "allowed_users ".toList ++ '=' :: [' ', '['] =
        key ++ '=' :: text := same.symm.trans split
    obtain ⟨rfl, -⟩ := append_cons_inj_of_notMem (by decide) noEquals equal
    exact absurd (isBareKey.bare ' ' (by decide)) (by decide)
  · obtain ⟨rfl, -⟩ := List.cons.inj same.symm
    exact absurd bare (by decide)
  · obtain ⟨rfl, -⟩ := List.cons.inj same
    exact absurd bare (by decide)

/-- Getting a value does not depend on the array of users. -/
theorem tryConfigGet_newArray
    {key : Line}
    (isBareKey : IsBareKey key)
    (before users after : List Line) :
    tryConfigGet key (before ++ newArray users ++ after) =
      tryConfigGet key (before ++ after) := by
  have foreign := @isSetting_of_mem_newArray key isBareKey users
  have none : (newArray users).find? (isSetting key) = none :=
    List.find?_eq_none.mpr fun line member => by
      rw [foreign line member]
      exact Bool.false_ne_true
  have nowhere : (newArray users).any (isSetting key) = false :=
    List.any_eq_false.mpr fun line member => by
      rw [foreign line member]
      exact Bool.false_ne_true
  rw [tryConfigGet, tryConfigGet, configGet, configGet, List.any_append,
    List.any_append, List.any_append, nowhere, Bool.or_false,
    List.find?_append, List.find?_append, List.find?_append, none,
    Option.or_none]

/-! ## One key -/

/-- The line of a user is neither blank, nor does it end the array or seem to
define the users. -/
theorem inArray_userLine
    {users : List Line} :
    ∀ line ∈ users.map userLine ++ [[']']],
      opensUsers line = false ∧ endsUsers line = false ∧ strip line ≠ [] := by
  intro line member
  rcases List.mem_append.mp member with inside | last
  · obtain ⟨user, -, rfl⟩ := List.mem_map.mp inside
    obtain ⟨behind, same⟩ := strip_of_skipBlanks_cons
      (show skipBlanks (userLine user) = '"' :: (user ++ ['"', ',']) from rfl)
      (by decide)
    rw [opensUsers, endsUsers, same]
    exact ⟨rfl, rfl, List.cons_ne_nil _ _⟩
  · obtain rfl := List.mem_singleton.mp last
    decide

/-- The Python program writes the new array in the place of the old one. -/
theorem rewriteUsers_newArray
    {before users after : List Line}
    (foreign : ∀ line, line ∈ before ∨ line ∈ after → opensUsers line = false)
    (skipped : ∀ line ∈ after.takeWhile (!endsUsers ·), strip line = [])
    (array : List Line) :
    rewriteUsers array false (before ++ newArray users ++ after) =
      before ++ array ++ after := by
  have blank : (users.map userLine ++ [[']']]).filter (strip · = []) = [] := by
    refine List.filter_eq_nil_iff.mpr fun line member => ?_
    rw [decide_eq_true_eq]
    exact (inArray_userLine line member).2.2
  obtain ⟨rest, split, kept⟩ := rewriteUsers_after
    (fun line member => foreign line (.inr member)) array
  rw [List.filter_eq_self.mpr fun line member =>
    decide_eq_true (skipped line member), ← split] at kept
  rw [List.append_assoc, rewriteUsers_append
      (fun line member => foreign line (.inl member)), newArray,
    List.cons_append, rewriteUsers, if_pos (by decide),
    rewriteUsers_skip (fun line member => (inArray_userLine line member).1)
      (fun line member => (inArray_userLine line member).2.1),
    blank, List.nil_append, kept, List.append_assoc]

/-- Nothing is inserted behind lines that do not start with the key of the
users. -/
theorem insertUser_of_foreign
    {lines : List Line}
    (foreign : ∀ line ∈ lines, opensUsers line = false)
    (uuid : Line) :
    insertUser uuid false lines = lines := by
  induction lines with
  | nil => rfl
  | cons line others inductionHypothesis =>
      rw [insertUser, startsUsers_of_not_opensUsers
          (foreign line List.mem_cons_self),
        inductionHypothesis fun other member =>
          foreign other (List.mem_cons_of_mem line member)]

/-- The `sed` command inserts the line of the new user behind the others. -/
theorem insertUser_newArray
    {before users after : List Line}
    (foreign : ∀ line, line ∈ before ∨ line ∈ after → opensUsers line = false)
    (uuid : Line) :
    insertUser uuid false (before ++ newArray users ++ after) =
      before ++ newArray (users ++ [uuid]) ++ after := by
  have inFront := insertUser_of_foreign
    (fun line member => foreign line (.inl member)) uuid
  have behind := insertUser_of_foreign
    (fun line member => foreign line (.inr member)) uuid
  have closed : before.any startsUsers = false :=
    List.any_eq_false.mpr fun line member => by
      rw [startsUsers_of_not_opensUsers (foreign line (.inl member))]
      exact Bool.false_ne_true
  have inside : insertUser uuid true (users.map userLine) =
      users.map userLine := by
    refine (insertUser_true_iff uuid _).mpr fun line member => ?_
    obtain ⟨user, -, rfl⟩ := List.mem_map.mp member
    rfl
  rw [List.append_assoc, insertUser_append inFront, closed, Bool.or_false,
    newArray, List.cons_append, insertUser, List.append_assoc]
  change before ++ "allowed_users = [".toList ::
    insertUser uuid true (users.map userLine ++ ([']'] :: after)) = _
  rw [insertUser_append inside, Bool.true_or, insertUser, if_pos (by decide),
    behind]
  simp [newArray]

/-- A line of the configuration holds a new id if and only if this is the id of
a user in the array. -/
theorem any_quotes_iff
    {before users after : List Line}
    {uuid : Line}
    (isNew : isIdText uuid = true)
    (ids : ∀ user ∈ users, isIdText user = true)
    (unknown : ∀ line, line ∈ before ∨ line ∈ after →
      quotes uuid line = false) :
    (before ++ newArray users ++ after).any (quotes uuid) = true ↔
      uuid ∈ users := by
  rw [List.any_eq_true]
  constructor
  · rintro ⟨line, member, quoted⟩
    have noQuote : ∀ other : Line, '"' ∉ other → quotes uuid other = false := by
      intro other absent
      refine decide_eq_false fun infixed => absent ?_
      exact infixed.subset List.mem_cons_self
    have foreign : ¬(line ∈ before ∨ line ∈ after) := by
      intro around
      rw [unknown line around] at quoted
      cases quoted
    simp only [newArray, List.mem_append, List.mem_cons, List.mem_map,
      List.not_mem_nil, or_false] at member
    rcases member with (early | rfl | ⟨user, listed, rfl⟩ | rfl) | late
    · exact absurd (.inl early) foreign
    · rw [noQuote _ (by decide)] at quoted
      cases quoted
    · rw [(quotes_userLine_iff isNew (ids user listed)).mp quoted]
      exact listed
    · rw [noQuote _ (by decide)] at quoted
      cases quoted
    · exact absurd (.inr late) foreign
  · intro listed
    refine ⟨userLine uuid, ?_, quotes_userLine uuid⟩
    exact List.mem_append_left _ (List.mem_append_right _
      (List.mem_cons_of_mem _ (List.mem_append_left _
        (List.mem_map_of_mem listed))))

/-- Adding a user to the files of a store is creating a key. -/
theorem addUserToConfig_files
    (host : Host)
    {before after : List Line}
    {uuids : List Line}
    (surrounds : Surrounds before after uuids)
    {store : KeyStore}
    (valid : store.IsValid)
    {uuid : Line}
    (member : uuid ∈ uuids)
    (isNew : isIdText uuid = true) :
    addUserToConfig host uuid (store.files before after) =
      (store.create host uuid).files before after := by
  have known : (store.files before after).config.any (quotes uuid) = true ↔
      uuid ∈ store.users :=
    any_quotes_iff isNew valid.ids fun line around =>
      surrounds.unknown line around uuid member
  have present : currentUsers (store.files before after).config =
      store.users.take 100 :=
    currentUsers_newArray surrounds.foreign surrounds.bare valid.ids
  have listedFirst : store.users.take 100 ≠ [] := by
    rw [Ne, List.take_eq_nil_iff]
    exact not_or.mpr ⟨by decide, valid.present⟩
  unfold addUserToConfig KeyStore.create
  cases reads : host.readsScript with
  | false => rfl
  | true =>
      have meant : ¬(!true) = true := Bool.false_ne_true
      rw [if_neg meant, if_neg meant]
      by_cases listed : uuid ∈ store.users
      · rw [if_pos (known.mpr listed), if_pos listed]
      · rw [if_neg fun found => listed (known.mp found), if_neg listed]
        dsimp only
        rw [present, if_neg listedFirst]
        cases python : host.runsPython with
        | true =>
            exact congrArg (ConfigFiles.mk · _)
              (rewriteUsers_newArray surrounds.foreign surrounds.skipped _)
        | false =>
            exact congrArg (ConfigFiles.mk · _)
              (insertUser_newArray surrounds.foreign uuid)

/-- The key of the server's key is bare. -/
theorem isBareKey_realityAuthKey : IsBareKey realityAuthKey :=
  ⟨by decide, List.all_eq_true.mp (by decide)⟩

/-- If the settings can be read, creating a key adds its user. -/
theorem doKey_of_hasSettings
    {host : Host}
    {uuid : Line}
    {files : ConfigFiles}
    (isNew : isIdText uuid = true)
    (has : HasSettings files.config) :
    doKey host uuid files = addUserToConfig host uuid files := by
  obtain ⟨⟨domain, isDomain⟩, authKey, isAuthKey⟩ := has
  rw [doKey, isDomain, isAuthKey,
    if_neg (not_not.mpr (of_isIdText isNew).1)]
  split_ifs with unread
  · rw [addUserToConfig, if_pos unread]
  · rfl

/-- If a setting cannot be read, no key is created. -/
theorem doKey_of_not_hasSettings
    {host : Host}
    {uuid : Line}
    {files : ConfigFiles}
    (lacks : ¬HasSettings files.config) :
    doKey host uuid files = files := by
  rw [doKey]
  split_ifs with unread length
  · rfl
  · rfl
  · split
    · rename_i domain authKey isDomain isAuthKey
      exact absurd ⟨⟨domain, isDomain⟩, authKey, isAuthKey⟩ lacks
    · rfl

/-- The array of users does not matter for the settings. -/
theorem hasSettings_files_iff
    (store : KeyStore)
    (before after : List Line) :
    HasSettings (store.files before after).config ↔
      HasSettings (before ++ after) := by
  have domain := tryConfigGet_newArray isBareKey_maskDomain before store.users
    after
  have authKey := tryConfigGet_newArray isBareKey_realityAuthKey before
    store.users after
  constructor
  · rintro ⟨isDomain, isAuthKey⟩
    exact ⟨domain ▸ isDomain, authKey ▸ isAuthKey⟩
  · rintro ⟨isDomain, isAuthKey⟩
    exact ⟨domain.symm ▸ isDomain, authKey.symm ▸ isAuthKey⟩

/-- Creating a key in the files of a store with settings is creating it in the
store. -/
theorem doKey_files
    (host : Host)
    {before after : List Line}
    {uuids : List Line}
    (surrounds : Surrounds before after uuids)
    (has : HasSettings (before ++ after))
    {store : KeyStore}
    (valid : store.IsValid)
    {uuid : Line}
    (member : uuid ∈ uuids)
    (isNew : isIdText uuid = true) :
    doKey host uuid (store.files before after) =
      (store.create host uuid).files before after := by
  rw [doKey_of_hasSettings isNew
    ((hasSettings_files_iff store before after).mpr has)]
  exact addUserToConfig_files host surrounds valid member isNew

/-- A store stays valid when a key is created. -/
theorem KeyStore.IsValid.create
    {store : KeyStore}
    (valid : store.IsValid)
    (host : Host)
    {uuid : Line}
    (isNew : isIdText uuid = true) :
    (store.create host uuid).IsValid := by
  unfold KeyStore.create
  split_ifs with reads listed python
  · exact valid
  · exact valid
  all_goals
    refine ⟨fun user member => ?_, List.append_ne_nil_of_right_ne_nil _
      (List.cons_ne_nil _ _)⟩
    rcases List.mem_append.mp member with old | new
  · exact valid.ids user (List.mem_of_mem_take old)
  · exact List.mem_singleton.mp new ▸ isNew
  · exact valid.ids user old
  · exact List.mem_singleton.mp new ▸ isNew

/-! ## Any number of keys -/

/-- A store stays valid, and its files are those of the keys that have been
created in it. -/
theorem createKeys_files
    (host : Host)
    {before after : List Line}
    {known : List Line}
    (surrounds : Surrounds before after known)
    (has : HasSettings (before ++ after))
    {uuids : List Line}
    (subset : uuids ⊆ known)
    (areNew : ∀ uuid ∈ uuids, isIdText uuid = true)
    {store : KeyStore}
    (valid : store.IsValid) :
    (uuids.foldl (KeyStore.create host) store).IsValid ∧
      createKeys host uuids (store.files before after) =
        (uuids.foldl (KeyStore.create host) store).files before after := by
  induction uuids generalizing store with
  | nil => exact ⟨valid, rfl⟩
  | cons uuid others inductionHypothesis =>
      have isNew := areNew uuid List.mem_cons_self
      have rest := inductionHypothesis
        (fun other member => subset (List.mem_cons_of_mem uuid member))
        (fun other member => areNew other (List.mem_cons_of_mem uuid member))
        (valid.create host isNew)
      rw [createKeys, List.foldl_cons, List.foldl_cons, doKey_files host
        surrounds has valid (subset List.mem_cons_self) isNew]
      exact rest

/-- A store with the user of the example configuration. -/
def exampleStore : KeyStore where
  users := exampleUsers
  file := exampleUsers ++ [[]]

/-- The store of the example is valid. -/
theorem isValid_exampleStore : exampleStore.IsValid where
  ids := by decide +kernel
  present := by decide +kernel

/-- The lines in front of the array of the example: the settings for the
client's link, as the script writes them. -/
def exampleSettings : List Line :=
  [settingLine maskDomain "www.apple.com".toList,
    settingLine realityAuthKey (List.replicate 64 '0')]

/-- The line behind the array of the example: a comment. -/
def exampleBehind : List Line :=
  [['#'], []]

/-- The lines of the example do not disturb the script when it adds two ids. -/
theorem surrounds_example :
    Surrounds exampleSettings exampleBehind
      [List.replicate 32 'a', exampleUuid] where
  foreign line member :=
    (show ∀ line ∈ exampleSettings ++ exampleBehind, opensUsers line = false
      from by decide +kernel) line (List.mem_append.mpr member)
  bare := by decide
  skipped := by decide
  unknown line member :=
    (show ∀ line ∈ exampleSettings ++ exampleBehind,
        ∀ uuid ∈ [List.replicate 32 'a', exampleUuid],
          quotes uuid line = false
      from by decide +kernel) line (List.mem_append.mpr member)

/-- The settings of the example can be read. -/
theorem hasSettings_example :
    HasSettings (exampleSettings ++ exampleBehind) where
  maskDomain := Option.isSome_iff_exists.mp (by decide +kernel)
  realityAuthKey := Option.isSome_iff_exists.mp (by decide +kernel)

/-! ## Keys with different ids -/

/-- Cutting a list off first does not change what is taken of it with more
behind it. -/
theorem take_take_append (count : Nat) (front behind : List Line) :
    (front.take count ++ behind).take count = (front ++ behind).take count := by
  rw [List.take_append, List.take_append, List.take_take, List.length_take,
    Nat.min_self]
  congr 2
  omega

/-- Keys with different new ids: Python keeps of all but the last the first
hundred, and `sed` keeps all. -/
theorem foldl_create
    {host : Host}
    (reads : host.readsScript = true)
    {earlier : List Line}
    {last : Line}
    {store : KeyStore}
    (distinct : (earlier ++ [last]).Nodup)
    (fresh : ∀ uuid ∈ earlier ++ [last], uuid ∉ store.users) :
    (earlier ++ [last]).foldl (KeyStore.create host) store = {
      users := (if host.runsPython then (store.users ++ earlier).take 100
        else store.users ++ earlier) ++ [last]
      file := (earlier ++ [last]).foldl (fun file uuid => echoAppend uuid file)
        store.file } := by
  have created : ∀ (store : KeyStore) (uuid : Line), uuid ∉ store.users →
      store.create host uuid = {
        users := (if host.runsPython then store.users.take 100
          else store.users) ++ [uuid]
        file := echoAppend uuid store.file } := by
    intro store uuid unlisted
    rw [KeyStore.create, reads, if_neg (show ¬(!true) = true from
      Bool.false_ne_true), if_neg unlisted]
  induction earlier generalizing store with
  | nil =>
      rw [List.nil_append, List.foldl_cons, List.foldl_nil,
        created store last (fresh last List.mem_cons_self), List.append_nil]
      rfl
  | cons uuid others inductionHypothesis =>
      have unlisted := fresh uuid List.mem_cons_self
      rw [List.cons_append, List.foldl_cons, created store uuid unlisted]
      rw [List.cons_append, List.nodup_cons] at distinct
      have later : ∀ other ∈ others ++ [last], other ∉
          (if host.runsPython then store.users.take 100 else store.users) ++
            [uuid] := by
        intro other member listed
        rcases List.mem_append.mp listed with old | new
        · refine fresh other (List.mem_cons_of_mem uuid member) ?_
          split_ifs at old with python
          · exact List.mem_of_mem_take old
          · exact old
        · rw [List.mem_singleton.mp new] at member
          exact distinct.1 member
      rw [inductionHypothesis distinct.2 later]
      refine congrArg₂ KeyStore.mk (congrArg (· ++ [last]) ?_) rfl
      dsimp only
      split_ifs with python
      · rw [List.append_assoc, take_take_append, List.singleton_append]
      · rw [List.append_assoc, List.singleton_append]

/-- If the settings can be read, the configuration holds all old and new users
after keys with different new ids if `sed` adds them.  If Python adds them, it
holds the first hundred and the last one, so of the keys in between none is
left, although the text file lists them all. -/
theorem createKeys_distinct
    {host : Host}
    (reads : host.readsScript = true)
    {before after : List Line}
    {earlier : List Line}
    {last : Line}
    (surrounds : Surrounds before after (earlier ++ [last]))
    (has : HasSettings (before ++ after))
    (areNew : ∀ uuid ∈ earlier ++ [last], isIdText uuid = true)
    {store : KeyStore}
    (valid : store.IsValid)
    (distinct : (earlier ++ [last]).Nodup)
    (fresh : ∀ uuid ∈ earlier ++ [last], uuid ∉ store.users) :
    createKeys host (earlier ++ [last]) (store.files before after) = {
      config := before ++ newArray ((if host.runsPython
        then (store.users ++ earlier).take 100
        else store.users ++ earlier) ++ [last]) ++ after
      users := (earlier ++ [last]).foldl (fun file uuid => echoAppend uuid file)
        store.file } := by
  rw [(createKeys_files host surrounds has (List.Subset.refl _) areNew valid).2,
    foldl_create reads distinct fresh]
  rfl

/-- Two keys are created. -/
theorem createKeys_distinct_example :
    createKeys { readsScript := true, runsPython := true }
      ([List.replicate 32 'a'] ++ [exampleUuid])
      (exampleStore.files exampleSettings exampleBehind) = {
        config := exampleSettings ++ newArray ((exampleUsers ++
          [List.replicate 32 'a']).take 100 ++ [exampleUuid]) ++ exampleBehind
        users := ([List.replicate 32 'a'] ++ [exampleUuid]).foldl
          (fun file uuid => echoAppend uuid file) (exampleUsers ++ [[]]) } :=
  createKeys_distinct rfl surrounds_example hasSettings_example
    (by decide +kernel) isValid_exampleStore (by decide +kernel)
    (by decide +kernel)

end Deploy
end GhostProtocol
