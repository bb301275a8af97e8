import GhostProtocol.Deploy.Settings
import GhostProtocol.Foundation.TomlArray
import Mathlib.Data.List.DropRight

/-!
# Adding a user to the configuration

The management script collects the present ids with `grep` and lets a Python
program write the array anew, or a `sed` command insert a line if Python fails.
Lines are without their ends here, so a carriage return in front of a line feed
is not part of its line.
-/

namespace GhostProtocol
namespace Deploy

open Foundation Toml

/-- The machine on which the script runs.  The script holds its Python program
between double quotes, and the program's own `'"'` ends them, so a shell that
goes by its grammar does not read the function at all. -/
structure Host where
  /-- Whether the shell reads the function as it is meant. -/
  readsScript : Bool
  /-- Whether Python runs. -/
  runsPython : Bool
  deriving DecidableEq, Repr

/-- The files that the function reads and writes. -/
structure ConfigFiles where
  config : TextFile
  users : TextFile

/-- The key of the array of users. -/
def allowedUsers : Line := "allowed_users".toList

/-! ## What `grep` finds -/

/-- A lower-case hexadecimal digit. -/
def isIdChar (char : Char) : Bool :=
  ('0' ≤ char && char ≤ '9') || ('a' ≤ char && char ≤ 'f')

/-- Thirty-two lower-case hexadecimal digits. -/
def isIdText (text : Line) : Bool :=
  text.length = 32 && text.all isIdChar

/-- The ids between double quotes in a line, behind some characters that belong
to an earlier one. -/
def quotedIds : Nat → Line → List Line
  | _, [] => []
  | skip + 1, _ :: rest => quotedIds skip rest
  | 0, char :: rest =>
      if char = '"' ∧ isIdText (rest.take 32) ∧ rest[32]? = some '"' then
        rest.take 32 :: quotedIds 33 rest
      else quotedIds 0 rest

/-- A line that starts with the key of the users. -/
def startsUsers (line : Line) : Bool :=
  allowedUsers.isPrefixOf line

/-- The lines that start with the key of the users, each with the hundred lines
behind it, where some lines of an earlier one are still left. -/
def grepAfter : Nat → TextFile → List Line
  | _, [] => []
  | left, line :: lines =>
      if startsUsers line then line :: grepAfter 100 lines
      else
        match left with
        | 0 => grepAfter 0 lines
        | left + 1 => line :: grepAfter left lines

/-- The ids that the script takes for the present users. -/
def currentUsers (config : TextFile) : List Line :=
  (grepAfter 0 config).flatMap (quotedIds 0)

/-- Whether a line holds an id between double quotes. -/
def quotes (uuid line : Line) : Bool :=
  decide ('"' :: (uuid ++ ['"']) <:+: line)

/-! ## The Python program -/

/-- White space in Python. -/
def isPythonSpace (char : Char) : Bool :=
  Text.isWhitespace char || (0x1C ≤ char.toNat && char.toNat ≤ 0x1F)

/-- The line without white space at its ends. -/
def strip (line : Line) : Line :=
  (line.dropWhile isPythonSpace).rdropWhile isPythonSpace

/-- The line seems to define the users. -/
def opensUsers (line : Line) : Bool :=
  allowedUsers.isPrefixOf (strip line)

/-- The line ends the array in the eyes of the program: it is a comment or the
header of a table. -/
def endsUsers (line : Line) : Bool :=
  ['['].isPrefixOf (strip line) || ['#'].isPrefixOf (strip line)

/-- The line of a user in the array. -/
def userLine (uuid : Line) : Line :=
  List.replicate 4 ' ' ++ '"' :: (uuid ++ ['"', ','])

/-- The array that the program writes. -/
def newArray (users : List Line) : List Line :=
  "allowed_users = [".toList :: (users.map userLine ++ [[']']])

/-- Write the array in the place of every line that seems to define the users,
and skip what follows up to a comment or a header, blank lines excepted. -/
def rewriteUsers (array : List Line) : Bool → TextFile → TextFile
  | _, [] => []
  | skip, line :: lines =>
      if opensUsers line then array ++ rewriteUsers array true lines
      else if skip then
        if endsUsers line then line :: rewriteUsers array false lines
        else if strip line = [] then line :: rewriteUsers array true lines
        else rewriteUsers array true lines
      else line :: rewriteUsers array false lines

/-! ## The `sed` command -/

/-- A line that starts with a closing bracket. -/
def startsBracket (line : Line) : Bool :=
  [']'].isPrefixOf line

/-- Insert the line of a user in front of the bracket that ends a range of lines
from the key of the users. -/
def insertUser (uuid : Line) : Bool → TextFile → TextFile
  | _, [] => []
  | false, line :: lines =>
      line :: insertUser uuid (startsUsers line) lines
  | true, line :: lines =>
      if startsBracket line then
        userLine uuid :: line :: insertUser uuid false lines
      else line :: insertUser uuid true lines

/-! ## The function -/

/-- Add a user.  Nothing happens if the id stands between double quotes in the
configuration already, and the script ends if `grep` finds no present user. -/
def addUserToConfig
    (host : Host)
    (uuid : Line)
    (files : ConfigFiles) : ConfigFiles :=
  if !host.readsScript then files
  else if files.config.any (quotes uuid) then files
  else
    let users := currentUsers files.config
    if users = [] then files
    else {
      config :=
        if host.runsPython then
          rewriteUsers (newArray (users ++ [uuid])) false files.config
        else insertUser uuid false files.config
      users := echoAppend uuid files.users }

/-- The configuration has the lines around its array of users and, in the place
of the array, one of the old users and the new one.  Blank lines and comments
may follow it. -/
def AddsUser
    (before : List Line)
    (ids : List Line)
    (after : List Line)
    (uuid : Line)
    (config : TextFile) : Prop :=
  ∃ lines users,
    config = before ++ lines ++ after ∧
    readArray allowedUsers lines = some (.closed users) ∧
    ∀ id, id ∈ users ↔ id ∈ ids ∨ id = uuid

/-- An id of thirty-two hexadecimal digits. -/
structure IsUserId (uuid : Line) : Prop where
  length : uuid.length = 32
  digits : ∀ char ∈ uuid, Text.isHexDigit char = true

end Deploy
end GhostProtocol
