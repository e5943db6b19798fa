import FontPreferences.FileContent
import FontPreferences.Json.Writer
import FontPreferences.Preference.Store

/-
The file of the user's preference values.

* `loadUserFile` merges the usable entries of a file into the user layer, and skips the others one
  by one; only a file that cannot be read or holds no JSON object is a fault;
* `userText` is the text of the file that holds the user layer.
-/
namespace FontPreferences
namespace Preference

/-- Why the file of user values cannot be loaded. -/
inductive UserFileError where
  /-- It is not a file of UTF-8 text. -/
  | unreadable
  /-- Its text is not a JSON object. -/
  | malformed
deriving DecidableEq, Repr

/-- The message shown for a file that cannot be loaded. -/
def UserFileError.message : UserFileError → String
  | .unreadable => "preferences file I/O error"
  | .malformed => "preferences file is not valid JSON"

/-- The members of the JSON object that a text holds; the last of a repeated key counts. -/
def readObject? (text : String) : Option (KeyTable Json) :=
  match Json.read? text with
  | some (.object members) => some (KeyTable.ofList members)
  | _ => none

namespace Store

/-- The value that an entry of the file gives its key, if the entry is usable: a string or an
integer, of the kind of the key's default. -/
def usable? (s : Store) (key : String) (stored : Json) : Option Value :=
  (Value.ofJson? stored).filter fun value => (s.fault? key value).isNone

/-- Takes one entry of the file into the user layer, counting it, or skips it. -/
def loadEntry (loaded : Store × Nat) (entry : String × Json) : Store × Nat :=
  match loaded.1.usable? entry.1 entry.2 with
  | none => loaded
  | some value =>
    ({ loaded.1 with user := loaded.1.user.insert entry.1 value }, loaded.2 + 1)

/-- Merges a file into the user layer, with the number of entries taken.  Observers are not told.
A missing file changes nothing. -/
def loadUserFile (s : Store) (file : FileContent) : Except UserFileError (Store × Nat) :=
  match file.read with
  | .missing => .ok (s, 0)
  | .unreadable => .error .unreadable
  | .text text =>
    match readObject? text with
    | none => .error .malformed
    | some members => .ok (members.entries.foldl loadEntry (s, 0))

/-- A value as JSON text. -/
def writeValue : Value → String
  | .integer n => toString n.toInt
  | .text s => Json.writeText s

/-- The text of the file that holds the user layer. -/
def userText (s : Store) : String :=
  Json.writeObject (s.user.entries.map fun e => (e.1, writeValue e.2))

end Store
end Preference
end FontPreferences
