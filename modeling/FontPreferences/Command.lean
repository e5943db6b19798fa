import FontPreferences.Binary64.Decimal
import FontPreferences.Encoding
import FontPreferences.Session
import FontPreferences.Slider.ValueMap
import FontPreferences.Text.Basic
import FontPreferences.Text.Digits

/-
The commands: listing encodings and preferences, setting a preference, and snapping a font size.

* `openStore` is the store that the page would see, but it refuses a file that cannot be used;
* `assign` gives one key a value, and fails without anything to save;
* `snap` shows the permitted size closest to a number.

They work on the contents of the files; `Program` reads and saves.
-/
namespace FontPreferences

/-- The paths of the two files that preferences come from. -/
structure PreferenceFiles where
  prefs : String
  policy : String
deriving DecidableEq, Repr

/-- Why the preferences cannot be opened. -/
inductive OpenError where
  | userFile (e : Preference.UserFileError)
  | policy (e : ConfigError)
deriving DecidableEq, Repr

/-- The message shown for files at given paths. -/
def OpenError.message (files : PreferenceFiles) : OpenError → String
  | .userFile _ => "reading " ++ files.prefs
  | .policy e => e.message files.policy

/-- The store of the two files: defaults, the user's values, and the policy on top. -/
def openStore (prefs policy : FileContent) : Except OpenError Preference.Store :=
  match Preference.Store.withFontDefaults.loadUserFile prefs with
  | .error e => .error (.userFile e)
  | .ok (store, _) =>
    match Policy.load policy with
    | .error e => .error (.policy e)
    | .ok p => .ok (p.apply store).1

/-- Why a key cannot be given a value. -/
inductive AssignError where
  | cannotOpen (e : OpenError)
  /-- The key takes integers, and the text is none in range. -/
  | notInteger (key text : String)
  | refused (e : Preference.StoreError)
deriving DecidableEq, Repr

/-- The message shown for files at given paths. -/
def AssignError.message (files : PreferenceFiles) : AssignError → String
  | .cannotOpen e => e.message files
  | .notInteger key text => key ++ " expects an integer, got " ++ Text.quoted text
  | .refused e => e.message

/-- The value that a text gives a key, of the kind of the key's default.  Blanks around an integer
do not count. -/
def valueFor (s : Preference.Store) (key text : String) : Except AssignError Preference.Value :=
  match s.default? key with
  | none => .error (.refused (.unknown key))
  | some (.text _) => .ok (.text text)
  | some (.integer _) =>
    match (Text.readInteger? (Text.trim text).toList).bind Preference.Value.ofInt? with
    | none => .error (.notInteger key text)
    | some value => .ok value

/-- The tag of the changes that the command makes. -/
def assignOrigin : String := "cli"

/-- Gives a key the value that a text stands for.  The answer is the value and the store that is to
be saved. -/
def assign (prefs policy : FileContent) (key text : String) :
    Except AssignError (Preference.Value × Preference.Store) :=
  match openStore prefs policy with
  | .error e => .error (.cannotOpen e)
  | .ok store =>
    match valueFor store key text with
    | .error e => .error e
    | .ok value =>
      match store.set key value assignOrigin with
      | .error e => .error (.refused e)
      | .ok store => .ok (value, store)

/-- The line that tells what a key was given. -/
def assignedText (key : String) (value : Preference.Value) : String :=
  key ++ " = " ++ value.display ++ "\n"

/-- The line of a preference in a listing. -/
def entryText (e : Preference.Entry) : String :=
  Text.padRight 44 e.key ++ " " ++ Text.padRight 24 e.value.display ++ " [" ++ e.source.label
    ++ "]\n"

/-- The listing of every preference. -/
def storeListing (s : Preference.Store) : String :=
  String.join (s.entries.map entryText)

/-- The line of an encoding in a listing. -/
def encodingText (c : Choice) : String :=
  Text.padRight 16 c.value ++ " " ++ c.label ++ "\n"

/-- The listing of every encoding. -/
def encodingListing : String :=
  String.join (Encoding.choices.map encodingText)

/-- The sizes that `snap` chooses from. -/
def snapSizes (minimum : Bool) : ValueMap :=
  if minimum then .minimumFontSizes else .fontSizes

/-- The line that shows the permitted size closest to a number; nothing for a number that is not
finite. -/
def snap? (value : Binary64) (minimum : Bool) : Option String :=
  if value.isFinite then
    some (value.text ++ " -> " ++ toString ((snapSizes minimum).closestTo value).toInt ++ "pt\n")
  else none

end FontPreferences
