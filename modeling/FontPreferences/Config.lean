import FontPreferences.FileContent
import FontPreferences.Localization
import FontPreferences.Path
import FontPreferences.Toml.Reader

/-
The configuration file, and the locations of the program's other files.

Every entry of the file is optional, and an entry of another name is skipped.  An entry of the wrong
kind makes the whole file malformed.
-/
namespace FontPreferences

/-- Why a configuration or policy file cannot be used. -/
inductive ConfigError where
  /-- It is not a file of UTF-8 text. -/
  | unreadable
  /-- Its text is not a document of the expected form. -/
  | malformed
deriving DecidableEq, Repr

/-- The message shown for the file at a path. -/
def ConfigError.message (path : String) : ConfigError → String
  | .unreadable => "failed to read " ++ path
  | .malformed => "failed to parse " ++ path

/-- Reads a file whose absence means `absent`, with a reader of its top-level table. -/
def readTomlFile {α : Type} (absent : α) (read? : List (String × Toml.Value) → Option α)
    (file : FileContent) : Except ConfigError α :=
  match file.read with
  | .missing => .ok absent
  | .unreadable => .error .unreadable
  | .text s =>
    match (Toml.read? s).bind read? with
    | some a => .ok a
    | none => .error .malformed

/-- The configuration. -/
structure Config where
  /-- The log filter. -/
  logLevel : String
  /-- The preferences file, if it is not the one in the configuration directory. -/
  prefsPath : Option String
  /-- The file of the screen's state, likewise. -/
  statePath : Option String
  /-- The policy file, likewise. -/
  policyPath : Option String
  /-- Overrides of localized strings. -/
  strings : KeyTable String
deriving DecidableEq, Repr

namespace Config

/-- The configuration without a file. -/
def default : Config :=
  ⟨"info", none, none, none, .empty⟩

instance : Inhabited Config := ⟨default⟩

/-- The text of an optional entry, if it is one. -/
def textEntry? (entries : List (String × Toml.Value)) (key : String) : Option (Option String) :=
  match entries.lookup key with
  | none => some none
  | some v => v.asText?.map some

/-- The overrides of localized strings. -/
def stringsEntry? (entries : List (String × Toml.Value)) : Option (KeyTable String) :=
  match entries.lookup "strings" with
  | none => some .empty
  | some v => do
    let table ← v.asTable?
    let texts ← table.mapM fun e => e.2.asText?.map fun s => (e.1, s)
    return KeyTable.ofList texts

/-- The configuration in the top-level table of a file. -/
def ofToml? (entries : List (String × Toml.Value)) : Option Config := do
  let logLevel ← textEntry? entries "log_level"
  let prefsPath ← textEntry? entries "prefs_path"
  let statePath ← textEntry? entries "state_path"
  let policyPath ← textEntry? entries "policy_path"
  let strings ← stringsEntry? entries
  return ⟨logLevel.getD default.logLevel, prefsPath, statePath, policyPath, strings⟩

/-- Loads the configuration from its file. -/
def load (file : FileContent) : Except ConfigError Config :=
  readTomlFile default ofToml? file

/-- Where the preferences file is. -/
def prefsFile (c : Config) (directory : String) : String :=
  c.prefsPath.getD (Path.join directory "Preferences.json")

/-- Where the file of the screen's state is. -/
def stateFile (c : Config) (directory : String) : String :=
  c.statePath.getD (Path.join directory "state.json")

/-- Where the policy file is. -/
def policyFile (c : Config) (directory : String) : String :=
  c.policyPath.getD (Path.join directory "policy.toml")

/-- The localized strings. -/
def localized (c : Config) : LocalizedStrings :=
  LocalizedStrings.withOverrides c.strings

end Config
end FontPreferences
