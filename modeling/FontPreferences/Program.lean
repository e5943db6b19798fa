import FontPreferences.Command
import FontPreferences.Command.Line
import FontPreferences.Script

/-
The command-line program as a script.

* `Command.script` reads the files that a command needs, and saves what it changed;
* `program` reads the command line first and the configuration second, so a configuration that
  cannot be used stops every command.

A script reaches files alone.  The command `fonts` asks the machine which fonts it has, and so it is
left out here, with its options `--filter` and `--monospace`.
-/
namespace FontPreferences

/-- Why a command fails. -/
inductive CommandError where
  /-- The configuration file at a path cannot be used. -/
  | configuration (path : String) (e : ConfigError)
  | cannotOpen (files : PreferenceFiles) (e : OpenError)
  | cannotAssign (files : PreferenceFiles) (e : AssignError)
  | cannotSave (path : String) (e : SaveError)
  | notASize (value : Binary64)
deriving DecidableEq

/-- The message shown for a command that fails. -/
def CommandError.message : CommandError → String
  | .configuration path e => e.message path
  | .cannotOpen files e => e.message files
  | .cannotAssign files e => e.message files
  | .cannotSave path e => e.message path
  | .notASize value => value.text ++ " is not a size"

/-- How the program ends. -/
inductive Ending where
  | success (output : String)
  | failure (e : CommandError)
  | misuse (e : UsageError)
deriving DecidableEq

namespace Ending

/-- The exit code. -/
def code : Ending → Nat
  | .success _ => 0
  | .failure _ => 1
  | .misuse _ => 2

/-- The text for the standard output. -/
def output : Ending → String
  | .success output => output
  | .failure _ | .misuse _ => ""

/-- The text for the standard error. -/
def errorOutput : Ending → String
  | .success _ => ""
  | .failure e => "Error: " ++ e.message ++ "\n"
  | .misuse e => "error: " ++ e.message ++ "\n"

end Ending

/-- The files that a command works on: those given to it, else those of the configuration. -/
def PreferenceFiles.choose (c : Config) (directory : String) (prefs policy : Option String) :
    PreferenceFiles :=
  ⟨prefs.getD (c.prefsFile directory), policy.getD (c.policyFile directory)⟩

/-- Reads the two files of the preferences. -/
def PreferenceFiles.reading {α : Type} (f : PreferenceFiles)
    (next : FileContent → FileContent → Script α) : Script α :=
  .read f.prefs fun prefs => .read f.policy fun policy => next prefs policy

/-- Lists the preferences of two files. -/
def listScript (f : PreferenceFiles) : Script Ending :=
  f.reading fun prefs policy =>
    match openStore prefs policy with
    | .error e => .done (.failure (.cannotOpen f e))
    | .ok store => .done (.success (storeListing store))

/-- Gives a key a value and saves the preferences file. -/
def setScript (f : PreferenceFiles) (key text : String) : Script Ending :=
  f.reading fun prefs policy =>
    match assign prefs policy key text with
    | .error e => .done (.failure (.cannotAssign f e))
    | .ok (value, store) =>
      .write f.prefs store.userText fun written =>
        .done (if written then .success (assignedText key value)
          else .failure (.cannotSave f.prefs .unwritable))

/-- Shows the permitted size closest to a number. -/
def snapEnding (value : Binary64) (minimum : Bool) : Ending :=
  match snap? value minimum with
  | some line => .success line
  | none => .failure (.notASize value)

/-- A command under a configuration, whose files are in a directory. -/
def Command.script (c : Config) (directory : String) : Command → Script Ending
  | .encodings => .done (.success encodingListing)
  | .prefs user policy => listScript (.choose c directory user policy)
  | .set key value user policy => setScript (.choose c directory user policy) key value
  | .snap value minimum => .done (snapEnding value minimum)

/-- What `--version` shows. -/
def versionText : String :=
  "fontprefs 0.1.0\n"

/-- What `--help` shows. -/
def helpText : String :=
  "Usage: fontprefs [--verbose] [--config FILE] COMMAND\n\n"
    ++ "Commands:\n"
    ++ "  encodings                                         list the default encodings\n"
    ++ "  prefs [--prefs FILE] [--policy FILE]              show every font preference\n"
    ++ "  set KEY VALUE [--prefs FILE] [--policy FILE]      set a preference\n"
    ++ "  snap VALUE [--minimum]                            show the closest font size\n"
    ++ "  help                                              show this text\n"

/-- The directory of the program's files, in the directory of the user's configuration. -/
def configDirectory (userDirectory : String) : String :=
  Path.join userDirectory "fontprefs"

/-- The directory of the user's configuration, by what the environment names: the directory itself,
if its path is absolute, or the home directory. -/
def userDirectory (named home : Option String) : String :=
  match named.filter Path.isAbsolute, home.filter (· ≠ "") with
  | some path, _ => path
  | none, some path => Path.join path ".config"
  | none, none => "."

/-- The program, with its files in a directory. -/
def program (directory : String) (args : List String) : Script Ending :=
  match Request.ofArguments args with
  | .error e => .done (.misuse e)
  | .ok .help => .done (.success helpText)
  | .ok .version => .done (.success versionText)
  | .ok (.command config command) =>
    let path := config.getD (Path.join directory "config.toml")
    .read path fun file =>
      match Config.load file with
      | .error e => .done (.failure (.configuration path e))
      | .ok c => command.script c directory

end FontPreferences
