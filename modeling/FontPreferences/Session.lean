import FontPreferences.Policy
import FontPreferences.Preference.UserFile

/-
The preferences of one run of the program: loaded at its start, saved at its end.

A preferences file that exists but cannot be loaded is left alone: the session goes on with the
defaults and saves nothing.
-/
namespace FontPreferences

/-- Preferences as loaded at the start. -/
structure Session where
  store : Preference.Store
  /-- Whether to save at the end. -/
  saveOnExit : Bool
deriving DecidableEq

/-- Why the preferences could not be saved. -/
inductive SaveError where
  /-- The file cannot be written. -/
  | unwritable
deriving DecidableEq, Repr

/-- The message shown for the preferences file at a path. -/
def SaveError.message (path : String) : SaveError → String
  | .unwritable => "writing " ++ path

namespace Session

/-- The user's values over the defaults, as far as their file can be loaded. -/
def loadUser (prefs : FileContent) : Session :=
  match Preference.Store.withFontDefaults.loadUserFile prefs with
  | .ok (store, _) => ⟨store, true⟩
  | .error _ => ⟨.withFontDefaults, false⟩

/-- Defaults, then the user's values, then the policy on top. -/
def start (prefs policy : FileContent) : Session :=
  let session := loadUser prefs
  match Policy.load policy with
  | .ok p => { session with store := (p.apply session.store).1 }
  | .error _ => session

/-- Saves the user's values over what stands at the preferences path, unless the file could not be
loaded at the start.  The answer tells whether the file was written, beside what stands there
afterwards. -/
def finish (s : Session) (standing : FileContent) : Except SaveError Bool × FileContent :=
  if !s.saveOnExit then (.ok false, standing)
  else
    match standing with
    | .directory | .unreachable => (.error .unwritable, standing)
    | .missing | .bytes _ => (.ok true, .ofText s.store.userText)

end Session
end FontPreferences
