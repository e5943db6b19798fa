import FontPreferences.Config
import FontPreferences.Preference.Store

/-
The administrative policy: preferences forced to fixed values.

Each entry of the file's `managed` table is a string or a thirty-two bit integer.  Applying a policy
locks the preferences it can lock and skips its other entries.
-/
namespace FontPreferences

/-- Forced values by key. -/
structure Policy where
  managed : KeyTable Preference.Value
deriving DecidableEq, Repr

namespace Policy

/-- The policy that forces nothing. -/
def empty : Policy :=
  ⟨.empty⟩

instance : Inhabited Policy := ⟨empty⟩

/-- The preference value of a TOML value. -/
def valueOf? : Toml.Value → Option Preference.Value
  | .integer n => Preference.Value.ofInt? n
  | .text s => some (.text s)
  | _ => none

/-- The policy in the top-level table of a file. -/
def ofToml? (entries : List (String × Toml.Value)) : Option Policy :=
  match entries.lookup "managed" with
  | none => some empty
  | some v => do
    let table ← v.asTable?
    let values ← table.mapM fun e => (valueOf? e.2).map fun value => (e.1, value)
    return ⟨KeyTable.ofList values⟩

/-- Loads the policy from its file. -/
def load (file : FileContent) : Except ConfigError Policy :=
  readTomlFile empty ofToml? file

/-- Locks one preference, counting it, or skips the entry if the store refuses it. -/
def applyEntry (applied : Preference.Store × Nat) (entry : String × Preference.Value) :
    Preference.Store × Nat :=
  match applied.1.setManaged entry.1 entry.2 with
  | .ok store => (store, applied.2 + 1)
  | .error _ => applied

/-- Locks every preference of the policy that the store has with that kind, with their number. -/
def apply (p : Policy) (store : Preference.Store) : Preference.Store × Nat :=
  p.managed.entries.foldl applyEntry (store, 0)

end Policy
end FontPreferences
