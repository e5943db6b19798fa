import FontPreferences.FileTree

/-
Runs that read and write files.

A script says what to read and write and how to go on with what comes back; it ends with an answer.
Whoever performs a script decides nothing.
-/
namespace FontPreferences

/-- A run that reads and writes files one after the other. -/
inductive Script (α : Type) where
  | done (answer : α)
  /-- Goes on with what stands at a path. -/
  | read (path : String) (next : FileContent → Script α)
  /-- Saves a text at a path and goes on with whether that was possible. -/
  | write (path text : String) (next : Bool → Script α)

namespace Script

/-- Performs a script on a tree of files. -/
def runOn {α : Type} (t : FileTree) : Script α → FileTree × α
  | .done answer => (t, answer)
  | .read path next => (next (t.contentAt path)).runOn t
  | .write path text next =>
    let (t, written) := t.save path text
    (next written).runOn t

end Script
end FontPreferences
