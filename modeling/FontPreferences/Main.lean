import FontPreferences.Program

/-
The program on the machine's files.
-/
namespace FontPreferences

/-- What stands at a path of the machine. -/
def readFile (path : String) : IO FileContent := do
  try
    return .bytes (← IO.FS.readBinFile path)
  catch
    | .noFileOrDirectory .. => return .missing
    | _ => return .unreachable

/-- Saves a text at a path of the machine and tells whether that was possible. -/
def writeFile (path text : String) : IO Bool := do
  try
    if Path.parent path ≠ "" then IO.FS.createDirAll (Path.parent path)
    IO.FS.writeFile path text
    return true
  catch _ => return false

/-- Performs a script on the machine's files. -/
def Script.perform {α : Type} : Script α → IO α
  | .done answer => return answer
  | .read path next => do (next (← readFile path)).perform
  | .write path text next => do (next (← writeFile path text)).perform

end FontPreferences

open FontPreferences in
def main (args : List String) : IO UInt32 := do
  let user := userDirectory (← IO.getEnv "XDG_CONFIG_HOME") (← IO.getEnv "HOME")
  let ending ← (program (configDirectory user) args).perform
  IO.print ending.output
  IO.eprint ending.errorOutput
  return UInt32.ofNat ending.code
