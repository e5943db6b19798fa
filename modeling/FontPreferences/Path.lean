/-
Paths, as texts with slashes between their parts.
-/
namespace FontPreferences
namespace Path

/-- Whether a path starts at the root. -/
def isAbsolute (path : String) : Bool :=
  path.toList.head? == some '/'

/-- The path of `name` below a directory.  An absolute name stands for itself, and so does a name
below the empty path. -/
def join (directory name : String) : String :=
  if isAbsolute name then name
  else
    match directory.toList.getLast? with
    | none => name
    | some '/' => directory ++ name
    | some _ => directory ++ "/" ++ name

/-- The steps of a path, from the place where it starts.  The step `.` stays in place and `..` goes
up; a slash at the end of the path is a last step that stays in place. -/
def steps (path : String) : List String :=
  (path.splitOn "/").filter (· ≠ "") ++ (if path.toList.getLast? = some '/' then ["."] else [])

/-- The steps to the directory that holds what the path names. -/
def parentSteps (path : String) : List String :=
  ((steps path).reverse.dropWhile (· == ".")).tail.reverse

/-- The path of the directory that holds what a path names; the empty path if no step leads there. -/
def parent (path : String) : String :=
  let way := "/".intercalate (parentSteps path)
  if isAbsolute path then "/" ++ way else way

end Path
end FontPreferences
