import FontPreferences.FileContent
import FontPreferences.Path

/-
A tree of directories and files, with reading and saving along paths.

* `contentAt` follows a path step by step; a step through a file is blocked, one through nothing
  leads nowhere;
* `save` makes the directories on the way to a file and then writes the file.  When it fails, the
  directories made so far stay, and nothing else changes.

Both start at the root, whether or not the path does.
-/
namespace FontPreferences

/-- What stands at a place of a tree. -/
inductive Node where
  | directory
  | file (data : ByteArray)

/-- The directories and files below the root, each with the names that lead there.  Of two nodes at
one place the first counts. -/
structure FileTree where
  nodes : List (List String × Node)

namespace FileTree

/-- The tree with nothing below its root. -/
def empty : FileTree :=
  ⟨[]⟩

instance : Inhabited FileTree := ⟨empty⟩

/-- What stands at a place. -/
def nodeAt (t : FileTree) (place : List String) : Option Node :=
  if place = [] then some .directory else t.nodes.lookup place

/-- Puts a node at a place. -/
def put (t : FileTree) (place : List String) (n : Node) : FileTree :=
  ⟨(place, n) :: t.nodes⟩

theorem nodeAt_root (t : FileTree) : t.nodeAt [] = some .directory := by
  simp [nodeAt]

theorem nodeAt_put_self (t : FileTree) {place : List String} (n : Node) (h : place ≠ []) :
    (t.put place n).nodeAt place = some n := by
  simp [nodeAt, put, h]

theorem nodeAt_put_of_ne (t : FileTree) {place other : List String} (n : Node)
    (h : other ≠ place) : (t.put place n).nodeAt other = t.nodeAt other := by
  have hb : (other == place) = false := by simpa using h
  simp [nodeAt, put, List.lookup_cons, hb]

/-- Whether a name has more bytes than the name of a file can have. -/
def isOverlong (name : String) : Bool :=
  255 < name.utf8ByteSize

/-- The place one step from another. -/
def step (place : List String) (name : String) : List String :=
  if name = "." then place else if name = ".." then place.dropLast else place ++ [name]

/-- What stands at the end of a way. -/
def contentFrom (t : FileTree) (place : List String) : List String → FileContent
  | [] =>
    match t.nodeAt place with
    | none => .missing
    | some .directory => .directory
    | some (.file data) => .bytes data
  | name :: rest =>
    match t.nodeAt place with
    | none => .missing
    | some (.file _) => .unreachable
    | some .directory =>
      if isOverlong name then .unreachable else t.contentFrom (step place name) rest

/-- Whether a text is no path at all, because it holds the character NUL or has more bytes than a path
can have. -/
def isNoPath (path : String) : Bool :=
  path.toList.contains '\x00' || 4095 < path.utf8ByteSize

/-- What stands at a path.  Nothing stands at the empty path. -/
def contentAt (t : FileTree) (path : String) : FileContent :=
  if path = "" then .missing
  else if isNoPath path then .unreachable
  else t.contentFrom [] (Path.steps path)

/-- Makes the directories along a way as far as they are missing, with the place at its end unless
the way is blocked. -/
def makeDirectories (t : FileTree) (place : List String) :
    List String → FileTree × Option (List String)
  | [] => (t, some place)
  | name :: rest =>
    let next := step place name
    if isOverlong name then (t, none)
    else
      match t.nodeAt next with
      | none => (t.put next .directory).makeDirectories next rest
      | some .directory => t.makeDirectories next rest
      | some (.file _) => (t, none)

/-- Puts a node at a path, where no directory may stand, and tells whether that was possible. -/
def putAt (t : FileTree) (path : String) (n : Node) : FileTree × Bool :=
  if path = "" || isNoPath path then (t, false)
  else
    match t.makeDirectories [] (Path.parentSteps path) with
    | (t, none) => (t, false)
    | (t, some place) =>
      match (Path.steps path).getLast? with
      | none | some "." | some ".." => (t, false)
      | some name =>
        if isOverlong name then (t, false)
        else
          match t.nodeAt (place ++ [name]) with
          | some .directory => (t, false)
          | none | some (.file _) => (t.put (place ++ [name]) n, true)

/-- Writes a file at a path and tells whether that was possible. -/
def save (t : FileTree) (path text : String) : FileTree × Bool :=
  t.putAt path (.file text.toUTF8)

end FileTree
end FontPreferences
