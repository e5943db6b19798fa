/-
What stands at a path, and reading it as text.
-/
namespace FontPreferences

/-- What stands at a path. -/
inductive FileContent where
  | missing
  | directory
  /-- The way there is blocked, so that nothing can be read or written at the path. -/
  | unreachable
  | bytes (data : ByteArray)

/-- What reading a path as text gives. -/
inductive Readout where
  /-- Nothing stands there. -/
  | missing
  /-- Something stands there that is not a file of UTF-8 text. -/
  | unreadable
  | text (s : String)
deriving DecidableEq, Repr

namespace FileContent

/-- A file that holds a text. -/
def ofText (s : String) : FileContent :=
  .bytes s.toUTF8

/-- Reads a path as text. -/
def read : FileContent → Readout
  | .missing => .missing
  | .directory => .unreadable
  | .unreachable => .unreadable
  | .bytes data =>
    match String.fromUTF8? data with
    | some s => .text s
    | none => .unreadable

end FileContent
end FontPreferences
