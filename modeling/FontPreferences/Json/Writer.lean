/-
Writing JSON documents: one object whose members stand on lines of their own.
-/
namespace FontPreferences
namespace Json

/-- One character of a string, escaped where JSON asks for it. -/
def escapeChar (c : Char) : List Char :=
  match c with
  | '"' => ['\\', '"']
  | '\\' => ['\\', '\\']
  | '\x08' => ['\\', 'b']
  | '\x0c' => ['\\', 'f']
  | '\n' => ['\\', 'n']
  | '\r' => ['\\', 'r']
  | '\t' => ['\\', 't']
  | c =>
    if c.toNat < 0x20 then
      ['\\', 'u', '0', '0', Nat.digitChar (c.toNat / 16), Nat.digitChar (c.toNat % 16)]
    else [c]

/-- A string between its quotes. -/
def writeText (s : String) : String :=
  String.ofList ('"' :: s.toList.flatMap escapeChar ++ ['"'])

/-- One member of an object, its value already written. -/
def writeMember (m : String × String) : String :=
  "  " ++ writeText m.1 ++ ": " ++ m.2

/-- An object with members on lines of their own, their values already written. -/
def writeObject (members : List (String × String)) : String :=
  if members.isEmpty then "\x7b\x7d"
  else "\x7b\n" ++ String.intercalate ",\n" (members.map writeMember) ++ "\n\x7d"

end Json
end FontPreferences
