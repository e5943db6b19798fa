import FontPreferences.Toml.Document
import FontPreferences.Toml.Scalar

/-
Reading TOML documents.

Each reader takes its part off the front of the characters and answers with the rest.  Values nest,
so their readers carry fuel; `read?` gives one unit for each character, and every step of a reader
that uses fuel takes a character.
-/
namespace FontPreferences
namespace Toml

/-- Whether a character is a blank within a line. -/
def isBlank (c : Char) : Bool :=
  c == ' ' || c == '\t'

/-- Drops blanks. -/
def skipBlanks (cs : List Char) : List Char :=
  cs.dropWhile isBlank

/-- Takes the end of a line off the front. -/
def newline? : List Char → Option (List Char)
  | '\n' :: cs => some cs
  | '\r' :: '\n' :: cs => some cs
  | _ => none

/-- Whether a character may stand in a comment or, unescaped, in a string. -/
def isTextChar (c : Char) : Bool :=
  c == '\t' || (0x20 ≤ c.toNat && c.toNat != 0x7f)

/-- Drops a comment. -/
def skipComment : List Char → List Char
  | '#' :: cs => cs.dropWhile isTextChar
  | cs => cs

/-- Takes what may end a line: blanks, a comment, and the end of the line or of the text. -/
def lineEnd? (cs : List Char) : Option (List Char) :=
  match skipComment (skipBlanks cs) with
  | [] => some []
  | cs => newline? cs

/-- Drops blanks, ends of lines and comments.  `inComment` tells whether a comment is open; it must
end with its line. -/
def skipFiller? (inComment : Bool) : List Char → Option (List Char)
  | [] => if inComment then none else some []
  | '\n' :: cs => skipFiller? false cs
  | '\r' :: '\n' :: cs => skipFiller? false cs
  | c :: cs =>
    if inComment then if isTextChar c then skipFiller? true cs else none
    else if isBlank c then skipFiller? false cs
    else if c = '#' then skipFiller? true cs
    else some (c :: cs)

/-- The character with a code point given in hexadecimal digits. -/
def scalarChar? (ds : List Char) : Option Char :=
  let n := Text.valueIn 16 ds
  if ds.all (isDigitIn 16) ∧ n.isValidChar then some (Char.ofNat n) else none

/-- The character that a backslash and a letter stand for. -/
def simpleEscape? : Char → Option Char
  | 'b' => some '\x08'
  | 't' => some '\t'
  | 'n' => some '\n'
  | 'f' => some '\x0c'
  | 'r' => some '\r'
  | '"' => some '"'
  | '\\' => some '\\'
  | _ => none

/-- Reads an escape, after its backslash. -/
def escape? : List Char → Option (Char × List Char)
  | 'u' :: cs => if cs.length < 4 then none else (scalarChar? (cs.take 4)).map (·, cs.drop 4)
  | 'U' :: cs => if cs.length < 8 then none else (scalarChar? (cs.take 8)).map (·, cs.drop 8)
  | c :: cs => (simpleEscape? c).map (·, cs)
  | [] => none

/-- Reads the rest of a string between quotes, after the opening one. -/
def basicString? (fuel : Nat) (held : List Char) (cs : List Char) : Option (String × List Char) :=
  match fuel, cs with
  | 0, _ => none
  | _, [] => none
  | _ + 1, '"' :: cs => some (String.ofList held.reverse, cs)
  | fuel + 1, '\\' :: cs => (escape? cs).bind fun (c, cs) => basicString? fuel (c :: held) cs
  | fuel + 1, c :: cs => if isTextChar c then basicString? fuel (c :: held) cs else none

/-- Drops blanks and ends of lines. -/
def skipBlankLines : List Char → List Char
  | '\n' :: cs => skipBlankLines cs
  | '\r' :: '\n' :: cs => skipBlankLines cs
  | c :: cs => if isBlank c then skipBlankLines cs else c :: cs
  | [] => []

/-- Reads the rest of a string of several lines, after the opening quotes.  Up to two quotes may
stand before the closing ones.  A backslash at the end of a line takes the blanks after it away. -/
def longString? (fuel : Nat) (held : List Char) (cs : List Char) : Option (String × List Char) :=
  match fuel, cs with
  | 0, _ => none
  | _, '"' :: '"' :: '"' :: '"' :: '"' :: cs => some (String.ofList ('"' :: '"' :: held).reverse, cs)
  | _, '"' :: '"' :: '"' :: '"' :: cs => some (String.ofList ('"' :: held).reverse, cs)
  | _, '"' :: '"' :: '"' :: cs => some (String.ofList held.reverse, cs)
  | _, [] => none
  | fuel + 1, '\\' :: cs =>
    match newline? (skipBlanks cs) with
    | some cs => longString? fuel held (skipBlankLines cs)
    | none => (escape? cs).bind fun (c, cs) => longString? fuel (c :: held) cs
  | fuel + 1, c :: cs =>
    match newline? (c :: cs) with
    | some cs => longString? fuel ('\n' :: held) cs
    | none => if isTextChar c then longString? fuel (c :: held) cs else none

/-- Reads the rest of a literal string, after the opening quote. -/
def literalString? (cs : List Char) : Option (String × List Char) :=
  let body := cs.takeWhile fun c => c ≠ '\'' && isTextChar c
  match cs.drop body.length with
  | '\'' :: cs => some (String.ofList body, cs)
  | _ => none

/-- Reads the rest of a literal string of several lines, after the opening quotes. -/
def longLiteral? (held : List Char) : List Char → Option (String × List Char)
  | '\'' :: '\'' :: '\'' :: '\'' :: '\'' :: cs =>
    some (String.ofList ('\'' :: '\'' :: held).reverse, cs)
  | '\'' :: '\'' :: '\'' :: '\'' :: cs => some (String.ofList ('\'' :: held).reverse, cs)
  | '\'' :: '\'' :: '\'' :: cs => some (String.ofList held.reverse, cs)
  | '\n' :: cs => longLiteral? ('\n' :: held) cs
  | '\r' :: '\n' :: cs => longLiteral? ('\n' :: held) cs
  | c :: cs => if isTextChar c then longLiteral? (c :: held) cs else none
  | [] => none

/-- Drops the end of a line, if one stands first. -/
def dropNewline (cs : List Char) : List Char :=
  (newline? cs).getD cs

/-- Reads a string of one line, for a key. -/
def lineString? : List Char → Option (String × List Char)
  | '"' :: cs => basicString? (cs.length + 1) [] cs
  | '\'' :: cs => literalString? cs
  | _ => none

/-- Reads a string. -/
def string? : List Char → Option (String × List Char)
  | '"' :: '"' :: '"' :: cs => longString? (cs.length + 1) [] (dropNewline cs)
  | '\'' :: '\'' :: '\'' :: cs => longLiteral? [] (dropNewline cs)
  | cs => lineString? cs

/-- Whether a character may stand in a bare key. -/
def isKeyChar (c : Char) : Bool :=
  c.isAlphanum || c == '-' || c == '_'

/-- Reads one part of a key, with the blanks around it. -/
def keyPart? (cs : List Char) : Option (String × List Char) :=
  let cs := skipBlanks cs
  let part := match cs with
    | '"' :: _ => lineString? cs
    | '\'' :: _ => lineString? cs
    | _ =>
      let name := cs.takeWhile isKeyChar
      if name.isEmpty then none else some (String.ofList name, cs.drop name.length)
  part.map fun (name, cs) => (name, skipBlanks cs)

/-- How many parts a key may have, and how deep values may nest. -/
def maxNesting : Nat := 79

/-- Reads a key of at most `parts` parts: the parts before the last one, and the last one. -/
def key? (parts : Nat) (cs : List Char) : Option ((List String × String) × List Char) :=
  match parts with
  | 0 => none
  | parts + 1 =>
    match keyPart? cs with
    | some (name, '.' :: cs) =>
      (key? parts cs).map fun ((parents, last), cs) => ((name :: parents, last), cs)
    | some (name, cs) => some (([], name), cs)
    | none => none

mutual

/-- Reads a value that may hold arrays and inline tables `depth` deep. -/
def value? (fuel depth : Nat) (cs : List Char) : Option (Value × List Char) :=
  match fuel, depth, cs with
  | 0, _, _ => none
  | _ + 1, _, '"' :: _ => (string? cs).map fun (s, cs) => (.text s, cs)
  | _ + 1, _, '\'' :: _ => (string? cs).map fun (s, cs) => (.text s, cs)
  | _ + 1, 0, '[' :: _ => none
  | _ + 1, 0, '{' :: _ => none
  | fuel + 1, depth + 1, '[' :: cs =>
    (items? fuel depth [] cs).map fun (items, cs) => (.array items, cs)
  | fuel + 1, depth + 1, '{' :: cs =>
    match skipBlanks cs with
    | '}' :: cs => some (.table [], cs)
    | _ => (pairs? fuel depth [] cs).bind fun (pairs, cs) => (inlineTable? pairs).map (·, cs)
  | _ + 1, _, cs => scalar? cs

/-- Reads the rest of an array, after a bracket or a comma; `held` are the items before. -/
def items? (fuel depth : Nat) (held : List Value) (cs : List Char) :
    Option (List Value × List Char) :=
  match fuel with
  | 0 => none
  | fuel + 1 =>
    match skipFiller? false cs with
    | some (']' :: cs) => some (held.reverse, cs)
    | some cs =>
      (value? fuel depth cs).bind fun (v, cs) =>
        match skipFiller? false cs with
        | some (',' :: cs) => items? fuel depth (v :: held) cs
        | some (']' :: cs) => some ((v :: held).reverse, cs)
        | _ => none
    | none => none

/-- Reads the rest of an inline table, after a brace or a comma; `held` are the assignments
before. -/
def pairs? (fuel depth : Nat) (held : List ((List String × String) × Value)) (cs : List Char) :
    Option (List ((List String × String) × Value) × List Char) :=
  match fuel with
  | 0 => none
  | fuel + 1 =>
    match key? maxNesting cs with
    | some (key, '=' :: cs) =>
      (value? fuel depth (skipBlanks cs)).bind fun (v, cs) =>
        match skipBlanks cs with
        | ',' :: cs => pairs? fuel depth ((key, v) :: held) cs
        | '}' :: cs => some (((key, v) :: held).reverse, cs)
        | _ => none
    | _ => none

end

/-- Reads an assignment, up to the end of its line. -/
def assignment? (cs : List Char) : Option (Statement × List Char) := do
  let ((parents, key), cs) ← key? maxNesting cs
  let cs ← take? '=' cs
  let (v, cs) ← value? (cs.length + 1) maxNesting (skipBlanks cs)
  let cs ← lineEnd? cs
  return (.assignment parents key v, cs)

/-- Reads a header, up to the end of its line. -/
def header? : List Char → Option (Statement × List Char)
  | '[' :: '[' :: cs => do
    let ((parents, key), cs) ← key? maxNesting cs
    let cs ← take? ']' cs
    let cs ← take? ']' cs
    let cs ← lineEnd? cs
    return (.arrayHeader parents key, cs)
  | '[' :: cs => do
    let ((parents, key), cs) ← key? maxNesting cs
    let cs ← take? ']' cs
    let cs ← lineEnd? cs
    return (.header parents key, cs)
  | _ => none

/-- Reads the statements of a document. -/
def statements? (fuel : Nat) (cs : List Char) : Option (List Statement) :=
  match fuel with
  | 0 => none
  | fuel + 1 =>
    match skipBlanks cs with
    | [] => some []
    | '#' :: cs => (lineEnd? ('#' :: cs)).bind (statements? fuel)
    | '\n' :: cs => statements? fuel cs
    | '\r' :: '\n' :: cs => statements? fuel cs
    | cs =>
      let statement := if cs.head? = some '[' then header? cs else assignment? cs
      statement.bind fun (s, cs) => (statements? fuel cs).map (s :: ·)

/-- Drops a byte order mark at the start of a text. -/
def dropMark : List Char → List Char
  | '\ufeff' :: cs => cs
  | cs => cs

/-- Reads a document: the entries of its top-level table. -/
def read? (s : String) : Option (List (String × Value)) :=
  let cs := dropMark s.toList
  (statements? (cs.length + 1) cs).bind Document.build?

end Toml
end FontPreferences
