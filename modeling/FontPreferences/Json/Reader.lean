import FontPreferences.Json.Token

/-
Reading JSON values from their tokens.

The reader is a stack machine: it takes the tokens one by one, and its stack holds the arrays and
objects that are still open.

* `Json.read?` reads a document in which every value is usable, to a limited nesting;
* `Json.readLoosely?` reads a document for a caller that skips some of its values.  A value that
  cannot be used is `faulty` there, and so is an object with a key that cannot be used.
-/
namespace FontPreferences

/-- A JSON value.  Objects keep their members in the order written, repeated keys included. -/
inductive Json where
  | null
  | bool (b : Bool)
  /-- A number without fraction and exponent, other than negative zero. -/
  | integer (n : Int)
  /-- Any other number; its value is not kept. -/
  | decimal
  | text (s : String)
  | array (items : List Json)
  | object (members : List (String × Json))
  /-- A value, or an object with a key, that is well formed but cannot be used. -/
  | faulty
deriving Inhabited

namespace Json

/-- An open array or object, with what it holds so far in reverse order. -/
inductive Frame where
  | array (items : List Json)
  /-- `key` is the key of the member being read, and `sound` tells whether all keys are usable. -/
  | object (members : List (String × Json)) (key : String) (sound : Bool)

/-- What a reader waits for. -/
inductive Awaiting where
  | value
  /-- The first item of an array, or its end. -/
  | firstItem
  /-- The first key of an object, or its end. -/
  | firstKey
  | key
  | colon
  /-- A comma, or the end of the innermost array or object. -/
  | separator
  /-- Nothing: the document is complete. -/
  | done (result : Json)

/-- A reader between two tokens. -/
structure Reader where
  stack : List Frame
  awaiting : Awaiting

namespace Reader

/-- The reader at the start of a document. -/
def start : Reader :=
  ⟨[], .value⟩

/-- Hands a complete value to the innermost open array or object. -/
def deliver (stack : List Frame) (v : Json) : Reader :=
  match stack with
  | [] => ⟨[], .done v⟩
  | .array items :: rest => ⟨.array (v :: items) :: rest, .separator⟩
  | .object members key sound :: rest =>
    ⟨.object ((key, v) :: members) key sound :: rest, .separator⟩

/-- Opens an array or object, unless that nests deeper than `limit`. -/
def openFrame? (limit : Nat) (stack : List Frame) (frame : Frame) (awaiting : Awaiting) :
    Option Reader :=
  if stack.length < limit then some ⟨frame :: stack, awaiting⟩ else none

/-- Takes a token that begins a value. -/
def beginValue? (limit : Nat) (stack : List Frame) : Token → Option Reader
  | .null => some (deliver stack .null)
  | .bool b => some (deliver stack (.bool b))
  | .integer n => some (deliver stack (.integer n))
  | .decimal => some (deliver stack .decimal)
  | .text s => some (deliver stack (.text (String.ofList s)))
  | .faulty => some (deliver stack .faulty)
  | .openBracket => openFrame? limit stack (.array []) .firstItem
  | .openBrace => openFrame? limit stack (.object [] "" true) .firstKey
  | _ => none

/-- Takes a token that is a key of the innermost object. -/
def takeKey? (stack : List Frame) (token : Token) : Option Reader :=
  match stack, token with
  | .object members _ sound :: rest, .text s =>
    some ⟨.object members (String.ofList s) sound :: rest, .colon⟩
  | .object members key _ :: rest, .faulty => some ⟨.object members key false :: rest, .colon⟩
  | _, _ => none

/-- The value of a complete object. -/
def closeObject (members : List (String × Json)) (sound : Bool) : Json :=
  if sound then .object members.reverse else .faulty

/-- Takes a token that closes the innermost array or object. -/
def close? (stack : List Frame) (token : Token) : Option Reader :=
  match stack, token with
  | .array items :: rest, .closeBracket => some (deliver rest (.array items.reverse))
  | .object members _ sound :: rest, .closeBrace =>
    some (deliver rest (closeObject members sound))
  | _, _ => none

/-- Takes one token. -/
def step? (limit : Nat) (r : Reader) (token : Token) : Option Reader :=
  match r.awaiting with
  | .value => beginValue? limit r.stack token
  | .firstItem =>
    if token = .closeBracket then close? r.stack token else beginValue? limit r.stack token
  | .firstKey => if token = .closeBrace then close? r.stack token else takeKey? r.stack token
  | .key => takeKey? r.stack token
  | .colon => if token = .colon then some ⟨r.stack, .value⟩ else none
  | .separator =>
    if token = .comma then
      match r.stack with
      | .array _ :: _ => some ⟨r.stack, .value⟩
      | .object .. :: _ => some ⟨r.stack, .key⟩
      | [] => none
    else close? r.stack token
  | .done _ => none

/-- The value of a document, once it is complete. -/
def result? (r : Reader) : Option Json :=
  match r.awaiting with
  | .done v => some v
  | _ => none

end Reader

/-- Reads the tokens of a document whose arrays and objects nest at most `limit` deep. -/
def ofTokens? (limit : Nat) (tokens : List Token) : Option Json :=
  (tokens.foldlM (Reader.step? limit) Reader.start).bind Reader.result?

/-- How deep the arrays and objects of a document may nest. -/
def maxNesting : Nat := 127

/-- Reads a document in which every value is usable. -/
def read? (s : String) : Option Json := do
  let tokens ← Token.scan s
  if tokens.contains .faulty then none else ofTokens? maxNesting tokens

/-- Reads a document of any nesting, with values that cannot be used in it. -/
def readLoosely? (s : String) : Option Json := do
  let tokens ← Token.scan s
  ofTokens? tokens.length tokens

end Json
end FontPreferences
