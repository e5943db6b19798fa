import FontPreferences.Binary64
import FontPreferences.Text.Digits

/-
Tokens of JSON text.

* `Token.scan` splits a text into tokens, one character at a time, and refuses a text with a fault
  in any of them;
* `unescape` reads what stands between the quotes of a string;
* `Numeral.ofChars?` reads a number, and `Numeral.inRange` says whether it has a binary64 value.

Design note: a string with a surrogate escape that has no partner, and a number beyond the binary64
range, are well formed but have no value.  They are tokens of their own, `faulty`, so that a reader
that skips values need not refuse them.
-/
namespace FontPreferences
namespace Json

/-- A token of JSON text. -/
inductive Token where
  | openBrace
  | closeBrace
  | openBracket
  | closeBracket
  | colon
  | comma
  | null
  | bool (b : Bool)
  /-- A number without fraction and exponent, other than negative zero. -/
  | integer (n : Int)
  /-- Any other number; its value is not kept. -/
  | decimal
  | text (s : List Char)
  /-- A well-formed string or number without a value. -/
  | faulty
deriving DecidableEq, Repr

/-- A number as written: digits before and after the point, and the exponent. -/
structure Numeral where
  negative : Bool
  whole : List Char
  /-- The digits after the point, if there is one. -/
  fraction : Option (List Char)
  /-- The exponent, if there is one. -/
  exponent : Option Int
deriving Repr

namespace Numeral

/-- Whether the digits before a point are one zero or start with another digit. -/
def isWhole (ds : List Char) : Bool :=
  ds == ['0'] || (!ds.isEmpty && ds.head? != some '0')

/-- Reads the fraction and the exponent of a numeral. -/
def parts? : List Char → Option (Option (List Char) × Option Int)
  | '.' :: cs =>
    let ds := cs.takeWhile Char.isDigit
    if ds.isEmpty then none
    else (Text.readExponent? (cs.dropWhile Char.isDigit)).map fun e => (some ds, e)
  | cs => (Text.readExponent? cs).map fun e => (none, e)

/-- Reads a numeral. -/
def ofChars? (cs : List Char) : Option Numeral :=
  let (negative, cs) := match cs with
    | '-' :: cs => (true, cs)
    | cs => (false, cs)
  let whole := cs.takeWhile Char.isDigit
  if isWhole whole then
    (parts? (cs.dropWhile Char.isDigit)).map fun p => ⟨negative, whole, p.1, p.2⟩
  else none

/-- Takes digits into a significand as long as it fits in sixty-four bits.  Answers with the
significand, the number of digits taken and the number of digits left out. -/
def fill (ds : List Char) (start : Nat) : Nat × Nat × Nat :=
  ds.foldl
    (fun (significand, taken, left) d =>
      let next := 10 * significand + (d.toNat - '0'.toNat)
      if left = 0 ∧ next < UInt64.size then (next, taken + 1, left) else (significand, taken, left + 1))
    (start, 0, 0)

/-- Whether the number has a binary64 value.  The value is computed from as many leading digits as
fit in sixty-four bits, times a power of ten, and must not round to an infinity. -/
def inRange (n : Numeral) : Bool :=
  let (significand, _, left) := fill n.whole 0
  let (significand, taken, _) := fill (n.fraction.getD []) significand
  let e : Int := left - taken + n.exponent.getD 0
  if significand = 0 ∨ e < 0 then true
  else if 308 < e then false
  else
    let power := Binary64.nearest (Nat.pow 10 e.toNat : Rat)
    Binary64.nearest (Binary64.nearest (significand : Rat) * power) < Binary64.twoPow 1024

/-- The token of a numeral. -/
def token (n : Numeral) : Token :=
  if !n.inRange then .faulty
  else if n.fraction.isSome || n.exponent.isSome then .decimal
  else
    match n.negative, Text.valueIn 10 n.whole with
    | false, value => .integer value
    | true, 0 => .decimal
    | true, value => .integer (-(value : Int))

end Numeral

/-- The value of a hexadecimal digit. -/
def hexDigit? (c : Char) : Option Nat :=
  if '0' ≤ c ∧ c ≤ '9' then some (c.toNat - '0'.toNat)
  else if 'a' ≤ c ∧ c ≤ 'f' then some (c.toNat - 'a'.toNat + 10)
  else if 'A' ≤ c ∧ c ≤ 'F' then some (c.toNat - 'A'.toNat + 10)
  else none

/-- The value of four hexadecimal digits. -/
def hexUnit? (a b c d : Char) : Option Nat := do
  let a ← hexDigit? a
  let b ← hexDigit? b
  let c ← hexDigit? c
  let d ← hexDigit? d
  return ((a * 16 + b) * 16 + c) * 16 + d

/-- The character that a backslash and a letter other than `u` stand for. -/
def simpleEscape? : Char → Option Char
  | '"' => some '"'
  | '\\' => some '\\'
  | '/' => some '/'
  | 'b' => some '\x08'
  | 'f' => some '\x0c'
  | 'n' => some '\n'
  | 'r' => some '\r'
  | 't' => some '\t'
  | _ => none

/-- One piece of a string: a character, or a code unit written by its number. -/
inductive Piece where
  | char (c : Char)
  | unit (n : Nat)
deriving Repr

/-- Splits what stands between the quotes of a string into pieces. -/
def pieces? : List Char → Option (List Piece)
  | [] => some []
  | '\\' :: 'u' :: a :: b :: c :: d :: rest => do
    let n ← hexUnit? a b c d
    let tail ← pieces? rest
    return .unit n :: tail
  | '\\' :: c :: rest => do
    let e ← simpleEscape? c
    let tail ← pieces? rest
    return .char e :: tail
  | ['\\'] => none
  | c :: rest =>
    if c.toNat < 0x20 then none else (pieces? rest).map (.char c :: ·)

/-- Joins pieces to text: a leading surrogate takes the trailing one after it, and a surrogate
without its partner has no text. -/
def joinPieces? : List Piece → Option (List Char)
  | [] => some []
  | .char c :: rest => (joinPieces? rest).map (c :: ·)
  | .unit n :: .unit m :: rest =>
    if 0xd800 ≤ n ∧ n < 0xdc00 then
      if 0xdc00 ≤ m ∧ m < 0xe000 then
        (joinPieces? rest).map
          (Char.ofNat (0x10000 + (n - 0xd800) * 0x400 + (m - 0xdc00)) :: ·)
      else none
    else if 0xdc00 ≤ n ∧ n < 0xe000 then none
    else (joinPieces? (.unit m :: rest)).map (Char.ofNat n :: ·)
  | .unit n :: rest =>
    if 0xd800 ≤ n ∧ n < 0xe000 then none else (joinPieces? rest).map (Char.ofNat n :: ·)

/-- The token of a string, from what stands between its quotes. -/
def stringToken? (cs : List Char) : Option Token :=
  (pieces? cs).map fun ps =>
    match joinPieces? ps with
    | some s => .text s
    | none => .faulty

/-- Where a scan stands: between tokens, or inside one whose characters so far are kept in reverse
order. -/
inductive Scan where
  | between
  | string (held : List Char)
  /-- Just after a backslash in a string. -/
  | escape (held : List Char)
  | word (held : List Char)
  | numeral (held : List Char)
deriving Repr

/-- Whether a character is white space between tokens. -/
def isSpace (c : Char) : Bool :=
  c == ' ' || c == '\n' || c == '\t' || c == '\r'

/-- Whether a character may stand in a numeral. -/
def isNumeralChar (c : Char) : Bool :=
  c.isDigit || c == '-' || c == '+' || c == '.' || c == 'e' || c == 'E'

/-- The token that is a single character. -/
def punctuation? : Char → Option Token
  | '{' => some .openBrace
  | '}' => some .closeBrace
  | '[' => some .openBracket
  | ']' => some .closeBracket
  | ':' => some .colon
  | ',' => some .comma
  | _ => none

/-- The token that is a word. -/
def wordToken? (cs : List Char) : Option Token :=
  if cs = ['t', 'r', 'u', 'e'] then some (.bool true)
  else if cs = ['f', 'a', 'l', 's', 'e'] then some (.bool false)
  else if cs = ['n', 'u', 'l', 'l'] then some .null
  else none

/-- Starts the token, if any, that a character between tokens begins. -/
def start? (c : Char) : Option (Option Token × Scan) :=
  if isSpace c then some (none, .between)
  else if c = '"' then some (none, .string [])
  else if c.isDigit || c == '-' then some (none, .numeral [c])
  else if 'a' ≤ c ∧ c ≤ 'z' then some (none, .word [c])
  else (punctuation? c).map fun t => (some t, .between)

/-- The tokens of the rest of a text, from a place in a scan. -/
def scanFrom : Scan → List Char → Option (List Token)
  | .between, [] => some []
  | .between, c :: cs => do
    let (token, next) ← start? c
    let tail ← scanFrom next cs
    return token.toList ++ tail
  | .string _, [] => none
  | .string held, c :: cs =>
    if c = '\\' then scanFrom (.escape held) cs
    else if c = '"' then do
      let token ← stringToken? held.reverse
      let tail ← scanFrom .between cs
      return token :: tail
    else scanFrom (.string (c :: held)) cs
  | .escape _, [] => none
  | .escape held, c :: cs => scanFrom (.string (c :: '\\' :: held)) cs
  | .word held, [] => (wordToken? held.reverse).map fun t => [t]
  | .word held, c :: cs =>
    if 'a' ≤ c ∧ c ≤ 'z' then scanFrom (.word (c :: held)) cs
    else do
      let before ← wordToken? held.reverse
      let (token, next) ← start? c
      let tail ← scanFrom next cs
      return before :: token.toList ++ tail
  | .numeral held, [] => (Numeral.ofChars? held.reverse).map fun n => [n.token]
  | .numeral held, c :: cs =>
    if isNumeralChar c then scanFrom (.numeral (c :: held)) cs
    else do
      let before ← Numeral.ofChars? held.reverse
      let (token, next) ← start? c
      let tail ← scanFrom next cs
      return before.token :: token.toList ++ tail

/-- The tokens of a text. -/
def Token.scan (s : String) : Option (List Token) :=
  scanFrom .between s.toList

end Json
end FontPreferences
