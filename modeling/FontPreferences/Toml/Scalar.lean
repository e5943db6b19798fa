import FontPreferences.Binary64.Decimal
import FontPreferences.Toml.Value

/-
Bare TOML scalars: booleans, integers, floating-point numbers, dates and times.

A bare scalar is the longest run of characters that may stand in one; `bare?` reads it as a whole.
-/
namespace FontPreferences
namespace Toml

/-- Whether a character may stand in a bare scalar. -/
def isBareScalarChar (c : Char) : Bool :=
  c.isAlphanum || c == '_' || c == '+' || c == '-' || c == '.' || c == ':'

/-- Whether digits are grouped well: nonempty, with single underscores between digits only. -/
def grouped (isDigit : Char → Bool) : List Char → Bool
  | [] => false
  | [c] => isDigit c
  | c :: '_' :: rest => isDigit c && grouped isDigit rest
  | c :: rest => isDigit c && grouped isDigit rest

/-- The characters without underscores. -/
def ungrouped (cs : List Char) : List Char :=
  cs.filter (· ≠ '_')

/-- Whether a character is a digit in a base up to sixteen. -/
def isDigitIn (base : Nat) (c : Char) : Bool :=
  (c.isDigit || ('a' ≤ c.toLower && c.toLower ≤ 'f')) && Text.digitValue c < base

/-- An integer in the sixty-four bit range. -/
def inInt64 (n : Int) : Option Int :=
  if Int64.minValue.toInt ≤ n ∧ n ≤ Int64.maxValue.toInt then some n else none

/-- Whether the characters are decimal digits without a leading zero. -/
def isDecimalWhole (cs : List Char) : Bool :=
  grouped Char.isDigit cs && (cs.length == 1 || cs.head? != some '0')

/-- Reads an integer with a base prefix. -/
def basedInteger? (base : Nat) (cs : List Char) : Option Int :=
  if grouped (isDigitIn base) cs then inInt64 (Text.valueIn base (ungrouped cs)) else none

/-- Reads an integer. -/
def integer? : List Char → Option Int
  | '0' :: 'x' :: cs => basedInteger? 16 cs
  | '0' :: 'o' :: cs => basedInteger? 8 cs
  | '0' :: 'b' :: cs => basedInteger? 2 cs
  | cs =>
    let (negative, ds) := Text.splitSign cs
    if isDecimalWhole ds then
      let n := Text.valueIn 10 (ungrouped ds)
      inInt64 (if negative then -(n : Int) else n)
    else none

/-- Whether the characters are an exponent part, or nothing. -/
def isExponent : List Char → Bool
  | [] => true
  | c :: cs => (c == 'e' || c == 'E') && grouped Char.isDigit (Text.splitSign cs).2

/-- Whether the characters are what follows the whole part of a floating-point number: a fraction
and an optional exponent, or an exponent. -/
def isFloatTail : List Char → Bool
  | '.' :: cs =>
    let isPart (c : Char) := c.isDigit || c == '_'
    grouped Char.isDigit (cs.takeWhile isPart) && isExponent (cs.dropWhile isPart)
  | cs => !cs.isEmpty && isExponent cs

/-- Whether the characters are a floating-point number.  A positive numeral beyond the binary64
range is none. -/
def isFloat (cs : List Char) : Bool :=
  let (negative, rest) := Text.splitSign cs
  if rest = ['i', 'n', 'f'] ∨ rest = ['n', 'a', 'n'] then true
  else
    let isPart (c : Char) := c.isDigit || c == '_'
    isDecimalWhole (rest.takeWhile isPart) && isFloatTail (rest.dropWhile isPart)
      && (negative || Binary64.readNumeral? false (ungrouped rest) != some (.infinite false))

/-- Reads exactly `n` decimal digits off the front, and their value. -/
def digits? (n : Nat) (cs : List Char) : Option (Nat × List Char) :=
  let ds := cs.take n
  if ds.length = n ∧ ds.all Char.isDigit then some (Text.valueIn 10 ds, cs.drop n) else none

/-- The number of days of a month. -/
def daysInMonth (year month : Nat) : Nat :=
  if month = 2 then
    if year % 4 = 0 ∧ (year % 100 ≠ 0 ∨ year % 400 = 0) then 29 else 28
  else if month = 4 ∨ month = 6 ∨ month = 9 ∨ month = 11 then 30
  else 31

/-- Takes an expected character off the front. -/
def take? (c : Char) : List Char → Option (List Char)
  | d :: cs => if d = c then some cs else none
  | [] => none

/-- Reads a date off the front. -/
def date? (cs : List Char) : Option (Date × List Char) := do
  let (year, cs) ← digits? 4 cs
  let cs ← take? '-' cs
  let (month, cs) ← digits? 2 cs
  let cs ← take? '-' cs
  let (day, cs) ← digits? 2 cs
  guard (1 ≤ month ∧ month ≤ 12 ∧ 1 ≤ day ∧ day ≤ daysInMonth year month)
  return (⟨year, month, day⟩, cs)

/-- Reads a fraction of a second off the front, if there is one, in nanoseconds.  Digits beyond the
ninth are dropped. -/
def nanoseconds? : List Char → Option (Nat × List Char)
  | '.' :: cs =>
    let ds := cs.takeWhile Char.isDigit
    if ds.isEmpty then none
    else
      let kept := ds.take 9
      some (Text.valueIn 10 kept * Nat.pow 10 (9 - kept.length), cs.dropWhile Char.isDigit)
  | cs => some (0, cs)

/-- Reads a time of day off the front.  A minute may have a leap second. -/
def time? (cs : List Char) : Option (Time × List Char) := do
  let (hour, cs) ← digits? 2 cs
  let cs ← take? ':' cs
  let (minute, cs) ← digits? 2 cs
  let cs ← take? ':' cs
  let (second, cs) ← digits? 2 cs
  guard (hour ≤ 23 ∧ minute ≤ 59 ∧ second ≤ 60)
  let (nanosecond, cs) ← nanoseconds? cs
  return (⟨hour, minute, second, nanosecond⟩, cs)

/-- Reads an offset, or its absence. -/
def offset? : List Char → Option (Option Offset)
  | [] => some none
  | ['Z'] => some (some .zulu)
  | ['z'] => some (some .zulu)
  | sign :: cs => do
    guard (sign = '+' ∨ sign = '-')
    let (hour, cs) ← digits? 2 cs
    let cs ← take? ':' cs
    let (minute, cs) ← digits? 2 cs
    guard (hour ≤ 23 ∧ minute ≤ 59 ∧ cs = [])
    let n : Int := hour * 60 + minute
    return some (.minutes (if sign = '-' then -n else n))

/-- Reads a time with an optional offset, to go with a date. -/
def timeAndOffset? (cs : List Char) : Option (Time × Option Offset) := do
  let (time, cs) ← time? cs
  let offset ← offset? cs
  return (time, offset)

/-- Reads a date, a time, or both joined by a letter. -/
def datetime? (cs : List Char) : Option DateTime :=
  match date? cs with
  | some (date, []) => some ⟨some date, none, none⟩
  | some (date, c :: rest) =>
    if c = 'T' ∨ c = 't' then (timeAndOffset? rest).map fun t => ⟨some date, some t.1, t.2⟩
    else none
  | none =>
    match time? cs with
    | some (time, []) => some ⟨none, some time, none⟩
    | _ => none

/-- Reads a bare scalar. -/
def bare? (cs : List Char) : Option Value :=
  if cs = ['t', 'r', 'u', 'e'] then some (.boolean true)
  else if cs = ['f', 'a', 'l', 's', 'e'] then some (.boolean false)
  else
    match datetime? cs with
    | some d => some (.datetime d)
    | none =>
      match integer? cs with
      | some n => some (.integer n)
      | none => if isFloat cs then some .float else none

/-- Joins a date to the time that follows it after a blank, if one does. -/
def joinTime (v : Value) (rest : List Char) : Value × List Char :=
  match v, rest with
  | .datetime ⟨some date, none, none⟩, ' ' :: after =>
    match timeAndOffset? (after.takeWhile isBareScalarChar) with
    | some (time, offset) =>
      (.datetime ⟨some date, some time, offset⟩, after.dropWhile isBareScalarChar)
    | none => (v, rest)
  | _, _ => (v, rest)

/-- Reads a bare scalar off the front of a text. -/
def scalar? (cs : List Char) : Option (Value × List Char) :=
  (bare? (cs.takeWhile isBareScalarChar)).map fun v =>
    joinTime v (cs.dropWhile isBareScalarChar)

end Toml
end FontPreferences
