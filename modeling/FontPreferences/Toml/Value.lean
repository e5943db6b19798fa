/-
TOML values.
-/
namespace FontPreferences
namespace Toml

/-- A calendar date. -/
structure Date where
  year : Nat
  month : Nat
  day : Nat
deriving DecidableEq, Repr

/-- A time of day. -/
structure Time where
  hour : Nat
  minute : Nat
  second : Nat
  nanosecond : Nat
deriving DecidableEq, Repr

/-- An offset from universal time. -/
inductive Offset where
  | zulu
  | minutes (n : Int)
deriving DecidableEq, Repr

/-- A date, a time, or both with an optional offset. -/
structure DateTime where
  date : Option Date
  time : Option Time
  offset : Option Offset
deriving DecidableEq, Repr

/-- A number with leading zeros up to a width. -/
def padded (width n : Nat) : String :=
  let ds := Nat.toDigits 10 n
  String.ofList (List.replicate (width - ds.length) '0' ++ ds)

def Date.text (d : Date) : String :=
  padded 4 d.year ++ "-" ++ padded 2 d.month ++ "-" ++ padded 2 d.day

/-- The time with as many digits of the fraction as it needs. -/
def Time.text (t : Time) : String :=
  let clock := padded 2 t.hour ++ ":" ++ padded 2 t.minute ++ ":" ++ padded 2 t.second
  if t.nanosecond = 0 then clock
  else
    let ds := (padded 9 t.nanosecond).toList.reverse.dropWhile (· == '0')
    clock ++ "." ++ String.ofList ds.reverse

def Offset.text : Offset → String
  | .zulu => "Z"
  | .minutes n =>
    let sign := if n < 0 then "-" else "+"
    sign ++ padded 2 (n.natAbs / 60) ++ ":" ++ padded 2 (n.natAbs % 60)

/-- The date and time as one text. -/
def DateTime.text (d : DateTime) : String :=
  let date := (d.date.map Date.text).getD ""
  let between := if d.date.isSome && d.time.isSome then "T" else ""
  date ++ between ++ (d.time.map Time.text).getD "" ++ (d.offset.map Offset.text).getD ""

/-- A TOML value.  The value of a floating-point number is not kept. -/
inductive Value where
  | boolean (b : Bool)
  | integer (n : Int)
  | float
  | text (s : String)
  | datetime (d : DateTime)
  | array (items : List Value)
  | table (entries : List (String × Value))
deriving Inhabited

/-- The one key of a date or time that is taken for a table. -/
def datetimeKey : String := "$__toml_private_datetime"

namespace Value

/-- The text of a string. -/
def asText? : Value → Option String
  | .text s => some s
  | _ => none

/-- The entries of a table.  A date or time serves as a table that holds its text. -/
def asTable? : Value → Option (List (String × Value))
  | .table entries => some entries
  | .datetime d => some [(datetimeKey, .text d.text)]
  | _ => none

end Value
end Toml
end FontPreferences
