import FontPreferences.Binary64
import FontPreferences.Text.Digits

/-
Decimal text of binary64 numbers.

* `read?` reads a decimal numeral, rounding its exact value once;
* `text` writes the fewest digits that read back, in positional notation, so `19.0` is `19` and
  `1e21` is written with all of its zeros.
-/
namespace FontPreferences
namespace Binary64

/-- The power `10 ^ e` for an exponent of either sign. -/
def tenPow : Int → Rat
  | .ofNat n => (Nat.pow 10 n : Rat)
  | .negSucc n => 1 / (Nat.pow 10 (n + 1) : Rat)

/-- How many decimal digits a positive number has; zero has none. -/
def digitCount (n : Nat) : Nat :=
  if n = 0 then 0 else (Nat.toDigits 10 n).length

/-- The number `digits * 10 ^ e`, rounded.  Sizes far outside the format are settled by counting
digits, so no huge power is computed. -/
def ofDecimal (negative : Bool) (digits : Nat) (e : Int) : Binary64 :=
  let size := digitCount digits + e
  let magnitude : Binary64 :=
    if digits = 0 ∨ size < -330 then .finite 0
    else if 310 < size then .infinite false
    else ofRat (digits * tenPow e)
  if negative then magnitude.neg else magnitude

/-- Splits the leading decimal digits off. -/
def spanDigits (cs : List Char) : List Char × List Char :=
  (cs.takeWhile Char.isDigit, cs.dropWhile Char.isDigit)

/-- Reads an unsigned numeral: digits around an optional point, at least one of them, and an
optional exponent. -/
def readNumeral? (negative : Bool) (cs : List Char) : Option Binary64 :=
  let (whole, rest) := spanDigits cs
  let (part, rest) := match rest with
    | '.' :: rest => spanDigits rest
    | rest => ([], rest)
  if whole.isEmpty && part.isEmpty then none
  else (Text.readExponent? rest).map fun e =>
    ofDecimal negative (Text.valueIn 10 (whole ++ part)) (e.getD 0 - part.length)

/-- Reads a number: an optional sign, then a numeral or, in any case, `inf`, `infinity` or `nan`. -/
def read? (s : String) : Option Binary64 :=
  let (negative, cs) := Text.splitSign s.toList
  let word := String.ofList (cs.map Char.toLower)
  if word = "inf" ∨ word = "infinity" then some (.infinite negative)
  else if word = "nan" then some .nan
  else readNumeral? negative cs

/-- The exponent `k` with `10 ^ (k - 1) ≤ q < 10 ^ k`, for `0 < q`. -/
def decimalExponent (q : Rat) : Int :=
  let k := (digitCount q.num.natAbs : Int) - digitCount q.den
  if tenPow k ≤ q then k + 1 else k

/-- Whether a rational rounds to the positive number `q` of the format: it lies between the
midpoints to the two neighbours, which themselves count when the significand of `q` is even. -/
def roundsTo (q r : Rat) : Bool :=
  let above := spacing q
  let below := if q = twoPow (exponent q) ∧ -1022 < exponent q then above / 2 else above
  let low := q - below / 2
  let high := q + above / 2
  if (q / above).floor % 2 = 0 then low ≤ r && r ≤ high else low < r && r < high

/-- The best numeral of `n` significant digits that reads back as `q`, as its digits and their
power of ten; of two equally close ones the greater. -/
def shortWith? (q : Rat) (n : Nat) : Option (Nat × Int) :=
  let e := decimalExponent q - n
  let grid := tenPow e
  let d := (q / grid).floor.toNat
  let low := roundsTo q (d * grid)
  let high := roundsTo q ((d + 1 : Nat) * grid)
  if low && (!high || q - d * grid < (d + 1 : Nat) * grid - q) then some (d, e)
  else if high then some (d + 1, e)
  else none

/-- The fewest digits that read back as the positive number `q`, and their power of ten.  Seventeen
always suffice. -/
def shortest (q : Rat) : Nat × Int :=
  ((List.range 17).findSome? fun n => shortWith? q (n + 1)).getD (0, 0)

/-- Positional notation of `digits * 10 ^ e`, without trailing zeros after the point. -/
def positional (digits : Nat) (e : Int) : String :=
  let ds := Nat.toDigits 10 digits
  if 0 ≤ e then String.ofList (ds ++ List.replicate e.toNat '0')
  else
    let places := (-e).toNat
    let padded := List.replicate (places + 1 - ds.length) '0' ++ ds
    let whole := padded.take (padded.length - places)
    let part := (padded.drop (padded.length - places)).reverse.dropWhile (· == '0') |>.reverse
    String.ofList (if part.isEmpty then whole else whole ++ '.' :: part)

/-- Positional text of a positive number. -/
def magnitudeText (q : Rat) : String :=
  let (digits, e) := shortest q
  positional digits e

/-- The text of a number: the fewest digits that read back. -/
def text : Binary64 → String
  | .nan => "NaN"
  | .infinite negative => if negative then "-inf" else "inf"
  | .negativeZero => "-0"
  | .finite q =>
    if q = 0 then "0"
    else if q < 0 then "-" ++ magnitudeText (-q)
    else magnitudeText q

end Binary64
end FontPreferences
