/-
Binary64 numbers, with the rounding that their arithmetic uses.

A finite number is kept as the rational it stands for, so that a computation is a chain of exact
rational operations with `Binary64.nearest` after each one:

* `nearest` rounds a rational to the closest number of the format, ties to the even neighbour;
* `ofBits` and `toBits` read and write the sixty-four bit interchange form;
* `roundHalfAway` is the rounding to an integer that sends a half away from zero.

Design note: `nearest` puts no limit on the exponent.  A result of `2 ^ 1024` or more stands for an
overflow, which `Binary64.ofRat` turns into an infinity; arithmetic that stays far below that bound
may work on the rationals alone.
-/
namespace FontPreferences

/-- A number of the IEEE 754 binary64 format.  `finite` holds every finite number except negative
zero, which has no rational of its own. -/
inductive Binary64 where
  | nan
  | infinite (negative : Bool)
  | negativeZero
  | finite (value : Rat)
deriving DecidableEq, Repr, Inhabited

namespace Binary64

/-- The power `2 ^ e` for an exponent of either sign. -/
def twoPow : Int → Rat
  | .ofNat n => (Nat.pow 2 n : Rat)
  | .negSucc n => 1 / (Nat.pow 2 (n + 1) : Rat)

/-- The exponent `e` with `2 ^ e ≤ |q| < 2 ^ (e + 1)`, for `q ≠ 0`. -/
def exponent (q : Rat) : Int :=
  let e := (q.num.natAbs.log2 : Int) - q.den.log2
  if twoPow e ≤ q.abs then e else e - 1

/-- The distance between neighbouring numbers of the format around `q`: fifty-three significant
bits, and never less than `2 ^ -1074`. -/
def spacing (q : Rat) : Rat :=
  twoPow (max (exponent q) (-1022) - 52)

/-- The integer closest to `q`; of two equally close ones the even one. -/
def roundHalfEven (q : Rat) : Int :=
  let below := q.floor
  let rest := q - below
  if rest < 1 / 2 then below
  else if 1 / 2 < rest then below + 1
  else if below % 2 = 0 then below
  else below + 1

/-- The integer closest to `q`; of two equally close ones the one farther from zero. -/
def roundHalfAway (q : Rat) : Int :=
  if 0 ≤ q then (q + 1 / 2).floor else -(1 / 2 - q).floor

/-- The number of the format closest to `q`, ties to even, with no upper limit on its size. -/
def nearest (q : Rat) : Rat :=
  if q = 0 then 0 else roundHalfEven (q / spacing q) * spacing q

/-- The number that a result `q` of an operation becomes: the nearest one, or an infinity from
`2 ^ 1024` on. -/
def ofRat (q : Rat) : Binary64 :=
  let r := nearest q
  if twoPow 1024 ≤ r then .infinite false
  else if r ≤ -twoPow 1024 then .infinite true
  else .finite r

/-- The rational that a finite number stands for. -/
def toRat? : Binary64 → Option Rat
  | .finite q => some q
  | .negativeZero => some 0
  | _ => none

/-- Whether the number is neither an infinity nor NaN. -/
def isFinite (x : Binary64) : Bool :=
  x.toRat?.isSome

/-- The number with the opposite sign. -/
def neg : Binary64 → Binary64
  | .nan => .nan
  | .infinite s => .infinite (!s)
  | .negativeZero => .finite 0
  | .finite q => if q = 0 then .negativeZero else .finite (-q)

/-- Reads the interchange form: a sign bit, eleven exponent bits and fifty-two fraction bits. -/
def ofBits (bits : UInt64) : Binary64 :=
  let negative := bits >>> 63 = 1
  let biased := ((bits >>> 52) &&& 0x7ff).toNat
  let fraction := (bits &&& 0xfffffffffffff).toNat
  let signed (q : Rat) : Binary64 := if negative then (Binary64.finite q).neg else .finite q
  if biased = 2047 then
    if fraction = 0 then .infinite negative else .nan
  else if biased = 0 then
    signed (fraction * twoPow (-1074))
  else
    signed ((Nat.pow 2 52 + fraction : Nat) * twoPow ((biased : Int) - 1075))

/-- The bits of a nonnegative number of the format. -/
def magnitudeBits (q : Rat) : UInt64 :=
  if q = 0 then 0
  else
    let e := exponent q
    if e < -1022 then UInt64.ofNat (q * twoPow 1074).floor.toNat
    else
      let significand := (q * twoPow (52 - e)).floor.toNat
      UInt64.ofNat ((e + 1023).toNat * Nat.pow 2 52 + (significand - Nat.pow 2 52))

/-- Writes the interchange form; NaN is written as the quiet NaN without payload. -/
def toBits : Binary64 → UInt64
  | .nan => 0x7ff8000000000000
  | .infinite negative => if negative then 0xfff0000000000000 else 0x7ff0000000000000
  | .negativeZero => 0x8000000000000000
  | .finite q => if q < 0 then 0x8000000000000000 ||| magnitudeBits (-q) else magnitudeBits q

/-- Forces an integer into the range of the thirty-two bit integers. -/
def clampInt32 (n : Int) : Int32 :=
  Int32.ofInt (max Int32.minValue.toInt (min Int32.maxValue.toInt n))

end Binary64

end FontPreferences
