import Shorthand.Number.Binary64

/-!
# Shortest decimals

Every finite floating point number lies inside an interval of reals that round to it. Its
shortest decimal is the one with the fewest significant digits in that interval and, among
those, the nearest to the number. A decimal grid meets the interval only if one of the two
grid points around the number does, so the two neighbours on each grid decide.
-/

namespace Shorthand.Number

/-- A positive decimal: its digits, and the power of ten of the first of them. -/
structure Decimal where
  digits : Text
  exponent : Int
  deriving DecidableEq, Repr

/-- The reals that round to a floating point number: its value, the two ends of the
interval, all over one denominator, and whether the ends belong to the interval. -/
structure Rounding where
  low : Nat
  value : Nat
  high : Nat
  den : Nat
  closed : Bool

namespace Rounding

/-- The interval of `significand * 2 ^ exponent`: half a unit on either side, and a quarter
below a power of two, whose lower neighbour is nearer. The ends round to even. -/
def ofFinite (significand : Nat) (exponent : Int) : Rounding :=
  let up := Nat.pow 2 exponent.toNat
  let below := if significand = Nat.pow 2 52 ∧ -1074 < exponent then 1 else 2
  { low := (4 * significand - below) * up
    value := 4 * significand * up
    high := (4 * significand + 2) * up
    den := 4 * Nat.pow 2 (-exponent).toNat
    closed := significand % 2 = 0 }

/-- Whether `num` over the denominator of the interval, times `scale`, lies inside. -/
def holds (r : Rounding) (scale num : Nat) : Bool :=
  if r.closed then r.low * scale ≤ num && num ≤ r.high * scale
  else r.low * scale < num && num < r.high * scale

/-- The power of ten of the first digit of the value. -/
def leadingExponent (r : Rounding) : Int :=
  ((digitsText (r.value * Nat.pow 10 400 / r.den)).length : Int) - 401

/-- The point nearest to the value among those of the decimal grid with `count` significant
digits that lie inside the interval, in units of the last of these digits. -/
def onGrid? (r : Rounding) (count : Nat) : Option Nat :=
  let places : Int := (count : Int) - 1 - r.leadingExponent
  let scale := Nat.pow 10 places.toNat
  let unit := r.den * Nat.pow 10 (-places).toNat
  let below := r.value * scale / unit
  let excess := r.value * scale - below * unit
  let roundsUp := unit < 2 * excess || (unit == 2 * excess && below % 2 == 1)
  match r.holds scale (below * unit), r.holds scale ((below + 1) * unit) with
  | true, true => some (if roundsUp then below + 1 else below)
  | true, false => some below
  | false, true => some (below + 1)
  | false, false => none

/-- The digits of a grid point without trailing zeros, at the power of ten of the first. -/
def decimalOf (r : Rounding) (count point : Nat) : Decimal :=
  let digits := digitsText point
  { digits := (digits.reverse.dropWhile (· == '0')).reverse
    exponent := r.leadingExponent + digits.length - count }

/-- The shortest decimal inside the interval; seventeen digits always reach it. -/
def shortest (r : Rounding) : Decimal :=
  let found := (List.range' 1 17).findSome? fun count ↦
    (r.onGrid? count).map (r.decimalOf count)
  found.getD { digits := ['0'], exponent := 0 }

end Rounding

/-- The shortest decimal that is read back as `significand * 2 ^ exponent`. -/
def shortestDecimal (significand : Nat) (exponent : Int) : Decimal :=
  if significand = 0 then { digits := ['0'], exponent := 0 }
  else (Rounding.ofFinite significand exponent).shortest

end Shorthand.Number
