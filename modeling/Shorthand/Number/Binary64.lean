import Shorthand.Number.Numeral

/-!
# Binary floating point numbers

Numbers of 64 bits: a sign, eleven bits of exponent and 52 bits of fraction. A finite
number stands for `significand * 2 ^ exponent`. A decimal numeral is read as the nearest
such number, and of two equally near ones as the one with the even significand.
-/

namespace Shorthand.Number

/-- A binary floating point number, held as its 64 bits. -/
structure Binary64 where
  bits : UInt64
  deriving DecidableEq, Repr

/-- The absolute value of a floating point number. -/
inductive Magnitude where
  | nan
  | infinite
  | finite (significand : Nat) (exponent : Int)
  deriving DecidableEq, Repr

namespace Binary64

-- Powers are written with `Nat.pow`: which instance `^` picks depends on what is imported.

/-- Whether the sign bit is set. -/
def isNegative (x : Binary64) : Bool := Nat.pow 2 63 ≤ x.bits.toNat

/-- The absolute value that the exponent and fraction bits encode. -/
def magnitude (x : Binary64) : Magnitude :=
  let fraction : Nat := x.bits.toNat % Nat.pow 2 52
  let field : Nat := x.bits.toNat / Nat.pow 2 52 % Nat.pow 2 11
  if field = 2047 then (if fraction = 0 then .infinite else .nan)
  else if field = 0 then .finite fraction (-1074)
  else .finite (Nat.pow 2 52 + fraction) (field - 1075)

/-- Whether the number is a zero of either sign. -/
def isZero (x : Binary64) : Bool :=
  match x.magnitude with
  | .finite 0 _ => true
  | _ => false

/-- A number from its sign and the 63 bits of its absolute value. -/
def ofParts (negative : Bool) (absolute : Nat) : Binary64 :=
  ⟨.ofNat (if negative then Nat.pow 2 63 + absolute else absolute)⟩

/-- The bits of the infinities without their sign. -/
def infinityBits : Nat := 0x7FF * Nat.pow 2 52

/-- The bits of the number that is not one, without its sign. -/
def nanBits : Nat := infinityBits + Nat.pow 2 51

/-- The whole number nearest to `num / den`, the even one if two are equally near. -/
def roundHalfEven (num den : Nat) : Nat :=
  let below := num / den
  match compare (2 * (num % den)) den with
  | .lt => below
  | .gt => below + 1
  | .eq => below + below % 2

/-- The quotient `num / den` in units of `2 ^ exponent`, as numerator and denominator. -/
def inUnits (num den : Nat) (exponent : Int) : Nat × Nat :=
  (num * Nat.pow 2 (-exponent).toNat, den * Nat.pow 2 exponent.toNat)

/-- The bits of the floating point number nearest to the positive quotient `num / den`. -/
def bitsOfRatio (num den : Nat) : Nat :=
  let low : Int := (num.log2 : Int) - den.log2 - 53
  let (n, d) := inUnits num den low
  let fitted := if n / d < Nat.pow 2 53 then low else low + 1
  let exponent := max fitted (-1074)
  let (n, d) := inUnits num den exponent
  min ((exponent + 1074).toNat * Nat.pow 2 52 + roundHalfEven n d) infinityBits

/-- The bits of the floating point number nearest to `digits * 10 ^ exponent`. Exponents
far outside the range of floating point numbers are decided without computing the power. -/
def bitsOfDecimal (digits : Nat) (exponent : Int) : Nat :=
  if digits = 0 then 0
  else if 400 < exponent then infinityBits
  else if exponent + (digitsText digits).length < -400 then 0
  else bitsOfRatio (digits * Nat.pow 10 exponent.toNat) (Nat.pow 10 (-exponent).toNat)

/-- Split a leading sign off: whether it was a minus, and the rest. -/
def readSign : Text → Bool × Text
  | '-' :: rest => (true, rest)
  | '+' :: rest => (false, rest)
  | s => (false, s)

/-- Read an unsigned numeral: digits, a point and digits, and a power of ten, the last two
optional. -/
def readUnsigned (s : Text) : Option Nat := do
  let whole := s.takeWhile Char.isDigit
  let afterWhole := s.dropWhile Char.isDigit
  let (fraction, afterFraction) := match afterWhole with
    | '.' :: rest => (rest.takeWhile Char.isDigit, rest.dropWhile Char.isDigit)
    | rest => ([], rest)
  guard (whole ++ fraction ≠ [])
  let scale ← match afterFraction with
    | [] => some (0 : Int)
    | mark :: rest => do
      guard (mark = 'e' ∨ mark = 'E')
      let (negative, power) := readSign rest
      guard (power ≠ [] ∧ power.all Char.isDigit)
      let n : Int := ofDigits power
      some (if negative then -n else n)
  some (bitsOfDecimal (ofDigits (whole ++ fraction)) (scale - fraction.length))

/-- Read the plain form of a number: a decimal numeral, `inf` or `nan`, each with an optional
sign. -/
def ofPlain? (s : Text) : Option Binary64 :=
  let (negative, unsigned) := readSign s
  let word := unsigned.map Char.toLower
  let absolute :=
    if word = "inf".toList ∨ word = "infinity".toList then some infinityBits
    else if word = "nan".toList then some nanBits
    else readUnsigned unsigned
  absolute.map (ofParts negative)

/-- Read a number as it is written. -/
def ofText? (s : Text) : Option Binary64 := (plainNumeral? s).bind ofPlain?

end Binary64
end Shorthand.Number
