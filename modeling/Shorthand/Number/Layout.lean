import Shorthand.Number.Shortest

/-!
# Layout of floating point numbers

A layout says when a decimal is written positionally and when with a power of ten. Either
way the text is made of the shortest decimal's digits, so it reads back as the number.
-/

namespace Shorthand.Number

/-- How decimals are written: positionally from exponent `least` up to but not including
`beyond`, otherwise with an exponent of at least `exponentDigits` digits. -/
structure Layout where
  least : Int
  beyond : Int
  exponentDigits : Nat
  infinity : Text
  nan : Text

namespace Layout

/-- `text` behind as many copies of `pad` as its length lacks of `width`. -/
def padStart (width : Nat) (pad : Char) (text : Text) : Text :=
  List.replicate (width - text.length) pad ++ text

/-- Digits with a point behind the first `whole` of them and at least one digit after it. -/
def positional (digits : Text) (whole : Nat) : Text :=
  let padded := digits ++ List.replicate (whole + 1 - digits.length) '0'
  padded.take whole ++ '.' :: padded.drop whole

/-- The text of a positive decimal. -/
def decimalText (layout : Layout) (d : Decimal) : Text :=
  if layout.least ≤ d.exponent ∧ d.exponent < layout.beyond then
    let leading := List.replicate (-d.exponent).toNat '0'
    positional (leading ++ d.digits) (d.exponent.toNat + 1)
  else
    let mantissa := match d.digits with
      | first :: second :: rest => first :: '.' :: second :: rest
      | digits => digits
    let sign := if d.exponent < 0 then '-' else '+'
    mantissa ++ 'e' :: sign :: padStart layout.exponentDigits '0' (digitsText d.exponent.natAbs)

/-- The text of a floating point number. Only the number that is not one has no sign. -/
def text (layout : Layout) (x : Binary64) : Text :=
  let unsigned := match x.magnitude with
    | .nan => layout.nan
    | .infinite => layout.infinity
    | .finite significand exponent => layout.decimalText (shortestDecimal significand exponent)
  if x.isNegative ∧ x.magnitude ≠ .nan then '-' :: unsigned else unsigned

end Layout
end Shorthand.Number
