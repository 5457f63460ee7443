import Shorthand.Text.Basic

/-!
# Decimal numerals

Whole numbers in decimal digits: writing without leading zeros, with a minus sign in front
of negative numbers, and reading a stretch of digits back.
-/

namespace Shorthand.Number

/-- The decimal digits of a natural number. -/
def digitsText (n : Nat) : Text := Nat.toDigits 10 n

/-- The decimal numeral of a whole number. -/
def integerText : Int → Text
  | .ofNat n => digitsText n
  | .negSucc n => '-' :: digitsText (n + 1)

/-- The number that a stretch of digits denotes, most significant digit first. -/
def ofDigits (digits : Text) : Nat :=
  digits.foldl (fun n c ↦ 10 * n + (c.toNat - '0'.toNat)) 0

end Shorthand.Number
