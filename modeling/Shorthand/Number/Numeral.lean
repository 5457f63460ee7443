import Shorthand.Number.Decimal
import Shorthand.Text.Blank
import Shorthand.Text.Digit

/-!
# Numerals as they are written

A numeral may stand between blanks, use the decimal digits of any script, and separate
digits by single underscores. Its plain form has none of this.
-/

namespace Shorthand.Number

open Text

/-- A character with the decimal digits of every script turned into ASCII digits. -/
def asciiDigit (c : Char) : Char :=
  match digitValue? c with
  | some d => Nat.digitChar d
  | none => c

/-- Remove single underscores between digits and refuse all others, where `afterDigit` tells
whether a digit stands in front of the text. -/
def dropSeparators (afterDigit : Bool) : Text → Option Text
  | [] => some []
  | '_' :: c :: rest =>
    if afterDigit && c.isDigit then (dropSeparators true rest).map (c :: ·) else none
  | c :: rest => if c = '_' then none else (dropSeparators c.isDigit rest).map (c :: ·)

/-- The plain form of a numeral, if its underscores stand where they may. -/
def plainNumeral? (s : Text) : Option Text := dropSeparators false ((trim s).map asciiDigit)

end Shorthand.Number
