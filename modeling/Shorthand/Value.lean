import Shorthand.Number.Layout
import Shorthand.Text.Literal

/-!
# Values

The values that callers hand in as arguments, contents and attribute values, and their
text. Where a value becomes content the missing value is written as nothing; elsewhere it
is written as a word like every other value. In a list texts are written as literals.
-/

namespace Shorthand

open Number

/-- A value handed in by a caller. -/
inductive Value where
  | null
  | boolean (b : Bool)
  | integer (n : Int)
  | real (x : Binary64)
  | text (t : Text)
  deriving DecidableEq, Repr

namespace Value

/-- Floating point numbers are positional from one ten-thousandth up to ten to the sixteenth,
and have at least two exponent digits elsewhere. -/
def realLayout : Layout where
  least := -4
  beyond := 16
  exponentDigits := 2
  infinity := "inf".toList
  nan := "nan".toList

/-- The text of a value, with words for the missing value and the truth values. -/
def toText : Value → Text
  | .null => "None".toList
  | .boolean true => "True".toList
  | .boolean false => "False".toList
  | .integer n => integerText n
  | .real x => realLayout.text x
  | .text t => t

/-- The text of a value in content position, where the missing value is nothing. -/
def contentText : Value → Text
  | .null => []
  | v => v.toText

/-- The text of a value in a list, where texts are literals. -/
def listedText : Value → Text
  | .text t => t.literal
  | v => v.toText

/-- The text of a list of values, between square brackets. -/
def listText (vs : List Value) : Text :=
  '[' :: ", ".toList.intercalate (vs.map listedText) ++ [']']

/-- Whether a value counts as present: not missing, not false, not zero and not empty. -/
def isTruthy : Value → Bool
  | .null => false
  | .boolean b => b
  | .integer n => n ≠ 0
  | .real x => !x.isZero
  | .text t => t ≠ []

/-- A text is its own text. -/
@[simp] theorem toText_text (t : Text) : (Value.text t).toText = t := rfl

end Value
end Shorthand
