import Shorthand.Text.PrintableRanges

/-!
# Literals

A text among other values is written as a literal, between two marks. The mark itself, backslashes
and characters that cannot be printed are written as escapes.
-/

namespace Shorthand.Text

/-- Whether a character can be printed as it stands. -/
def isPrintable (c : Char) : Bool := printableRanges.contains c

/-- The mark at both ends of a literal: an apostrophe, or a quotation mark if the text holds
apostrophes but no quotation marks. -/
def literalMark (s : Text) : Char := if '\'' ∈ s ∧ '"' ∉ s then '"' else '\''

/-- A code point behind a backslash and a letter, in at least `width` hexadecimal digits. -/
def codeEscape (letter : Char) (width : Nat) (c : Char) : Text :=
  let digits := Nat.toDigits 16 c.toNat
  '\\' :: letter :: (List.replicate (width - digits.length) '0' ++ digits)

/-- A character between the marks of a literal. -/
def literalChar (mark c : Char) : Text :=
  if c = mark ∨ c = '\\' then ['\\', c]
  else if c = '\t' then "\\t".toList
  else if c = '\n' then "\\n".toList
  else if c = '\r' then "\\r".toList
  else if isPrintable c then [c]
  else if c.toNat < 0x100 then codeEscape 'x' 2 c
  else if c.toNat < 0x10000 then codeEscape 'u' 4 c
  else codeEscape 'U' 8 c

/-- The literal of a text. -/
def literal (s : Text) : Text :=
  literalMark s :: s.flatMap (literalChar (literalMark s)) ++ [literalMark s]

end Shorthand.Text
