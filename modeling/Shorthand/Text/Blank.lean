import Shorthand.Text.Ranges

/-!
# Blank characters

Blanks are the white space of Unicode together with the four information separators
U+001C to U+001F. Trimming removes them from both ends of a text.
-/

namespace Shorthand.Text

/-- The code points of the blank characters. -/
def blankRanges : Ranges :=
  [(0x09, 0x0D), (0x1C, 0x20), (0x85, 0x85), (0xA0, 0xA0), (0x1680, 0x1680), (0x2000, 0x200A),
    (0x2028, 0x2029), (0x202F, 0x202F), (0x205F, 0x205F), (0x3000, 0x3000)]

/-- Whether a character is blank. -/
def isBlank (c : Char) : Bool := blankRanges.contains c

/-- Whether a text holds no other character than blanks. -/
def isBlankText (s : Text) : Bool := s.all isBlank

/-- The text without its leading blanks. -/
def trimStart (s : Text) : Text := s.dropWhile isBlank

/-- The text without its trailing blanks. -/
def trimEnd (s : Text) : Text := (s.reverse.dropWhile isBlank).reverse

/-- The text without its leading and trailing blanks. -/
def trim (s : Text) : Text := trimEnd (trimStart s)

/-- The ASCII space is blank. -/
theorem isBlank_space : isBlank ' ' = true := by decide

/-- A text that is not blank stays so when more text follows. -/
theorem isBlankText_append_left {s : Text} (h : isBlankText s = false) (rest : Text) :
    isBlankText (s ++ rest) = false := by
  rw [isBlankText] at h ⊢
  rw [List.all_append, h, Bool.false_and]

end Shorthand.Text
