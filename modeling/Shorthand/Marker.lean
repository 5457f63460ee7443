import Shorthand.Text.Basic

/-!
# Marks of the shorthand

The characters with a meaning of their own. A hash or a dot begins an id or a class, a
percent sign stands for something filled in later.
-/

namespace Shorthand

/-- The two characters that begin a decoration without brackets. -/
inductive Marker where
  | hash
  | dot
  deriving DecidableEq, Repr

namespace Marker

/-- The character of a marker. -/
def char : Marker → Char
  | .hash => '#'
  | .dot => '.'

/-- The marker that a character is, if it is one. -/
def ofChar? (c : Char) : Option Marker :=
  if c = '#' then some .hash else if c = '.' then some .dot else none

/-- Reading the character of a marker gives the marker, and nothing else does. -/
theorem ofChar?_eq_some_iff {c : Char} {m : Marker} : ofChar? c = some m ↔ c = m.char := by
  by_cases hash : c = '#'
  · subst hash; cases m <;> simp [ofChar?, char]
  · by_cases dot : c = '.'
    · subst dot; cases m <;> simp [ofChar?, char]
    · cases m <;> simp [ofChar?, char, hash, dot]

/-- The exact characters that are no marker. -/
theorem ofChar?_eq_none_iff {c : Char} : ofChar? c = none ↔ c ≠ '#' ∧ c ≠ '.' := by
  by_cases hash : c = '#' <;> by_cases dot : c = '.' <;> simp [ofChar?, hash, dot]

end Marker

/-- The mark that stands for an argument or for the content built so far. -/
def placeholderMark : Char := '%'

/-- The character that begins an attribute in brackets. -/
def openBracket : Char := '['

/-- The character that ends an attribute in brackets. -/
def closeBracket : Char := ']'

end Shorthand
