import Shorthand.Marker
import Shorthand.Text.Blank

/-!
# Cutting at separators

A text is cut at its separators, except at those inside brackets. Brackets nest, and a
closing bracket without an opening one changes nothing. Every part keeps its position, and
blank parts are dropped.
-/

namespace Shorthand

open Text

/-- A part of a text, with its position in the whole. -/
structure Part where
  text : Text
  offset : Int
  deriving DecidableEq, Repr

namespace Part

/-- The number of open brackets behind a character. -/
def depthAfter (depth : Nat) (c : Char) : Nat :=
  if c = openBracket then depth + 1 else if c = closeBracket then depth - 1 else depth

/-- Whether a character cuts the text, where `depth` brackets are open in front of it. -/
def cuts (isSeparator : Char → Bool) (depth : Nat) (c : Char) : Bool :=
  depth == 0 && c != openBracket && isSeparator c

/-- What a text holds up to the first cut, and the parts behind that cut. The text begins at
`offset`, and `depth` brackets are open in front of it. -/
def split (isSeparator : Char → Bool) : Nat → Int → Text → Text × List Part
  | _, _, [] => ([], [])
  | depth, offset, c :: rest =>
    if cuts isSeparator depth c then
      let (first, others) := split isSeparator 0 (offset + 1) rest
      ([], ⟨first, offset + 1⟩ :: others)
    else
      let (first, others) := split isSeparator (depthAfter depth c) (offset + 1) rest
      (c :: first, others)

/-- All parts of a text that begins at `offset`, blank ones included. -/
def all (isSeparator : Char → Bool) (offset : Int) (s : Text) : List Part :=
  let (first, others) := split isSeparator 0 offset s
  ⟨first, offset⟩ :: others

/-- The parts of a text that are not blank. -/
def cut (isSeparator : Char → Bool) (offset : Int) (s : Text) : List Part :=
  (all isSeparator offset s).filter fun part ↦ !isBlankText part.text

/-- An opening bracket never cuts. -/
theorem cuts_openBracket (isSeparator : Char → Bool) (depth : Nat) :
    cuts isSeparator depth openBracket = false := by
  simp [cuts]

end Part
end Shorthand
