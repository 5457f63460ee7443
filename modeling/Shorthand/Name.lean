import Shorthand.Text.Blank
import Shorthand.Text.Word
import Shorthand.Fault

/-!
# Names and runs

Tag and attribute names are written into markup as they stand, so they are limited to word
characters, colons and hyphens. The value behind a hash or a dot is a run of word
characters, hyphens and ASCII spaces.
-/

namespace Shorthand

open Text

/-- Whether a character may stand in a tag or attribute name. -/
def isNameChar (c : Char) : Bool := isWord c || c == ':' || c == '-'

/-- Whether a text is a name: one or more name characters. -/
def isName (s : Text) : Bool := !s.isEmpty && s.all isNameChar

/-- Whether a character may stand in the value behind a hash or a dot. -/
def isRunChar (c : Char) : Bool := isWord c || c == '-' || c == ' '

/-- Accept a name, or tell the location in which it is none. -/
def checkName (role : NameRole) (name selector segment : Text) (offset? : Option Int) :
    Except Malformed Text :=
  if isName name then .ok name
  else .error ⟨selector, .invalidName role name, some ⟨some selector, some segment, offset?⟩⟩

/-- A name is a non-empty text of name characters. -/
theorem isName_iff {s : Text} : isName s = true ↔ s ≠ [] ∧ ∀ c ∈ s, isNameChar c = true := by
  simp [isName]

section Check

variable {name : Text} (role : NameRole) (selector segment : Text) (offset? : Option Int)

/-- A name is accepted as it stands. -/
theorem checkName_of_isName (h : isName name = true) :
    checkName role name selector segment offset? = .ok name := if_pos h

/-- A text that is no name is reported in the segment and the selector. -/
theorem checkName_of_not_isName (h : isName name = false) :
    checkName role name selector segment offset? =
      .error ⟨selector, .invalidName role name, some ⟨some selector, some segment, offset?⟩⟩ :=
  if_neg (by rw [h]; exact Bool.false_ne_true)

end Check

end Shorthand
