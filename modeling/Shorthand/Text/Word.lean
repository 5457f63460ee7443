import Shorthand.Text.WordRanges

/-!
# Word characters

A word character is a letter, a number of any kind, or the underscore. Marks that combine
with letters, emoji and joining punctuation are not word characters.
-/

namespace Shorthand.Text

/-- Whether a character is a letter, a number or the underscore. -/
def isWord (c : Char) : Bool :=
  if c.toNat < 0x80 then c.isAlphanum || c == '_' else wordRanges.contains c

/-- The code points of the ASCII letters and digits. -/
theorem toNat_of_isAlphanum {c : Char} (h : c.isAlphanum = true) :
    65 ≤ c.toNat ∧ c.toNat ≤ 90 ∨ 97 ≤ c.toNat ∧ c.toNat ≤ 122 ∨
      48 ≤ c.toNat ∧ c.toNat ≤ 57 := by
  have hclass : (c.isUpper || c.isLower || c.isDigit) = true := h
  rw [Bool.or_eq_true, Bool.or_eq_true, or_assoc] at hclass
  rcases hclass with hupper | hlower | hdigit
  · exact .inl (of_decide_eq_true hupper)
  · exact .inr (.inl ((Bool.and_eq_true _ _ ▸ hlower).imp of_decide_eq_true of_decide_eq_true))
  · exact .inr (.inr ((Bool.and_eq_true _ _ ▸ hdigit).imp of_decide_eq_true of_decide_eq_true))

end Shorthand.Text
