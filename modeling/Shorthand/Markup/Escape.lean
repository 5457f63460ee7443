import Shorthand.Text.Basic

/-!
# Escaping

Attribute values stand between quotation marks, so the characters that could end the value
or the tag are written as character references. The main statement says that an escaped
text holds neither quotation marks nor angle brackets.
-/

namespace Shorthand.Markup

/-- A character as it is written inside an attribute value. -/
def escapeChar (c : Char) : Text :=
  if c = '&' then "&amp;".toList
  else if c = '<' then "&lt;".toList
  else if c = '>' then "&gt;".toList
  else if c = '"' then "&quot;".toList
  else if c = '\'' then "&#x27;".toList
  else [c]

/-- A text as it is written inside an attribute value. -/
def escape (s : Text) : Text := s.flatMap escapeChar

private theorem mem_escapeChar {c d : Char} (h : d ∈ escapeChar c) :
    d ≠ '"' ∧ d ≠ '\'' ∧ d ≠ '<' ∧ d ≠ '>' := by
  unfold escapeChar at h
  repeat' split at h
  all_goals simp at h
  case isFalse.isFalse.isFalse.isFalse.isFalse =>
    subst h
    simp_all
  all_goals rcases h with rfl | h
  all_goals simp_all
  all_goals rcases h with rfl | rfl | rfl | rfl | rfl <;> decide

/-- An escaped text holds no quotation mark, apostrophe or angle bracket. -/
theorem mem_escape {s : Text} {d : Char} (h : d ∈ escape s) :
    d ≠ '"' ∧ d ≠ '\'' ∧ d ≠ '<' ∧ d ≠ '>' := by
  obtain ⟨c, -, hd⟩ := List.mem_flatMap.mp h
  exact mem_escapeChar hd

end Shorthand.Markup
