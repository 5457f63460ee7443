import Shorthand.Text.Basic

/-!
# Lines of a text

A text is cut into lines at its line breaks. The main statements say what the lines of texts one
below the other are, and that the last line of a text does not depend on what is in front of it if
there are others.
-/

namespace Shorthand.Text

/-- The lines of a text. -/
def lines (s : Text) : List Text := s.splitOn '\n'

/-- The last line of a text. -/
def lastLine (s : Text) : Text := (lines s).getLast (List.splitOn_ne_nil '\n' s)

variable {s t : Text}

/-- A text without line breaks is its only line. -/
theorem lines_of_not_mem (h : '\n' ∉ s) : lines s = [s] := List.splitOn_eq_singleton h

/-- A line break ends a line. -/
theorem lines_append_cons (s t : Text) : lines (s ++ '\n' :: t) = lines s ++ lines t :=
  List.splitOn_append_cons_self s t

/-- The lines of a text are its last one behind the others. -/
theorem exists_lines_eq (s : Text) : ∃ front, lines s = front ++ [lastLine s] :=
  ⟨_, (List.dropLast_concat_getLast _).symm⟩

/-- What ends the lines of a text is its last line. -/
theorem lastLine_eq {front : List Text} (h : lines s = front ++ [t]) : lastLine s = t := by
  simp only [lastLine, h, List.getLast_concat]

/-- A text of one line is its last line. -/
theorem lastLine_of_not_mem (h : '\n' ∉ s) : lastLine s = s := by
  have hlines : lines s = [] ++ [s] := lines_of_not_mem h
  exact lastLine_eq hlines

/-- What stands in front of a text of several lines does not matter to the last one. -/
theorem lastLine_append (front : Text) (h : '\n' ∈ s) : lastLine (front ++ s) = lastLine s := by
  obtain ⟨a, b, rfl⟩ := List.append_of_mem h
  obtain ⟨others, hb⟩ := exists_lines_eq b
  have hlines : ∀ a, lines (a ++ '\n' :: b) = (lines a ++ others) ++ [lastLine b] := by
    intro a
    rw [lines_append_cons, hb, List.append_assoc]
  rw [← List.append_assoc, lastLine_eq (hlines (front ++ a)), lastLine_eq (hlines a)]

/-- Texts one below the other have the lines of all of them. -/
theorem lines_intercalate {texts : List Text} (h : texts ≠ []) :
    lines (['\n'].intercalate texts) = texts.flatMap lines := by
  induction texts with
  | nil => exact absurd rfl h
  | cons text texts ih =>
    cases texts with
    | nil => simp
    | cons next texts =>
      have hothers := ih (List.cons_ne_nil _ _)
      rw [List.intercalate_cons_of_ne_nil (List.cons_ne_nil _ _), List.append_assoc,
        List.singleton_append, lines_append_cons, hothers]
      rfl

end Shorthand.Text
