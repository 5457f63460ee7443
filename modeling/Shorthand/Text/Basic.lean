/-!
# Text

A text is the list of its code points. Lengths and offsets count list entries, so an
emoji is one position wide. The main statement says that cutting a text at a character
loses nothing but that character.
-/

namespace Shorthand

/-- Text as the list of its code points. -/
abbrev Text := List Char

namespace Text

/-- The part of `whole` that stands in front of its suffix `rest`. -/
def before (whole rest : Text) : Text := whole.take (whole.length - rest.length)

/-- The consumed part of a concatenation is its first operand. -/
@[simp] theorem before_append (first rest : Text) : before (first ++ rest) rest = first := by
  simp [before]

/-- Cut at the first `mark`: the text in front of it and, if it occurs, the text after it. -/
def cutAt (mark : Char) : Text → Text × Option Text
  | [] => ([], none)
  | c :: rest =>
    if c = mark then ([], some rest) else (c :: (cutAt mark rest).1, (cutAt mark rest).2)

/-- A text without the mark is its own first part. -/
theorem cutAt_of_not_mem {mark : Char} {s : Text} (h : mark ∉ s) : cutAt mark s = (s, none) := by
  induction s with
  | nil => rfl
  | cons c rest ih =>
    simp only [List.mem_cons, not_or] at h
    simp [cutAt, ih h.2, Ne.symm h.1]

/-- The first part ends where the mark first stands. -/
theorem cutAt_append {mark : Char} {name : Text} (value : Text) (h : mark ∉ name) :
    cutAt mark (name ++ mark :: value) = (name, some value) := by
  induction name with
  | nil => simp [cutAt]
  | cons c rest ih =>
    simp only [List.mem_cons, not_or] at h
    simp [cutAt, ih h.2, Ne.symm h.1]

/-- The parts put together again are the text. -/
theorem append_cutAt (mark : Char) (s : Text) :
    (cutAt mark s).1 ++ (cutAt mark s).2.elim [] (mark :: ·) = s := by
  induction s with
  | nil => rfl
  | cons c rest ih =>
    rw [cutAt]
    split
    · next h => simp [h]
    · exact congrArg (c :: ·) ih

/-- The first part never holds the mark. -/
theorem not_mem_cutAt (mark : Char) (s : Text) : mark ∉ (cutAt mark s).1 := by
  induction s with
  | nil => simp [cutAt]
  | cons c rest ih =>
    simp only [cutAt]
    split
    · simp
    · next h => simpa using ⟨Ne.symm h, ih⟩

end Text
end Shorthand
