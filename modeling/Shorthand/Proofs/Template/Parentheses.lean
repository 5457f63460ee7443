import Shorthand.Proofs.Template.Holes

/-!
# Open parentheses

How many parentheses outside brackets are open behind an outline. The main statements say that more
of them are open if more are open in front, and that a well-formed group closes every parenthesis
that it opens.
-/

namespace Shorthand

open Text

/-- The number of parentheses that are open behind a lexeme, where `depth` are open in front of
it. -/
def Lexeme.groupsAfter (depth : Nat) : Lexeme → Nat
  | .plain c => if c = '(' then depth + 1 else if c = ')' then depth - 1 else depth
  | .bracket _ => depth

namespace Outline

/-- The number of parentheses that are open behind an outline, where `depth` are open in front of
it. -/
def groupsBehind (depth : Nat) (o : Outline) : Nat := o.foldl Lexeme.groupsAfter depth

/-- The number of opening parentheses outside brackets that are not closed. -/
def openGroups (o : Outline) : Nat := o.groupsBehind 0

/-- Whether an outline closes the parentheses that it opens, and no other ones. -/
def IsLevel (o : Outline) : Prop := ∀ depth, o.groupsBehind depth = depth

variable {o o' : Outline} {depth depth' : Nat} {s : Text} {c : Char}

/-- The first lexeme opens or closes a parenthesis in front of the others. -/
@[simp] theorem groupsBehind_cons (depth : Nat) (x : Lexeme) (o : Outline) :
    groupsBehind depth (x :: o) = groupsBehind (x.groupsAfter depth) o := rfl

/-- Parentheses are counted on from one outline to the one behind it. -/
@[simp] theorem groupsBehind_append (depth : Nat) (o o' : Outline) :
    groupsBehind depth (o ++ o') = groupsBehind (groupsBehind depth o) o' :=
  List.foldl_append

/-- No fewer parentheses are open behind an outline if more are open in front of it. -/
theorem groupsBehind_mono (h : depth ≤ depth') (o : Outline) :
    o.groupsBehind depth ≤ o.groupsBehind depth' := by
  induction o generalizing depth depth' with
  | nil => exact h
  | cons x o ih =>
    refine ih ?_
    cases x with
    | bracket body => exact h
    | plain c =>
      simp only [Lexeme.groupsAfter]
      split
      · omega
      · split <;> omega

/-- A parenthesis that is open behind an outline is open behind a longer one that ends with it. -/
theorem openGroups_le_append (o o' : Outline) : o'.openGroups ≤ (o ++ o').openGroups := by
  rw [openGroups, openGroups, groupsBehind_append]
  exact groupsBehind_mono (Nat.zero_le _) o'

/-- The empty outline opens and closes nothing. -/
theorem isLevel_nil : IsLevel [] := fun _ ↦ rfl

/-- A character that is no parenthesis opens and closes nothing. -/
theorem isLevel_cons (hopen : c ≠ '(') (hclose : c ≠ ')') (ho : o.IsLevel) :
    IsLevel (.plain c :: o) := by
  intro depth
  simp [Lexeme.groupsAfter, hopen, hclose, ho depth]

/-- Outlines one behind the other close what they open if both do. -/
theorem IsLevel.append (ho : o.IsLevel) (ho' : o'.IsLevel) : IsLevel (o ++ o') := by
  intro depth
  rw [groupsBehind_append, ho, ho']

/-- A text without parentheses opens and closes nothing. -/
theorem isLevel_plains (h : ∀ c ∈ s, c ≠ '(' ∧ c ≠ ')') : IsLevel (plains s) := by
  induction s with
  | nil => exact isLevel_nil
  | cons c s ih =>
    obtain ⟨⟨hopen, hclose⟩, hothers⟩ := List.forall_mem_cons.mp h
    exact isLevel_cons hopen hclose (ih hothers)

end Outline

namespace Template

open Grammar

private theorem isLevel_of_isStop {s : Text} (h : ∀ c ∈ s, isStop c = false) :
    Outline.IsLevel (Outline.plains s) :=
  Outline.isLevel_plains fun c hc ↦
    ⟨ne_of_isStop (h c hc) (by decide), ne_of_isStop (h c hc) (by decide)⟩

private theorem isLevel_marksOutline {marks : List Mark} {after : Text} (h : MarksFit after marks) :
    Outline.IsLevel (marksOutline marks) := by
  have hmarker : ∀ marker : Marker, marker.char ≠ '(' ∧ marker.char ≠ ')' := by
    intro marker
    cases marker <;> decide
  induction marks with
  | nil => exact Outline.isLevel_nil
  | cons mark marks ih =>
    obtain ⟨hmark, hmarks⟩ := h
    refine Outline.IsLevel.append ?_ (ih hmarks)
    cases mark with
    | hole marker =>
      exact Outline.isLevel_cons (hmarker marker).1 (hmarker marker).2
        (Outline.isLevel_cons (by decide) (by decide) Outline.isLevel_nil)
    | run marker value =>
      exact Outline.isLevel_cons (hmarker marker).1 (hmarker marker).2
        (isLevel_of_isStop (isStop_of_run hmark.2.1))
    | bracket body => exact fun _ ↦ rfl

private theorem isLevel_item {item : Item} (h : item.WellFormed)
    (hinside : ∀ inside, item.inner = .group inside → inside.outline.IsLevel) :
    Outline.IsLevel item.outline := by
  obtain ⟨run, marks, inner, blanks⟩ := item
  obtain ⟨hfit, -, hblanks, -⟩ := h
  have hinner : Outline.IsLevel inner.outline := by
    cases inner with
    | nothing => exact Outline.isLevel_nil
    | hole => exact fun _ ↦ rfl
    | group inside =>
      intro depth
      have hlevel := hinside inside rfl (depth + 1)
      simp [Inner.outline, Lexeme.groupsAfter, hlevel]
      rfl
  exact (((isLevel_of_isStop hfit.isStop_eq_false).append (isLevel_marksOutline hfit.2.2)).append
    hinner).append (isLevel_of_isStop (isStop_of_blanks hblanks))

/-- A well-formed group closes the parentheses that it opens. -/
theorem Grammar.Group.WellFormed.isLevel {group : Group} (h : group.WellFormed) :
    Outline.IsLevel group.outline := by
  induction group with
  | one item ihInside =>
    exact isLevel_item h fun inside hinner ↦ ihInside inside hinner (h.inside hinner)
  | more item others ihInside ihOthers =>
    obtain ⟨hitem, hothers⟩ := h
    have hfirst := isLevel_item hitem fun inside hinner ↦
      ihInside inside hinner (hitem.inside hinner)
    exact hfirst.append (Outline.isLevel_cons (by decide) (by decide) (ihOthers hothers))

end Template
end Shorthand
