import Shorthand.Proofs.Text.Stretch

/-!
# Spaces around a text

What a text becomes when spaces are added among the blanks around it. The main statements say that
only spaces are added, and that nothing is changed in what is left once the text is trimmed.
-/

namespace Shorthand.Text

/-- Whether the second text is the first one with spaces added somewhere. -/
inductive Spaced : Text → Text → Prop
  | nil : Spaced [] []
  | keep (c : Char) {s t : Text} (h : Spaced s t) : Spaced (c :: s) (c :: t)
  | add {s t : Text} (h : Spaced s t) : Spaced s (' ' :: t)

namespace Spaced

variable {s t : Text}

/-- No space has to be added. -/
protected theorem refl : (s : Text) → Spaced s s
  | [] => nil
  | c :: s => keep c (Spaced.refl s)

/-- Spaces may be added in front of a text. -/
theorem replicate_append (n : Nat) (s : Text) : Spaced s (List.replicate n ' ' ++ s) := by
  induction n with
  | zero => exact .refl s
  | succ n ih => exact add ih

/-- Spaces may be added behind a text. -/
theorem append_replicate (s : Text) (n : Nat) : Spaced s (s ++ List.replicate n ' ') := by
  induction s with
  | nil => simpa using replicate_append n []
  | cons c s ih => exact keep c ih

/-- Only spaces are added. -/
theorem mem_or_eq {c : Char} (h : Spaced s t) (hc : c ∈ t) : c ∈ s ∨ c = ' ' := by
  induction h with
  | nil => exact .inl hc
  | keep d h ih =>
    rcases List.mem_cons.mp hc with rfl | hc
    · exact .inl (List.mem_cons_self ..)
    · exact (ih hc).imp_left (List.mem_cons_of_mem d)
  | add h ih =>
    rcases List.mem_cons.mp hc with rfl | hc
    · exact .inr rfl
    · exact ih hc

/-- Nothing is taken away. -/
theorem length_le (h : Spaced s t) : s.length ≤ t.length := by
  induction h with
  | nil => exact Nat.le_refl _
  | keep c h ih => exact Nat.succ_le_succ ih
  | add h ih => exact Nat.le_succ_of_le ih

end Spaced

/-- Whether the second text is the first one with spaces added in front of what is left of it once
it is trimmed, and behind that. -/
def SpacedAround (s t : Text) : Prop :=
  ∃ left right left' right', (∀ c ∈ left, isBlank c = true) ∧ (∀ c ∈ right, isBlank c = true) ∧
    s = left ++ (trim s ++ right) ∧ t = left' ++ (trim s ++ right') ∧
      Spaced left left' ∧ Spaced right right'

/-- A text is what is left of it once it is trimmed, between blanks. -/
theorem exists_blanks_around (s : Text) : ∃ left right, (∀ c ∈ left, isBlank c = true) ∧
    (∀ c ∈ right, isBlank c = true) ∧ s = left ++ (trim s ++ right) := by
  have hstart := isStretch_takeWhile isBlank s
  have hend := isStretch_takeWhile isBlank (trimStart s).reverse
  refine ⟨s.takeWhile isBlank, ((trimStart s).reverse.takeWhile isBlank).reverse, hstart.1,
    fun c hc ↦ hend.1 c (List.mem_reverse.mp hc), ?_⟩
  rw [trim, trimEnd, ← List.reverse_append, List.takeWhile_append_dropWhile, List.reverse_reverse,
    takeWhile_append_trimStart]

namespace SpacedAround

variable {s t : Text}

/-- Spaces may be added at both ends. -/
theorem of_eq (i j : Nat) (h : t = List.replicate i ' ' ++ (s ++ List.replicate j ' ')) :
    SpacedAround s t := by
  obtain ⟨left, right, hleft, hright, hs⟩ := exists_blanks_around s
  refine ⟨left, right, _, _, hleft, hright, hs, ?_, .replicate_append i left,
    .append_replicate right j⟩
  rw [h]
  conv => lhs; rw [hs]
  simp only [List.append_assoc]

/-- No space has to be added. -/
protected theorem refl (s : Text) : SpacedAround s s := of_eq 0 0 (by simp)

/-- What is left once the text is trimmed does not change. -/
theorem trim_eq (h : SpacedAround s t) : trim t = trim s := by
  obtain ⟨left, right, left', right', hleft, hright, -, rfl, hspaced, hspaced'⟩ := h
  have hblank : ∀ {a b : Text}, (∀ c ∈ a, isBlank c = true) → Spaced a b →
      ∀ c ∈ b, isBlank c = true := by
    intro a b ha hab c hc
    rcases hab.mem_or_eq hc with hmem | rfl
    · exact ha c hmem
    · exact isBlank_space
  rw [trim_append_left _ (hblank hleft hspaced), trim_append_right _ (hblank hright hspaced')]
  exact trim_eq_self (head?_trim s) (getLast?_trim s)

/-- Only spaces are added. -/
theorem mem_or_eq {c : Char} (h : SpacedAround s t) (hc : c ∈ t) : c ∈ s ∨ c = ' ' := by
  obtain ⟨left, right, left', right', -, -, hs, rfl, hspaced, hspaced'⟩ := h
  rw [hs]
  simp only [List.mem_append] at hc ⊢
  rcases hc with hc | hc | hc
  · exact (hspaced.mem_or_eq hc).imp_left .inl
  · exact .inl (.inr (.inl hc))
  · exact (hspaced'.mem_or_eq hc).imp_left (.inr ∘ .inr)

/-- No other character comes in. -/
theorem not_mem {c : Char} (h : SpacedAround s t) (hspace : c ≠ ' ') (hc : c ∉ s) : c ∉ t :=
  fun hmem ↦ (h.mem_or_eq hmem).elim hc hspace

/-- Nothing is taken away. -/
theorem ne_nil (h : SpacedAround s t) (hs : s ≠ []) : t ≠ [] := by
  obtain ⟨left, right, left', right', -, -, heq, rfl, hspaced, hspaced'⟩ := h
  have hle := hspaced.length_le
  have hle' := hspaced'.length_le
  have hpos := List.length_pos_iff.mpr hs
  have hlength := congrArg List.length heq
  rw [← List.length_pos_iff]
  simp only [List.length_append] at hlength ⊢
  omega

end SpacedAround
end Shorthand.Text
