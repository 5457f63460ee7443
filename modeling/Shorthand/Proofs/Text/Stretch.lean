import Mathlib.Data.List.TakeWhile
import Shorthand.Text.Blank
import Shorthand.Text.Word

/-!
# Stretches and trimming

A stretch is the longest run of characters of one kind at the front of a text. The main
statements say that a stretch is found by taking characters while they are of the kind, that
a text has one only, and that blanks at either end of a text do not survive trimming.
-/

namespace Shorthand.Text

/-- `run` holds characters with `p` only, and no such character begins the text behind it. -/
def IsStretch (p : Char → Bool) (run rest : Text) : Prop :=
  (∀ c ∈ run, p c = true) ∧ ∀ c ∈ rest.head?, p c = false

/-- The characters of the stretch are checked, and the one behind it. -/
instance (p : Char → Bool) (run rest : Text) : Decidable (IsStretch p run rest) :=
  have : Decidable (∀ c ∈ run, p c = true) := List.decidableBAll _ run
  have : Decidable (∀ c ∈ rest.head?, p c = false) := Option.decidableForallMem rest.head?
  inferInstanceAs (Decidable ((∀ c ∈ run, p c = true) ∧ ∀ c ∈ rest.head?, p c = false))

section Stretch

variable {p : Char → Bool} {run rest : Text}

/-- Every text begins with a stretch. -/
theorem isStretch_takeWhile (p : Char → Bool) (s : Text) :
    IsStretch p (s.takeWhile p) (s.dropWhile p) :=
  ⟨fun c hc ↦ List.all_eq_true.mp List.all_takeWhile c hc, fun c hc ↦ by
    simpa [Option.mem_def.mp hc] using List.head?_dropWhile_not p s⟩

/-- Taking while the property holds takes the stretch. -/
theorem IsStretch.takeWhile_eq (h : IsStretch p run rest) :
    (run ++ rest).takeWhile p = run := by
  rw [List.takeWhile_append_of_pos h.1]
  cases rest with
  | nil => simp
  | cons c rest => simp [h.2 c rfl]

/-- Dropping while the property holds leaves what is behind the stretch. -/
theorem IsStretch.dropWhile_eq (h : IsStretch p run rest) :
    (run ++ rest).dropWhile p = rest := by
  rw [List.dropWhile_append_of_pos h.1]
  cases rest with
  | nil => rfl
  | cons c rest => simp [h.2 c rfl]

/-- A text begins with one stretch only. -/
theorem IsStretch.append_inj {run' rest' : Text} (h : IsStretch p run rest)
    (h' : IsStretch p run' rest') (heq : run ++ rest = run' ++ rest') :
    run = run' ∧ rest = rest' := by
  have hrun := h.takeWhile_eq
  have hrest := h.dropWhile_eq
  rw [heq, h'.takeWhile_eq] at hrun
  rw [heq, h'.dropWhile_eq] at hrest
  exact ⟨hrun.symm, hrest.symm⟩

/-- Whether a stretch ends in front of a text depends on the first character of the text only. -/
theorem IsStretch.of_head {rest' : Text} (h : IsStretch p run rest)
    (hhead : ∀ c ∈ rest'.head?, c ∈ rest.head? ∨ p c = false) : IsStretch p run rest' := by
  refine ⟨h.1, fun c hc ↦ ?_⟩
  rcases hhead c hc with hmem | hend
  · exact h.2 c hmem
  · exact hend

end Stretch

/-! ### Blanks at the ends -/

variable {s blanks : Text}

/-- Blanks in front of a text are dropped. -/
theorem trimStart_append (s : Text) (h : ∀ c ∈ blanks, isBlank c = true) :
    trimStart (blanks ++ s) = trimStart s :=
  List.dropWhile_append_of_pos h

/-- Blanks in front of a text do not matter once it is trimmed. -/
theorem trim_append_left (s : Text) (h : ∀ c ∈ blanks, isBlank c = true) :
    trim (blanks ++ s) = trim s := by
  rw [trim, trimStart_append s h, trim]

/-- The stretch of blanks that trimming drops, and the text behind it. -/
theorem takeWhile_append_trimStart (s : Text) : s.takeWhile isBlank ++ trimStart s = s :=
  List.takeWhile_append_dropWhile

/-- Blanks behind a text do not matter once it is trimmed. -/
theorem trim_append_right (s : Text) (h : ∀ c ∈ blanks, isBlank c = true) :
    trim (s ++ blanks) = trim s := by
  have hreverse : ∀ c ∈ blanks.reverse, isBlank c = true := by simpa using h
  have hend : ∀ t : Text, trimEnd (t ++ blanks) = trimEnd t := by
    intro t
    rw [trimEnd, List.reverse_append, List.dropWhile_append_of_pos hreverse, trimEnd]
  by_cases hs : trimStart s = []
  · have hall : trimStart (s ++ blanks) = [] := by
      rw [← takeWhile_append_trimStart s, hs, List.append_nil, trimStart_append _
        (isStretch_takeWhile isBlank s).1]
      have hblanks : IsStretch isBlank blanks [] := ⟨h, by simp⟩
      simpa [trimStart] using hblanks.dropWhile_eq
    rw [trim, hall, trim, hs]
  · have happend : trimStart (s ++ blanks) = trimStart s ++ blanks := by
      conv => lhs; rw [← takeWhile_append_trimStart s, List.append_assoc]
      rw [trimStart_append _ (isStretch_takeWhile isBlank s).1]
      cases hc : trimStart s with
      | nil => exact absurd hc hs
      | cons c rest =>
        have hfirst : isBlank c = false :=
          (isStretch_takeWhile isBlank s).2 c (by rw [← trimStart, hc]; rfl)
        simp [trimStart, hfirst]
    rw [trim, happend, hend, trim]

/-- Exactly the blank texts trim to nothing. -/
theorem trim_eq_nil_iff (s : Text) : trim s = [] ↔ isBlankText s = true := by
  have hend : ∀ t : Text, trimEnd t = [] ↔ ∀ c ∈ t, isBlank c = true := by
    intro t
    rw [trimEnd, List.reverse_eq_nil_iff, List.dropWhile_eq_nil_iff]
    simp
  rw [trim, hend, isBlankText, List.all_eq_true]
  constructor
  · intro h c hc
    rw [← takeWhile_append_trimStart s] at hc
    rcases List.mem_append.mp hc with hfront | hrest
    · exact (isStretch_takeWhile isBlank s).1 c hfront
    · exact h c hrest
  · intro h c hc
    exact h c (List.dropWhile_sublist _ |>.mem hc)

/-- Nothing is left of spaces. -/
theorem trim_of_spaces (h : ∀ c ∈ blanks, c = ' ') : trim blanks = [] := by
  rw [trim_eq_nil_iff, isBlankText, List.all_eq_true]
  intro c hc
  rw [h c hc]
  exact isBlank_space

/-- A text that neither begins nor ends with a blank is trimmed already. -/
theorem trim_eq_self (hfirst : ∀ c ∈ s.head?, isBlank c = false)
    (hlast : ∀ c ∈ s.getLast?, isBlank c = false) : trim s = s := by
  have hkeep : ∀ t : Text, (∀ c ∈ t.head?, isBlank c = false) → t.dropWhile isBlank = t := by
    intro t ht
    have hnone : IsStretch isBlank [] t := ⟨by simp, ht⟩
    exact hnone.dropWhile_eq
  have hend : s.reverse.dropWhile isBlank = s.reverse := by
    apply hkeep
    rw [List.head?_reverse]
    exact hlast
  rw [trim, trimStart, hkeep s hfirst, trimEnd, hend, List.reverse_reverse]

/-- The characters of a trimmed text are characters of the text. -/
theorem mem_of_mem_trim {c : Char} (h : c ∈ trim s) : c ∈ s := by
  rw [trim, trimEnd, List.mem_reverse] at h
  have hstart := List.mem_reverse.mp ((List.dropWhile_suffix isBlank).mem h)
  exact (List.dropWhile_suffix isBlank).mem hstart

/-- A trimmed text begins with no blank. -/
theorem head?_trim (s : Text) : ∀ c ∈ (trim s).head?, isBlank c = false := by
  intro c hc
  have hfront : trim s <+: trimStart s := by
    rw [trim, trimEnd, ← List.reverse_suffix, List.reverse_reverse]
    exact List.dropWhile_suffix isBlank
  obtain ⟨rest, hrest⟩ := hfront
  apply (isStretch_takeWhile isBlank s).2 c
  rw [← trimStart, ← hrest, List.head?_append, Option.mem_def.mp hc]
  rfl

/-- A trimmed text ends with no blank. -/
theorem getLast?_trim (s : Text) : ∀ c ∈ (trim s).getLast?, isBlank c = false := by
  intro c hc
  rw [trim, trimEnd, List.getLast?_reverse] at hc
  exact (isStretch_takeWhile isBlank (trimStart s).reverse).2 c hc

/-! ### Classes of characters -/

/-- Ranges that do not overlap. -/
def Ranges.disjoint (a b : Ranges) : Bool :=
  a.all fun r ↦ b.all fun q ↦ r.2 < q.1 || q.2 < r.1

/-- Ranges that do not overlap hold no common character. -/
theorem Ranges.contains_eq_false {a b : Ranges} {c : Char} (h : a.disjoint b = true)
    (hc : a.contains c = true) : b.contains c = false := by
  rw [← Bool.not_eq_true, Ranges.contains_iff]
  rintro ⟨q, hq, hlow, hhigh⟩
  obtain ⟨r, hr, hrlow, hrhigh⟩ := Ranges.contains_iff.mp hc
  have hapart := List.all_eq_true.mp (List.all_eq_true.mp h r hr) q hq
  simp only [Bool.or_eq_true, decide_eq_true_eq] at hapart
  omega

/-- No word character is blank. -/
theorem isBlank_of_isWord {c : Char} (h : isWord c = true) : isBlank c = false := by
  cases hblank : isBlank c with
  | false => rfl
  | true =>
    rw [isWord] at h
    split at h
    · next hascii =>
      simp only [isBlank, Ranges.contains_iff, blankRanges, List.mem_cons, List.not_mem_nil,
        or_false, exists_eq_or_imp, exists_eq_left] at hblank
      rw [Bool.or_eq_true, beq_iff_eq] at h
      rcases h with halnum | rfl
      · have hpoint := toNat_of_isAlphanum halnum
        omega
      · revert hblank; decide
    · have hapart : blankRanges.disjoint wordRanges = true := by decide +kernel
      rw [Ranges.contains_eq_false hapart hblank] at h
      exact absurd h (by decide)

end Shorthand.Text
