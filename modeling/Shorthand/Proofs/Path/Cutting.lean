import Shorthand.Path.Basic
import Shorthand.Proofs.Text.Places

/-!
# Cutting at separators

Which parts a text has does not depend on where it stands in a larger one, and a separator outside
brackets parts what is in front of it from what is behind it. The main statement says that cutting
a path into groups and each group into segments finds the same parts as cutting once at both
separators.
-/

namespace Shorthand

open Text

namespace Part

/-- The number of brackets that are open behind a text, where `depth` are open in front of it. -/
def depthBehind (depth : Nat) (s : Text) : Nat := s.foldl depthAfter depth

/-- The characters of a text that stand outside brackets, where `depth` brackets are open in front
of it. -/
def outside : Nat → Text → Text
  | _, [] => []
  | depth, c :: rest =>
    if depth = 0 ∧ c ≠ openBracket then c :: outside (depthAfter depth c) rest
    else outside (depthAfter depth c) rest

/-- The texts of the parts of a text that are not blank. -/
def texts (isSeparator : Char → Bool) (s : Text) : List Text :=
  (cut isSeparator 0 s).map Part.text

/-- The first character opens or closes a bracket in front of the rest. -/
@[simp] theorem depthBehind_cons (depth : Nat) (c : Char) (rest : Text) :
    depthBehind depth (c :: rest) = depthBehind (depthAfter depth c) rest := rfl

variable {isSeparator : Char → Bool} {a b s : Text} {depth : Nat} {c sep : Char}

/-- A character that cuts is a separator outside brackets. -/
theorem cuts_eq_true_iff :
    cuts isSeparator depth c = true ↔ depth = 0 ∧ c ≠ openBracket ∧ isSeparator c = true := by
  simp [cuts, and_assoc]

/-- Nothing but an opening bracket opens one. -/
theorem depthAfter_zero (h : c ≠ openBracket) : depthAfter 0 c = 0 := by
  rw [depthAfter, if_neg h]
  split <;> rfl

/-! ### Parts and their places -/

private theorem text_split (isSeparator : Char → Bool) (depth : Nat) (offset offset' : Int)
    (s : Text) :
    (split isSeparator depth offset s).1 = (split isSeparator depth offset' s).1 ∧
      (split isSeparator depth offset s).2.map Part.text =
        (split isSeparator depth offset' s).2.map Part.text := by
  induction s generalizing depth offset offset' with
  | nil => exact ⟨rfl, rfl⟩
  | cons c s ih =>
    rw [split, split]
    split
    · obtain ⟨hfirst, hothers⟩ := ih 0 (offset + 1) (offset' + 1)
      exact ⟨rfl, by simp only [List.map_cons, hfirst, hothers]⟩
    · obtain ⟨hfirst, hothers⟩ := ih (depthAfter depth c) (offset + 1) (offset' + 1)
      exact ⟨by simp only [hfirst], hothers⟩

/-- The parts that are not blank have the same texts wherever the whole stands. -/
theorem map_text_cut (isSeparator : Char → Bool) (offset : Int) (s : Text) :
    (cut isSeparator offset s).map Part.text = texts isSeparator s := by
  have hall : ∀ offset, (cut isSeparator offset s).map Part.text =
      ((all isSeparator offset s).map Part.text).filter fun t ↦ !isBlankText t := by
    intro offset
    rw [cut, List.filter_map]
    rfl
  obtain ⟨hfirst, hothers⟩ := text_split isSeparator 0 offset 0 s
  rw [texts, hall, hall, all, all, List.map_cons, List.map_cons, hfirst, hothers]

private theorem standsAt_split (isSeparator : Char → Bool) (depth : Nat) (offset : Int) (s : Text) :
    StandsAt s 0 (split isSeparator depth offset s).1 ∧
      ∀ part ∈ (split isSeparator depth offset s).2,
        ∃ place : Nat, part.offset = offset + place ∧ StandsAt s place part.text := by
  induction s generalizing depth offset with
  | nil => exact ⟨List.nil_prefix, by simp [split]⟩
  | cons c s ih =>
    have hothers : ∀ depth, ∀ part ∈ (split isSeparator depth (offset + 1) s).2,
        ∃ place : Nat, part.offset = offset + place ∧ StandsAt (c :: s) place part.text := by
      intro depth part hpart
      obtain ⟨place, hoffset, hstands⟩ := (ih depth (offset + 1)).2 part hpart
      exact ⟨place + 1, by omega, hstands⟩
    rw [split]
    split
    · refine ⟨List.nil_prefix, fun part hpart ↦ ?_⟩
      rcases List.mem_cons.mp hpart with rfl | hmem
      · exact ⟨1, rfl, (ih 0 (offset + 1)).1⟩
      · exact hothers 0 part hmem
    · refine ⟨?_, hothers _⟩
      exact List.cons_prefix_cons.mpr ⟨rfl, (ih (depthAfter depth c) (offset + 1)).1⟩

/-- Every part of a text stands in it at its offset. -/
theorem exists_place_of_mem_cut {offset : Int} {part : Part}
    (h : part ∈ cut isSeparator offset s) :
    ∃ place : Nat, part.offset = offset + place ∧ StandsAt s place part.text := by
  obtain ⟨hfirst, hothers⟩ := standsAt_split isSeparator 0 offset s
  rcases List.mem_cons.mp (List.mem_filter.mp h).1 with rfl | hmem
  · exact ⟨0, (Int.add_zero offset).symm, hfirst⟩
  · exact hothers part hmem

/-! ### Separators between texts -/

private theorem split_append_cons (offset : Int) (b : Text) (hdepth : depthBehind depth a = 0)
    (hsep : isSeparator sep = true) (hopen : sep ≠ openBracket) :
    split isSeparator depth offset (a ++ sep :: b) =
      ((split isSeparator depth offset a).1,
        (split isSeparator depth offset a).2 ++ all isSeparator (offset + a.length + 1) b) := by
  induction a generalizing depth offset with
  | nil =>
    obtain rfl : depth = 0 := hdepth
    have hcuts : cuts isSeparator 0 sep = true := cuts_eq_true_iff.mpr ⟨rfl, hopen, hsep⟩
    simp [split, hcuts, all]
  | cons c a ih =>
    have hoffset : offset + 1 + a.length + 1 = offset + (c :: a).length + 1 := by
      rw [List.length_cons]
      omega
    rw [List.cons_append, split, split]
    cases hcuts : cuts isSeparator depth c with
    | true =>
      obtain ⟨rfl, hc, -⟩ := cuts_eq_true_iff.mp hcuts
      rw [depthBehind_cons, depthAfter_zero hc] at hdepth
      simp [ih (offset + 1) hdepth, hoffset]
    | false => simp [ih (offset + 1) hdepth, hoffset]

/-- A separator outside brackets parts what is in front of it from what is behind it. -/
theorem cut_append_cons (offset : Int) (b : Text) (hdepth : depthBehind 0 a = 0)
    (hsep : isSeparator sep = true) (hopen : sep ≠ openBracket) :
    cut isSeparator offset (a ++ sep :: b) =
      cut isSeparator offset a ++ cut isSeparator (offset + a.length + 1) b := by
  have hall : all isSeparator offset (a ++ sep :: b) =
      all isSeparator offset a ++ all isSeparator (offset + a.length + 1) b := by
    rw [all, split_append_cons offset b hdepth hsep hopen, all]
    rfl
  rw [cut, hall, List.filter_append, cut, cut]

/-- The parts on both sides of a separator outside brackets are the parts of the whole. -/
theorem texts_append_cons (isSeparator : Char → Bool) (b : Text)
    (hdepth : depthBehind 0 a = 0) (hsep : isSeparator sep = true) (hopen : sep ≠ openBracket) :
    texts isSeparator (a ++ sep :: b) = texts isSeparator a ++ texts isSeparator b := by
  rw [texts, cut_append_cons 0 b hdepth hsep hopen, List.map_append, map_text_cut, map_text_cut]

private theorem split_cases (isSeparator : Char → Bool) (depth : Nat) (offset : Int) (s : Text) :
    split isSeparator depth offset s = (s, []) ∨
      ∃ first sep rest offset', isSeparator sep = true ∧ sep ≠ openBracket ∧
        s = first ++ sep :: rest ∧
          split isSeparator depth offset s = (first, all isSeparator offset' rest) := by
  induction s generalizing depth offset with
  | nil => exact .inl rfl
  | cons c s ih =>
    rw [split]
    cases hcuts : cuts isSeparator depth c with
    | true =>
      obtain ⟨-, hopen, hsep⟩ := cuts_eq_true_iff.mp hcuts
      exact .inr ⟨[], c, s, offset + 1, hsep, hopen, rfl, rfl⟩
    | false =>
      rcases ih (depthAfter depth c) (offset + 1) with hwhole |
        ⟨first, sep, rest, offset', hsep, hopen, rfl, hsplit⟩
      · exact .inl (by rw [hwhole]; rfl)
      · exact .inr ⟨c :: first, sep, rest, offset', hsep, hopen, rfl, by rw [hsplit]; rfl⟩

/-- A text is its only part, or its first part stands in front of a separator and the others are
the parts of what is behind it. -/
theorem all_cases (isSeparator : Char → Bool) (offset : Int) (s : Text) :
    all isSeparator offset s = [⟨s, offset⟩] ∨
      ∃ first sep rest offset', isSeparator sep = true ∧ sep ≠ openBracket ∧
        s = first ++ sep :: rest ∧
          all isSeparator offset s = ⟨first, offset⟩ :: all isSeparator offset' rest := by
  rw [all]
  rcases split_cases isSeparator 0 offset s with hwhole |
    ⟨first, sep, rest, offset', hsep, hopen, htext, hsplit⟩
  · exact .inl (by rw [hwhole])
  · exact .inr ⟨first, sep, rest, offset', hsep, hopen, htext, by rw [hsplit]⟩

/-- The characters outside brackets of two texts side by side are those of both. -/
theorem outside_append (depth : Nat) (a b : Text) :
    outside depth (a ++ b) = outside depth a ++ outside (depthBehind depth a) b := by
  induction a generalizing depth with
  | nil => rfl
  | cons c a ih =>
    rw [List.cons_append, outside, outside, depthBehind_cons, ih]
    split <;> rfl

/-- The characters outside brackets are characters of the text. -/
theorem mem_of_mem_outside (h : c ∈ outside depth s) : c ∈ s := by
  induction s generalizing depth with
  | nil => exact absurd h List.not_mem_nil
  | cons d s ih =>
    rw [outside] at h
    split at h
    · rcases List.mem_cons.mp h with rfl | hmem
      · exact List.mem_cons_self ..
      · exact List.mem_cons_of_mem _ (ih hmem)
    · exact List.mem_cons_of_mem _ (ih h)

private theorem split_of_outside (offset : Int)
    (h : ∀ c ∈ outside depth s, isSeparator c = false) :
    split isSeparator depth offset s = (s, []) := by
  induction s generalizing depth offset with
  | nil => rfl
  | cons c s ih =>
    rw [outside] at h
    have hothers : ∀ d ∈ outside (depthAfter depth c) s, isSeparator d = false := by
      intro d hd
      apply h d
      split
      · exact List.mem_cons_of_mem _ hd
      · exact hd
    have hcuts : cuts isSeparator depth c = false := by
      rw [← Bool.not_eq_true, cuts_eq_true_iff]
      rintro ⟨hdepth, hopen, hsep⟩
      rw [if_pos ⟨hdepth, hopen⟩] at h
      rw [h c (List.mem_cons_self ..)] at hsep
      exact absurd hsep Bool.false_ne_true
    simp [split, hcuts, ih (offset + 1) hothers]

/-- A text with separators in brackets only is one part, unless it is blank. -/
theorem texts_of_outside (isSeparator : Char → Bool) (hblank : isBlankText s = false)
    (h : ∀ c ∈ outside 0 s, isSeparator c = false) : texts isSeparator s = [s] := by
  simp [texts, cut, all, split_of_outside 0 h, hblank]

/-! ### Cutting twice -/

-- Cutting what is in front of the first outer separator at the inner ones, and then every part
-- behind it, cuts the text at both.
private theorem split_or (isOuter isInner : Char → Bool) (depth : Nat) (offset : Int) (s : Text) :
    let (outerFirst, outers) := split isOuter depth offset s
    let (first, others) := split isInner depth offset outerFirst
    split (fun c ↦ isOuter c || isInner c) depth offset s =
      (first, others ++ outers.flatMap fun part ↦ all isInner part.offset part.text) := by
  induction s generalizing depth offset with
  | nil => rfl
  | cons c s ih =>
    cases houter : cuts isOuter depth c with
    | true =>
      obtain ⟨rfl, hopen, hsep⟩ := cuts_eq_true_iff.mp houter
      have hboth : cuts (fun c ↦ isOuter c || isInner c) 0 c = true :=
        cuts_eq_true_iff.mpr ⟨rfl, hopen, by rw [hsep, Bool.true_or]⟩
      simp [split, houter, hboth, ih 0 (offset + 1), all]
    | false =>
      cases hinner : cuts isInner depth c with
      | true =>
        obtain ⟨rfl, hopen, hsep⟩ := cuts_eq_true_iff.mp hinner
        have hboth : cuts (fun c ↦ isOuter c || isInner c) 0 c = true :=
          cuts_eq_true_iff.mpr ⟨rfl, hopen, by rw [hsep, Bool.or_true]⟩
        simp [split, houter, hinner, hboth, depthAfter_zero hopen, ih 0 (offset + 1)]
      | false =>
        have hboth : cuts (fun c ↦ isOuter c || isInner c) depth c = false := by
          rw [cuts] at houter hinner ⊢
          rw [Bool.and_or_distrib_left, houter, hinner]
          rfl
        simp [split, houter, hinner, hboth, ih (depthAfter depth c) (offset + 1)]

private theorem split_of_blanks (isSeparator : Char → Bool) (offset : Int)
    (h : ∀ c ∈ s, isBlank c = true ∨ isSeparator c = true ∧ c ≠ openBracket) :
    isBlankText (split isSeparator 0 offset s).1 = true ∧
      ∀ part ∈ (split isSeparator 0 offset s).2, isBlankText part.text = true := by
  induction s generalizing offset with
  | nil => exact ⟨rfl, by simp [split]⟩
  | cons c s ih =>
    obtain ⟨hfirst, hothers⟩ := ih (offset + 1) fun d hd ↦ h d (List.mem_cons_of_mem _ hd)
    have hopen : c ≠ openBracket := by
      rintro rfl
      rcases h openBracket (List.mem_cons_self ..) with hblank | ⟨-, hne⟩
      · exact absurd hblank (by decide)
      · exact hne rfl
    rw [split, depthAfter_zero hopen]
    cases hcuts : cuts isSeparator 0 c with
    | true =>
      refine ⟨rfl, ?_⟩
      simpa [hfirst] using hothers
    | false =>
      have hblank : isBlank c = true := by
        rcases h c (List.mem_cons_self ..) with hblank | ⟨hsep, -⟩
        · exact hblank
        · rw [cuts_eq_true_iff.mpr ⟨rfl, hopen, hsep⟩] at hcuts
          exact absurd hcuts.symm Bool.false_ne_true
      exact ⟨by simpa [isBlankText, hblank] using hfirst, hothers⟩

/-- Blanks and separators make up no part. -/
theorem cut_of_blanks (isSeparator : Char → Bool) (offset : Int)
    (h : ∀ c ∈ s, isBlank c = true ∨ isSeparator c = true ∧ c ≠ openBracket) :
    cut isSeparator offset s = [] := by
  obtain ⟨hfirst, hothers⟩ := split_of_blanks isSeparator offset h
  simpa [cut, all, hfirst] using hothers

/-- A blank text has no part. -/
theorem cut_of_isBlankText (isSeparator : Char → Bool) (offset : Int)
    (h : isBlankText s = true) : cut isSeparator offset s = [] :=
  cut_of_blanks isSeparator offset fun c hc ↦ .inl (List.all_eq_true.mp h c hc)

private theorem flatMap_cut_filter (isSeparator : Char → Bool) (parts : List Part) :
    (parts.filter fun part ↦ !isBlankText part.text).flatMap
        (fun part ↦ cut isSeparator part.offset part.text) =
      (parts.flatMap fun part ↦ all isSeparator part.offset part.text).filter
        fun part ↦ !isBlankText part.text := by
  induction parts with
  | nil => rfl
  | cons part parts ih =>
    rw [List.flatMap_cons, List.filter_append, ← ih, List.filter_cons]
    cases hblank : isBlankText part.text with
    | false => rfl
    | true =>
      have hnone := cut_of_isBlankText isSeparator part.offset hblank
      rw [cut] at hnone
      rw [hnone]
      rfl

/-- Cutting every part at further separators cuts the text at all of them. -/
theorem flatMap_cut (isOuter isInner : Char → Bool) (offset : Int) (s : Text) :
    (cut isOuter offset s).flatMap (fun part ↦ cut isInner part.offset part.text) =
      cut (fun c ↦ isOuter c || isInner c) offset s := by
  have hsplit := split_or isOuter isInner 0 offset s
  rw [cut, flatMap_cut_filter, cut, all, all, hsplit]
  rfl

end Part

namespace Path

/-- Whether a character is one of the two separators of paths. -/
def isSeparator (c : Char) : Bool := c == nestSeparator || c == siblingSeparator

/-- The parts of a path between its separators outside brackets, blank ones left out. -/
def pieces (path : Text) : List Part := Part.cut isSeparator 0 path

/-- The texts of the parts of a path, group by group. -/
def texts (path : Text) : List (List Text) :=
  (Part.texts (· == nestSeparator) path).map (Part.texts (· == siblingSeparator))

/-- The parts of the groups of a path are its parts between separators of either kind. -/
theorem flatten_parts (path : Text) : (parts path).flatten = pieces path := by
  rw [parts, ← List.flatMap_def, Part.flatMap_cut]
  rfl

/-- The parts of a path have its texts. -/
theorem map_text_parts (path : Text) : (parts path).map (·.map Part.text) = texts path := by
  rw [parts, texts, Part.texts, List.map_map, List.map_map]
  apply List.map_congr_left
  intro group hgroup
  exact Part.map_text_cut _ group.offset group.text

/-- The texts of a path are those of its parts between separators of either kind. -/
theorem flatten_texts (path : Text) : (texts path).flatten = (pieces path).map Part.text := by
  rw [← map_text_parts, ← flatten_parts, List.map_flatten]

/-- The groups on both sides of a slash outside brackets are the groups of the whole. -/
theorem texts_append_nest {a : Text} (b : Text) (hdepth : Part.depthBehind 0 a = 0) :
    texts (a ++ nestSeparator :: b) = texts a ++ texts b := by
  rw [texts, Part.texts_append_cons (· == nestSeparator) b hdepth (beq_self_eq_true _) (by decide),
    List.map_append, texts, texts]

/-- A path without slashes outside brackets is one group, unless it is blank. -/
theorem texts_of_outside {a : Text} (hblank : isBlankText a = false)
    (hnest : nestSeparator ∉ Part.outside 0 a) :
    texts a = [Part.texts (· == siblingSeparator) a] := by
  have hone := Part.texts_of_outside (· == nestSeparator) hblank fun c hc ↦ by
    rw [beq_eq_false_iff_ne]
    rintro rfl
    exact hnest hc
  rw [texts, hone]
  rfl

end Path
end Shorthand
