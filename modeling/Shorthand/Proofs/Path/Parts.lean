import Shorthand.Path.Cut
import Shorthand.Proofs.Outline

/-!
# Parts of outlines

A text with an outline is cut at the separators of the outline only, since those inside brackets
do not count. The main statement gives the parts of outlines with separators between them.
-/

namespace Shorthand.Part

variable {isSeparator : Char → Bool}

private theorem split_body {body : Text} (offset : Int) (rest : Text)
    (h : Lexeme.WellFormed (.bracket body)) :
    split isSeparator 1 offset (body ++ closeBracket :: rest) =
      (body ++ closeBracket :: (split isSeparator 0 (offset + body.length + 1) rest).1,
        (split isSeparator 0 (offset + body.length + 1) rest).2) := by
  have hcuts : ∀ c, cuts isSeparator 1 c = false := fun c ↦ rfl
  induction body generalizing offset with
  | nil =>
    have hdepth : depthAfter 1 closeBracket = 0 := by decide
    simp [split, hcuts, hdepth]
  | cons c body ih =>
    obtain ⟨hopen, hclose⟩ := h
    rw [List.mem_cons, not_or] at hopen hclose
    have hdepth : depthAfter 1 c = 1 := by
      rw [depthAfter, if_neg (Ne.symm hopen.1), if_neg (Ne.symm hclose.1)]
    have hoffset : offset + 1 + body.length + 1 = offset + (c :: body).length + 1 := by
      rw [List.length_cons]
      omega
    rw [List.cons_append, split, hcuts, hdepth, ih (offset + 1) ⟨hopen.2, hclose.2⟩, hoffset]
    rfl

/-- An outline without separators belongs to one part. -/
theorem split_text {o : Outline} (offset : Int) (rest : Text) (hwf : Outline.WellFormed o)
    (h : ∀ c, Lexeme.plain c ∈ o → isSeparator c = false) :
    split isSeparator 0 offset (Outline.text o ++ rest) =
      (Outline.text o ++ (split isSeparator 0 (offset + (Outline.text o).length) rest).1,
        (split isSeparator 0 (offset + (Outline.text o).length) rest).2) := by
  induction o generalizing offset with
  | nil => simp
  | cons lexeme o ih =>
    obtain ⟨hlexeme, ho⟩ := Outline.wellFormed_cons.mp hwf
    have hothers := fun offset ↦ ih offset ho fun c hc ↦ h c (List.mem_cons_of_mem _ hc)
    cases lexeme with
    | plain c =>
      have hcuts : cuts isSeparator 0 c = false := by
        rw [cuts, h c (List.mem_cons_self ..), Bool.and_false]
      have hdepth : depthAfter 0 c = 0 := by
        rw [depthAfter, if_neg hlexeme.1, if_neg hlexeme.2]
      have hoffset : offset + 1 + (Outline.text o).length =
          offset + (Outline.text (.plain c :: o)).length := by
        simp [Lexeme.text]
        omega
      rw [← hoffset]
      simp [Lexeme.text, split, hcuts, hdepth, hothers]
    | bracket body =>
      have hcuts : cuts isSeparator 0 openBracket = false := cuts_openBracket _ _
      have hdepth : depthAfter 0 openBracket = 1 := by decide
      have hoffset : offset + 1 + body.length + 1 + (Outline.text o).length =
          offset + (Outline.text (.bracket body :: o)).length := by
        simp [Lexeme.text, bracketed]
        omega
      rw [← hoffset]
      simp [Lexeme.text, bracketed, split, hcuts, hdepth, split_body _ _ hlexeme, hothers]

/-- An outline without separators is the only part of its text. -/
theorem all_text {o : Outline} (offset : Int) (hwf : Outline.WellFormed o)
    (h : ∀ c, Lexeme.plain c ∈ o → isSeparator c = false) :
    all isSeparator offset (Outline.text o) = [⟨Outline.text o, offset⟩] := by
  have hsplit := split_text offset [] hwf h
  rw [List.append_nil] at hsplit
  simp [all, hsplit, split]

/-- An outline without separators is the part in front of the separator behind it. -/
theorem all_text_cons {o : Outline} {sep : Char} (offset : Int) (rest : Text)
    (hwf : Outline.WellFormed o) (h : ∀ c, Lexeme.plain c ∈ o → isSeparator c = false)
    (hsep : isSeparator sep = true) (hopen : sep ≠ openBracket) :
    all isSeparator offset (Outline.text o ++ sep :: rest) =
      ⟨Outline.text o, offset⟩ ::
        all isSeparator (offset + (Outline.text o).length + 1) rest := by
  have hcuts : cuts isSeparator 0 sep = true := by simp [cuts, hsep, hopen]
  rw [all, split_text offset _ hwf h, split, hcuts]
  simp [all]

/-- The parts of outlines with separators between them are the texts of the outlines. -/
theorem text_all_intercalate (sep : Char) {os : List Outline} (offset : Int) (hne : os ≠ [])
    (hopen : sep ≠ openBracket)
    (h : ∀ o ∈ os, Outline.WellFormed o ∧ Lexeme.plain sep ∉ o) :
    (all (· == sep) offset (Outline.text ([.plain sep].intercalate os))).map Part.text =
      os.map Outline.text := by
  have hsep : (sep == sep) = true := beq_self_eq_true sep
  have hnone : ∀ o : Outline, Lexeme.plain sep ∉ o →
      ∀ c, Lexeme.plain c ∈ o → (c == sep) = false := by
    intro o ho c hc
    rw [beq_eq_false_iff_ne]
    rintro rfl
    exact ho hc
  induction os generalizing offset with
  | nil => exact absurd rfl hne
  | cons o os ih =>
    obtain ⟨hwf, ho⟩ := h o (List.mem_cons_self ..)
    cases os with
    | nil =>
      rw [List.intercalate_singleton, all_text offset hwf (hnone o ho)]
      rfl
    | cons o' os =>
      have hothers := fun offset ↦
        ih offset (List.cons_ne_nil _ _) fun p hp ↦ h p (List.mem_cons_of_mem _ hp)
      rw [List.intercalate_cons_cons, Outline.text_append, Outline.text_append, Outline.text_cons,
        Outline.text_nil, Lexeme.text, List.append_assoc, List.append_nil, List.singleton_append,
        all_text_cons offset _ hwf (hnone o ho) hsep hopen, List.map_cons, hothers]
      rfl

end Shorthand.Part
