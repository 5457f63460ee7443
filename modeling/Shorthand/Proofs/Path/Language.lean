import Shorthand.Proofs.Dialects.Conversion
import Shorthand.Proofs.Path.Expansion
import Shorthand.Proofs.Path.Parts

/-!
# The language of paths

Cutting counts how deep brackets nest, segments allow no nesting at all. The main statement says
which language the two make up: the brackets of a path alternate and have names, and every part
that is not blank has a tag in front of its decorations.
-/

namespace Shorthand

open Text

/-! ### Parts and outlines -/

namespace Part

private theorem exists_outline_of_all {isSeparator : Char → Bool} (offset : Int) {s : Text}
    (hclose : isSeparator closeBracket = false)
    (h : ∀ part ∈ all isSeparator offset s, ∃ o, Outline.of? part.text = some o) :
    ∃ o, Outline.of? s = some o := by
  induction hlength : s.length using Nat.strongRecOn generalizing s offset with
  | ind n ih =>
    rcases all_cases isSeparator offset s with hwhole |
      ⟨first, sep, rest, offset', hsep, hopen, rfl, hall⟩
    · exact h ⟨s, offset⟩ (by rw [hwhole]; exact List.mem_singleton_self _)
    · rw [hall, List.forall_mem_cons] at h
      obtain ⟨⟨o, ho⟩, hothers⟩ := h
      have hshort : rest.length < n := by
        rw [List.length_append, List.length_cons] at hlength
        omega
      obtain ⟨o', ho'⟩ := ih _ hshort offset' hothers rfl
      obtain ⟨hwf, rfl⟩ := Outline.of?_eq_some_iff.mp ho
      obtain ⟨hwf', rfl⟩ := Outline.of?_eq_some_iff.mp ho'
      have hne : sep ≠ closeBracket := by
        rintro rfl
        rw [hclose] at hsep
        exact absurd hsep Bool.false_ne_true
      refine ⟨o ++ .plain sep :: o', Outline.of?_eq_some_iff.mpr ⟨?_, ?_⟩⟩
      · rw [Outline.wellFormed_append, Outline.wellFormed_cons]
        exact ⟨hwf, ⟨hopen, hne⟩, hwf'⟩
      · rw [Outline.text_append, Outline.text_cons]
        rfl

end Part

namespace Outline

variable {o : Outline} {x : Lexeme}

/-- The parts of an outline hold everything in it but the separators. -/
theorem flatten_splitOnP (o : Outline) :
    (o.splitOnP isSeparator).flatten = o.filter fun x ↦ !isSeparator x := by
  induction o with
  | nil => rfl
  | cons x o ih =>
    rw [List.splitOnP_cons_eq_if_modifyHead, List.filter_cons]
    cases hx : isSeparator x with
    | true => exact ih
    | false =>
      obtain ⟨part, parts, hparts⟩ :=
        List.exists_cons_of_ne_nil (List.splitOnP_ne_nil isSeparator o)
      rw [hparts] at ih ⊢
      exact congrArg (x :: ·) ih

/-- The lexemes in the parts of an outline are those that are no separators. -/
theorem exists_part_iff :
    (∃ part ∈ o.splitOnP isSeparator, x ∈ part) ↔ x ∈ o ∧ isSeparator x = false := by
  rw [← List.mem_flatten, flatten_splitOnP, List.mem_filter, Bool.not_eq_true']

/-- Whether a lexeme is a character with `p`. -/
def isPlainWith (p : Char → Bool) : Lexeme → Bool
  | .plain c => p c
  | .bracket _ => false

/-- The separators of a path are its characters that separate. -/
theorem isSeparator_eq : isSeparator = isPlainWith Path.isSeparator := by
  funext x
  cases x with
  | plain c => simp [isSeparator, isPlainWith, Path.isSeparator, Bool.beq_eq_decide_eq]
  | bracket body => simp [isSeparator, isPlainWith]

/-- The parts of a text with an outline are the texts of the parts of the outline. -/
theorem map_text_all (p : Char → Bool) (offset : Int) (hwf : WellFormed o) :
    (Part.all p offset (text o)).map Part.text = (o.splitOnP (isPlainWith p)).map text := by
  induction o generalizing offset with
  | nil => rfl
  | cons x o ih =>
    obtain ⟨hx, ho⟩ := wellFormed_cons.mp hwf
    rw [List.splitOnP_cons_eq_if_modifyHead]
    cases hsep : isPlainWith p x with
    | true =>
      cases x with
      | bracket body => exact absurd hsep Bool.false_ne_true
      | plain c =>
        have hall := Part.all_text_cons offset (text o) wellFormed_nil
          (fun d hd ↦ absurd hd List.not_mem_nil) hsep hx.1
        exact (congrArg (List.map Part.text) hall).trans (congrArg ([] :: ·) (ih _ ho))
    | false =>
      have hone : ∀ c, Lexeme.plain c ∈ [x] → p c = false := by
        intro c hc
        rw [← hsep, ← List.mem_singleton.mp hc]
        rfl
      have hsplit := Part.split_text offset (text o) (wellFormed_cons.mpr ⟨hx, wellFormed_nil⟩) hone
      obtain ⟨part, parts, hparts⟩ :=
        List.exists_cons_of_ne_nil (List.splitOnP_ne_nil (isPlainWith p) o)
      have hothers := ih (offset + (text [x]).length) ho
      rw [hparts, Part.all, List.map_cons, List.map_cons] at hothers
      obtain ⟨hfirst, hrest⟩ := List.cons.inj hothers
      have htext : ∀ rest, text (x :: rest) = text [x] ++ text rest := text_append [x]
      rw [htext o, Part.all, hsplit, hparts, if_neg Bool.false_ne_true, List.modifyHead_cons,
        List.map_cons, List.map_cons, hrest, htext part, ← hfirst]

end Outline

namespace Path

variable {path : Text} {o : Outline}

/-- Whether an outline is one of a path that can be read: every bracket has a name, and what is in
front of the first decoration of a part is a tag between blanks, unless the part is blank. -/
structure Accepts (o : Outline) : Prop where
  names : ∀ body, .bracket body ∈ o → isName (trim (cutAt '=' body).1) = true
  tags : ∀ part ∈ o.splitOnP Outline.isSeparator, isBlankText (Outline.text part) = false →
    Segment.isTag (trim (Segment.front (Outline.text part))) = true

private theorem exists_outline_of_isBlankText {s : Text} (h : isBlankText s = true) :
    ∃ o, Outline.of? s = some o := by
  have hplain : ∀ c ∈ s, c ≠ openBracket ∧ c ≠ closeBracket := by
    intro c hc
    have hblank : isBlank c = true := List.all_eq_true.mp h c hc
    constructor
    · rintro rfl
      exact absurd hblank (by decide)
    · rintro rfl
      exact absurd hblank (by decide)
  exact ⟨Outline.plains s, Outline.of?_eq_some_iff.mpr
    ⟨Outline.wellFormed_plains hplain, Outline.text_plains s⟩⟩

private theorem readable_iff_pieces :
    Readable path ↔ ∀ part ∈ pieces path, Segment.Readable part.text := by
  have hflatten : Readable path ↔ ∀ raw ∈ (texts path).flatten, Segment.Readable raw := by
    simp only [Readable, List.mem_flatten, forall_exists_index, and_imp]
    exact ⟨fun h raw group hgroup hraw ↦ h group hgroup raw hraw,
      fun h group hgroup raw hraw ↦ h raw group hgroup hraw⟩
  rw [hflatten, flatten_texts, List.forall_mem_map]

private theorem exists_outline_of_readable (h : Readable path) :
    ∃ o, Outline.of? path = some o := by
  refine Part.exists_outline_of_all 0 (by decide : isSeparator closeBracket = false)
    fun part hpart ↦ ?_
  cases hblank : isBlankText part.text with
  | true => exact exists_outline_of_isBlankText hblank
  | false =>
    have hmem : part ∈ pieces path := List.mem_filter.mpr ⟨hpart, by rw [hblank]; rfl⟩
    obtain ⟨o, ho, -⟩ := Segment.readable_iff.mp (readable_iff_pieces.mp h part hmem)
    exact ⟨o, ho⟩

private theorem forall_pieces_iff {p : Text → Prop} (hwf : Outline.WellFormed o) :
    (∀ part ∈ pieces (Outline.text o), p part.text) ↔
      ∀ part ∈ o.splitOnP Outline.isSeparator, isBlankText (Outline.text part) = false →
        p (Outline.text part) := by
  have htexts : (∀ part ∈ pieces (Outline.text o), p part.text) ↔
      ∀ t ∈ (Part.all isSeparator 0 (Outline.text o)).map Part.text,
        isBlankText t = false → p t := by
    simp only [pieces, Part.cut, List.mem_filter, Bool.not_eq_true', and_imp, List.forall_mem_map]
  rw [htexts, Outline.map_text_all isSeparator 0 hwf, ← Outline.isSeparator_eq,
    List.forall_mem_map]

private theorem isBlankText_of_bracket_mem {body : Text} (h : .bracket body ∈ o) :
    isBlankText (Outline.text o) = false := by
  have hmem : openBracket ∈ Outline.text o :=
    List.mem_flatMap.mpr ⟨_, h, by simp [Lexeme.text, bracketed]⟩
  rw [← Bool.not_eq_true]
  intro hblank
  exact absurd (List.all_eq_true.mp hblank _ hmem) (by decide)

private theorem readable_text_iff (hwf : Outline.WellFormed o) :
    Readable (Outline.text o) ↔ Accepts o := by
  have hpart : ∀ part ∈ o.splitOnP Outline.isSeparator, Outline.WellFormed part :=
    fun part hpart x hx ↦ hwf x (Outline.exists_part_iff.mp ⟨part, hpart, hx⟩).1
  rw [readable_iff_pieces, forall_pieces_iff hwf]
  constructor
  · intro h
    refine ⟨fun body hbody ↦ ?_, fun part hmem hblank ↦ ?_⟩
    · obtain ⟨part, hmem, hx⟩ := Outline.exists_part_iff.mpr ⟨hbody, by simp [Outline.isSeparator]⟩
      have hread := h part hmem (isBlankText_of_bracket_mem hx)
      exact ((Segment.readable_text_iff (hpart part hmem)).mp hread).1 body hx
    · exact ((Segment.readable_text_iff (hpart part hmem)).mp (h part hmem hblank)).2
  · intro h part hmem hblank
    refine (Segment.readable_text_iff (hpart part hmem)).mpr ⟨fun body hx ↦ ?_, ?_⟩
    · exact h.names body (Outline.exists_part_iff.mp ⟨part, hmem, hx⟩).1
    · exact h.tags part hmem hblank

/-- A path can be read exactly if its brackets alternate and have names, and what is in front of
the first decoration of a part is a tag between blanks, unless the part is blank. -/
theorem readable_iff : Readable path ↔ ∃ o, Outline.of? path = some o ∧ Accepts o := by
  constructor
  · intro h
    obtain ⟨o, ho⟩ := exists_outline_of_readable h
    obtain ⟨hwf, rfl⟩ := Outline.of?_eq_some_iff.mp ho
    exact ⟨o, ho, (readable_text_iff hwf).mp h⟩
  · rintro ⟨o, ho, haccepts⟩
    obtain ⟨hwf, rfl⟩ := Outline.of?_eq_some_iff.mp ho
    exact (readable_text_iff hwf).mpr haccepts

/-- A path expands, with whatever content and overrides, exactly if its brackets alternate and
have names, and what is in front of the first decoration of a part is a tag between blanks, unless
the part is blank. Every other path is malformed. -/
theorem expand_isOk_iff (policy : Policy) (path : Text) (content : Value)
    (overrides : Attributes AttributeValue) :
    ((∃ result, expand policy path content overrides = .ok result) ↔
      ∃ o, Outline.of? path = some o ∧ Accepts o) ∧
    ((¬∃ o, Outline.of? path = some o ∧ Accepts o) →
      ∃ fault, expand policy path content overrides = .error fault) := by
  rw [exists_expand_iff, readable_iff]
  refine ⟨Iff.rfl, fun h ↦ ?_⟩
  cases hexpand : expand policy path content overrides with
  | ok result => exact absurd (readable_iff.mp (exists_expand_iff.mp ⟨result, hexpand⟩)) h
  | error fault => exact ⟨fault, rfl⟩

end Path
end Shorthand
