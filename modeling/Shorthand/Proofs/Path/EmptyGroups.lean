import Shorthand.Proofs.Path.Composition

/-!
# Groups without parts

A group of blanks and plus signs describes no element. The main statement says what leaving it out
of a path changes: nothing if it is blank, but with a plus sign in it the group is an empty row of
segments, and what stands inside it is lost.
-/

namespace Shorthand.Path

open Text

/-- What is left of a path when a group of it is left out together with a slash next to it, where
`outer` is in front of the group. -/
inductive OmitsGroup (group : Text) : Text → Text → Text → Prop
  | outermost (b : Text) : OmitsGroup group [] (group ++ nestSeparator :: b) b
  | between (a b : Text) (hdepth : Part.depthBehind 0 a = 0) :
    OmitsGroup group a (a ++ nestSeparator :: (group ++ nestSeparator :: b))
      (a ++ nestSeparator :: b)
  | innermost (a : Text) (hdepth : Part.depthBehind 0 a = 0) :
    OmitsGroup group a (a ++ nestSeparator :: group) a

section Blanks

variable {group : Text} (hgroup : ∀ c ∈ group, isBlank c = true ∨ c = siblingSeparator)

include hgroup

private theorem depthBehind_of_blanks : Part.depthBehind 0 group = 0 := by
  induction group with
  | nil => rfl
  | cons c group ih =>
    have hopen : c ≠ openBracket := by
      rintro rfl
      exact absurd (hgroup openBracket (List.mem_cons_self ..)) (by decide)
    rw [Part.depthBehind_cons, Part.depthAfter_zero hopen]
    exact ih fun d hd ↦ hgroup d (List.mem_cons_of_mem _ hd)

private theorem texts_of_blanks :
    texts group = if siblingSeparator ∈ group then [[]] else [] := by
  split
  · next hplus =>
    have hblank : isBlankText group = false := by
      rw [← Bool.not_eq_true]
      intro hblank
      exact absurd (List.all_eq_true.mp hblank _ hplus) (by decide)
    have hnest : nestSeparator ∉ Part.outside 0 group := fun hmem ↦
      absurd (hgroup nestSeparator (Part.mem_of_mem_outside hmem)) (by decide)
    have hnone : siblings group = [] :=
      congrArg (List.map Part.text) (Part.cut_of_blanks _ 0 fun c hc ↦
        (hgroup c hc).imp_right fun heq ↦ ⟨beq_iff_eq.mpr heq, by rw [heq]; decide⟩)
    rw [texts_of_outside hblank hnest, ← siblings, hnone]
  · next hplus =>
    have hblank : isBlankText group = true := List.all_eq_true.mpr fun c hc ↦
      (hgroup c hc).resolve_right fun heq ↦ hplus (heq ▸ hc)
    rw [texts, Part.texts, Part.cut_of_isBlankText _ 0 hblank]
    rfl

private theorem OmitsGroup.exists_texts {outer path path' : Text}
    (h : OmitsGroup group outer path path') :
    ∃ inner, texts path = texts outer ++ (texts group ++ inner) ∧
      texts path' = texts outer ++ inner := by
  have hdepthGroup := depthBehind_of_blanks hgroup
  cases h with
  | outermost b => exact ⟨texts path', texts_append_nest path' hdepthGroup, rfl⟩
  | between a b hdepth =>
    refine ⟨texts b, ?_, texts_append_nest b hdepth⟩
    rw [texts_append_nest _ hdepth, texts_append_nest b hdepthGroup]
  | innermost a hdepth =>
    refine ⟨[], ?_, (List.append_nil _).symm⟩
    rw [texts_append_nest group hdepth, List.append_nil]

end Blanks

private theorem markup_append_nil_cons (policy : Policy) (overrides : Attributes AttributeValue)
    (content : Text) (outer inner : List (List Segment)) :
    markup policy overrides content ⟨outer ++ [] :: inner⟩ =
      markup policy overrides [] ⟨outer⟩ := by
  cases outer with
  | nil => rfl
  | cons outermost outer =>
    exact markup_append policy overrides content (List.cons_ne_nil _ _) (List.cons_ne_nil _ _)

/-- Leaving out a group of blanks and plus signs does not change whether a path expands. If the
group is blank it does not change the markup either. With a plus sign in it, the group had made the
path expand to what is in front of it around nothing. -/
theorem expand_omitsGroup (policy : Policy) (content : Value)
    (overrides : Attributes AttributeValue) {group outer path path' : Text}
    (h : OmitsGroup group outer path path')
    (hgroup : ∀ c ∈ group, isBlank c = true ∨ c = siblingSeparator) :
    ((∃ result, expand policy path content overrides = .ok result) ↔
      ∃ result, expand policy path' content overrides = .ok result) ∧
    (siblingSeparator ∉ group → ∀ result,
      expand policy path content overrides = .ok result ↔
        expand policy path' content overrides = .ok result) ∧
    (siblingSeparator ∈ group → ∀ result,
      expand policy path content overrides = .ok result ↔
        (∃ result', expand policy path' content overrides = .ok result') ∧
          expand policy outer (.text []) overrides = .ok result) := by
  obtain ⟨inner, hpath, hpath'⟩ := h.exists_texts hgroup
  have hgroupTexts := texts_of_blanks hgroup
  have hgroupReadable : Readable group := by
    rw [Readable, hgroupTexts]
    split <;> simp
  have hsplit : Readable path' ↔
      Readable outer ∧ ∀ raws ∈ inner, ∀ raw ∈ raws, Segment.Readable raw := by
    rw [Readable, hpath', List.forall_mem_append]
    rfl
  have hreadable : Readable path ↔ Readable path' := by
    rw [hsplit, Readable, hpath, List.forall_mem_append, List.forall_mem_append]
    exact and_congr_right fun _ ↦ and_iff_right hgroupReadable
  refine ⟨?_, fun hplus result ↦ ?_, fun hplus result ↦ ?_⟩
  · rw [exists_expand_iff, exists_expand_iff, hreadable]
  · have hsame : ofText path = ofText path' := by
      rw [ofText, hpath, hgroupTexts, if_neg hplus, List.nil_append, ofText, hpath']
    rw [expand_eq_ok_iff, expand_eq_ok_iff, hreadable, hsame]
  · have hempty : markup policy overrides content.contentText (ofText path) =
        markup policy overrides [] (ofText outer) := by
      rw [ofText, hpath, hgroupTexts, if_pos hplus, List.map_append]
      exact markup_append_nil_cons policy overrides content.contentText _ _
    rw [exists_expand_iff, expand_eq_ok_iff, expand_eq_ok_iff, hreadable, hempty]
    constructor
    · rintro ⟨hread, hresult⟩
      exact ⟨hread, (hsplit.mp hread).1, hresult⟩
    · rintro ⟨hread, -, hresult⟩
      exact ⟨hread, hresult⟩

/-- A blank group between two others may be left out. -/
theorem expand_omitsGroup_blank :
    expand .standard "ul/ /li+%".toList (.text "x".toList) .empty =
      .ok "<ul><li></li>x</ul>".toList := by
  have hgroup : ∀ c ∈ " ".toList, isBlank c = true ∨ c = siblingSeparator := by
    intro c hc
    obtain rfl : c = ' ' := List.mem_singleton.mp hc
    exact .inl (by decide)
  have homits : OmitsGroup " ".toList "ul".toList "ul/ /li+%".toList "ul/li+%".toList :=
    .between "ul".toList "li+%".toList (by decide)
  have hblank := (expand_omitsGroup .standard (.text "x".toList) .empty homits hgroup).2.1
  exact (hblank (by decide) _).mpr (eq_ok_of_toOption (by decide +kernel))

/-- A group that is only a plus sign is not blank, and takes away what stands inside it. -/
theorem expand_omitsGroup_plus :
    OmitsGroup "+".toList "a".toList "a/+/b".toList "a/b".toList ∧
      (∀ c ∈ "+".toList, isBlank c = true ∨ c = siblingSeparator) ∧
      pieces "a/+/b".toList ≠ [] ∧
      expand .standard "a/+/b".toList (.text "x".toList) .empty = .ok "<a></a>".toList ∧
      expand .standard "a/b".toList (.text "x".toList) .empty = .ok "<a><b>x</b></a>".toList :=
  ⟨.between "a".toList "b".toList (by decide), fun _ hc ↦ .inr (List.mem_singleton.mp hc),
    by decide +kernel, eq_ok_of_toOption (by decide +kernel), eq_ok_of_toOption (by decide +kernel)⟩

end Shorthand.Path
