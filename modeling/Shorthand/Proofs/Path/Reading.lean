import Shorthand.Path.Basic
import Shorthand.Proofs.Path.Parts

/-!
# Reading paths

What a path is read as if its parts are known. The main statement is that a path put together from
outlines, with plus signs between those of a group and slashes between the groups, is read as what
the outlines are read as, provided that no outline is blank or holds a separator.
-/

namespace Shorthand.Path

open Text

/-- The outline of groups of outlines with the separators of paths between them. -/
def outline (groups : List (List Outline)) : Outline :=
  [.plain nestSeparator].intercalate
    (groups.map fun group ↦ [.plain siblingSeparator].intercalate group)

/-- A group stands in front of a slash and the groups inside it. -/
theorem outline_cons (group : List Outline) {groups : List (List Outline)} (hne : groups ≠ []) :
    outline (group :: groups) =
      [.plain siblingSeparator].intercalate group ++ .plain nestSeparator :: outline groups := by
  rw [outline, List.map_cons, List.intercalate_cons_of_ne_nil (by simpa using hne),
    List.append_assoc, List.singleton_append]
  rfl

/-- The first part of a group stands in front of a plus sign and the other ones. -/
theorem outline_cons_cons (o : Outline) {group : List Outline} (groups : List (List Outline))
    (hne : group ≠ []) :
    outline ((o :: group) :: groups) =
      o ++ .plain siblingSeparator :: outline (group :: groups) := by
  have hgroup : [.plain siblingSeparator].intercalate (o :: group) =
      o ++ .plain siblingSeparator :: [.plain siblingSeparator].intercalate group := by
    rw [List.intercalate_cons_of_ne_nil hne, List.append_assoc, List.singleton_append]
  cases groups with
  | nil => simp [outline, hgroup]
  | cons next groups =>
    rw [outline_cons _ (List.cons_ne_nil _ _), outline_cons _ (List.cons_ne_nil _ _), hgroup,
      List.append_assoc, List.cons_append]

/-- Whether an outline can be a part of a path: it is well formed, not blank and has no separator
outside brackets. -/
structure IsPart (o : Outline) : Prop where
  wellFormed : o.WellFormed
  isBlankText : isBlankText (Outline.text o) = false
  nest : Lexeme.plain nestSeparator ∉ o
  sibling : Lexeme.plain siblingSeparator ∉ o

/-! ### Parts -/

private theorem mem_intercalate {x y : Lexeme} {os : List Outline} (h : x ∈ [y].intercalate os) :
    x = y ∨ ∃ o ∈ os, x ∈ o := by
  induction os with
  | nil => exact absurd h (by simp)
  | cons o os ih =>
    cases os with
    | nil =>
      rw [List.intercalate_singleton] at h
      exact .inr ⟨o, List.mem_cons_self .., h⟩
    | cons p os =>
      rw [List.intercalate_cons_cons, List.mem_append, List.mem_append, List.mem_singleton] at h
      rcases h with (ho | hy) | hothers
      · exact .inr ⟨o, List.mem_cons_self .., ho⟩
      · exact .inl hy
      · rcases ih hothers with hy | ⟨q, hq, hx⟩
        · exact .inl hy
        · exact .inr ⟨q, List.mem_cons_of_mem _ hq, hx⟩

private theorem group_isPart {group : List Outline} (hne : group ≠ [])
    (h : ∀ o ∈ group, IsPart o) :
    Outline.WellFormed ([.plain siblingSeparator].intercalate group) ∧
      isBlankText (Outline.text ([.plain siblingSeparator].intercalate group)) = false ∧
      Lexeme.plain nestSeparator ∉ [.plain siblingSeparator].intercalate group := by
  refine ⟨?_, ?_, ?_⟩
  · intro x hx
    rcases mem_intercalate hx with rfl | ⟨o, ho, hxo⟩
    · decide
    · exact (h o ho).wellFormed x hxo
  · cases group with
    | nil => exact absurd rfl hne
    | cons o group =>
      have hblank := (h o (List.mem_cons_self ..)).isBlankText
      cases group with
      | nil => rwa [List.intercalate_singleton]
      | cons p group =>
        rw [List.intercalate_cons_cons, List.append_assoc, Outline.text_append, isBlankText,
          List.all_append]
        rw [isBlankText] at hblank
        rw [hblank, Bool.false_and]
  · intro hx
    rcases mem_intercalate hx with hsep | ⟨o, ho, hxo⟩
    · exact absurd hsep (by decide)
    · exact (h o ho).nest hxo

private theorem cut_eq_all {isSeparator : Char → Bool} {offset : Int} {s : Text} {texts : List Text}
    (htexts : (Part.all isSeparator offset s).map Part.text = texts)
    (h : ∀ t ∈ texts, isBlankText t = false) :
    Part.cut isSeparator offset s = Part.all isSeparator offset s := by
  rw [Part.cut, List.filter_eq_self]
  intro part hpart
  have hblank := h part.text (by rw [← htexts]; exact List.mem_map_of_mem hpart)
  rw [hblank]
  rfl

private theorem map_eq_map_of_text {α β : Type} {parts : List Part} {as : List α} {f : α → Text}
    {g : Part → β} {k : α → β} (htext : parts.map Part.text = as.map f)
    (h : ∀ a ∈ as, ∀ offset, g ⟨f a, offset⟩ = k a) : parts.map g = as.map k := by
  induction parts generalizing as with
  | nil =>
    cases as with
    | nil => rfl
    | cons a as => exact absurd htext (by simp)
  | cons part parts ih =>
    cases as with
    | nil => exact absurd htext (by simp)
    | cons a as =>
      obtain ⟨hpart, hparts⟩ := List.cons.inj htext
      have ha := h a (List.mem_cons_self ..) part.offset
      rw [← hpart] at ha
      have hothers := ih hparts fun b hb ↦ h b (List.mem_cons_of_mem _ hb)
      rw [List.map_cons, List.map_cons, hothers]
      exact congrArg (· :: _) ha

/-- The parts of a path are the texts of the outlines that it is put together from. -/
theorem text_parts {groups : List (List Outline)} (hne : groups ≠ [])
    (h : ∀ group ∈ groups, group ≠ [] ∧ ∀ o ∈ group, IsPart o) :
    (parts (Outline.text (outline groups))).map (·.map Part.text) =
      groups.map (·.map Outline.text) := by
  have hgroup : ∀ group ∈ groups, ∀ offset,
      (Part.cut (· == siblingSeparator) offset
        (Outline.text ([.plain siblingSeparator].intercalate group))).map Part.text =
          group.map Outline.text := by
    intro group hmem offset
    obtain ⟨hsome, hpart⟩ := h group hmem
    have hall := Part.text_all_intercalate siblingSeparator offset hsome (by decide)
      fun o ho ↦ ⟨(hpart o ho).wellFormed, (hpart o ho).sibling⟩
    rw [cut_eq_all hall, hall]
    intro t ht
    obtain ⟨o, ho, rfl⟩ := List.mem_map.mp ht
    exact (hpart o ho).isBlankText
  have hsome : groups.map (fun group ↦ [.plain siblingSeparator].intercalate group) ≠ [] := by
    simpa using hne
  have hparts : ∀ o ∈ groups.map (fun group ↦ [.plain siblingSeparator].intercalate group),
      Outline.WellFormed o ∧ isBlankText (Outline.text o) = false ∧
        Lexeme.plain nestSeparator ∉ o := by
    intro o ho
    obtain ⟨group, hmem, rfl⟩ := List.mem_map.mp ho
    exact group_isPart (h group hmem).1 (h group hmem).2
  have hall := Part.text_all_intercalate nestSeparator 0 hsome (by decide)
    fun o ho ↦ ⟨(hparts o ho).1, (hparts o ho).2.2⟩
  rw [parts, outline, cut_eq_all hall, List.map_map]
  · rw [List.map_map] at hall
    exact map_eq_map_of_text hall hgroup
  · intro t ht
    obtain ⟨o, ho, rfl⟩ := List.mem_map.mp ht
    exact (hparts o ho).2.1

/-! ### Segments -/

section Read

variable {α : Type} {path : Text} {f : α → Text} {k : α → Segment}

private theorem readGroup_eq_ok {parts : List Part} {as : List α}
    (htext : parts.map Part.text = as.map f)
    (h : ∀ a ∈ as, ∀ offset?, Segment.read (some path) offset? (f a) = .ok (k a)) :
    readGroup path parts = .ok (as.map k) := by
  induction parts generalizing as with
  | nil =>
    cases as with
    | nil => rfl
    | cons a as => exact absurd htext (by simp)
  | cons part parts ih =>
    cases as with
    | nil => exact absurd htext (by simp)
    | cons a as =>
      obtain ⟨hpart, hparts⟩ := List.cons.inj htext
      have ha := h a (List.mem_cons_self ..) (some part.offset)
      have hothers := ih hparts fun b hb ↦ h b (List.mem_cons_of_mem _ hb)
      rw [← hpart] at ha
      rw [readGroup, ha, hothers]
      rfl

private theorem readGroups_eq_ok {parts : List (List Part)} {groups : List (List α)}
    (htext : parts.map (·.map Part.text) = groups.map (·.map f))
    (h : ∀ group ∈ groups, ∀ a ∈ group, ∀ offset?,
      Segment.read (some path) offset? (f a) = .ok (k a)) :
    readGroups path parts = .ok (groups.map (·.map k)) := by
  induction parts generalizing groups with
  | nil =>
    cases groups with
    | nil => rfl
    | cons group groups => exact absurd htext (by simp)
  | cons part parts ih =>
    cases groups with
    | nil => exact absurd htext (by simp)
    | cons group groups =>
      obtain ⟨hpart, hparts⟩ := List.cons.inj htext
      have hgroup := readGroup_eq_ok hpart (h group (List.mem_cons_self ..))
      have hothers := ih hparts fun b hb ↦ h b (List.mem_cons_of_mem _ hb)
      rw [readGroups, hothers, hgroup]
      rfl

/-- A path put together from outlines is read as what the outlines are read as. -/
theorem read_outline {groups : List (List α)} {o : α → Outline} (hne : groups ≠ [])
    (hpart : ∀ group ∈ groups, group ≠ [] ∧ ∀ a ∈ group, IsPart (o a))
    (hread : ∀ group ∈ groups, ∀ a ∈ group, ∀ selector? offset?,
      Segment.read selector? offset? (Outline.text (o a)) = .ok (k a)) :
    read (Outline.text (outline (groups.map (·.map o)))) = .ok ⟨groups.map (·.map k)⟩ := by
  have hgroups : ∀ group ∈ groups.map (·.map o), group ≠ [] ∧ ∀ p ∈ group, IsPart p := by
    intro group hgroup
    obtain ⟨as, has, rfl⟩ := List.mem_map.mp hgroup
    obtain ⟨hsome, hparts⟩ := hpart as has
    refine ⟨by simpa using hsome, fun p hp ↦ ?_⟩
    obtain ⟨a, ha, rfl⟩ := List.mem_map.mp hp
    exact hparts a ha
  have htext := text_parts (by simpa using hne) hgroups
  simp only [List.map_map, Function.comp_def] at htext
  rw [read, readGroups_eq_ok htext fun group hgroup a ha offset? ↦ hread group hgroup a ha _ _]
  rfl

end Read

end Shorthand.Path
