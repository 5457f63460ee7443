import Shorthand.Proofs.Dialects.Chain
import Shorthand.Proofs.Dialects.Conversion
import Shorthand.Proofs.Path.Reading
import Shorthand.Proofs.Template.Holes

/-!
# The agreement of the dialects

The main statement is that a path and the template that it is written as expand to the same
markup around the same content, wherever the template can be read. Its proof finds in the
derivation of the template a chain whose rows are the groups of the path.
-/

namespace Shorthand

namespace Template.Grammar

open Text Outline

/-! ### Items of converted paths -/

section Lexemes

variable {s run after blanks : Text} {marks : List Mark} {c : Char}

private theorem not_mem_plains (h : ∀ d ∈ s, isStop d = false) (hstop : isStop c = true) :
    .plain c ∉ Outline.plains s := by
  intro hmem
  have hkeep := h c (Outline.plain_mem_plains.mp hmem)
  exact ne_of_isStop hkeep hstop rfl

private theorem eq_of_mem_marksOutline (hfit : MarksFit after marks) (hstop : isStop c = true)
    (hmem : .plain c ∈ marksOutline marks) : c = '#' ∨ c = '.' ∨ c = placeholderMark := by
  have hmarker : ∀ marker : Marker, marker.char = '#' ∨ marker.char = '.' := by
    intro marker
    cases marker
    · exact .inl rfl
    · exact .inr rfl
  obtain ⟨mark, hmark, hx⟩ := List.mem_flatMap.mp hmem
  obtain ⟨rest, hfits⟩ := hfit.fits_of_mem hmark
  cases mark with
  | hole marker =>
    rcases List.mem_cons.mp hx with heq | hx
    · obtain rfl := Lexeme.plain.inj heq
      exact (hmarker marker).elim .inl fun h ↦ .inr (.inl h)
    · obtain rfl := Lexeme.plain.inj (List.mem_singleton.mp hx)
      exact .inr (.inr rfl)
  | run marker value =>
    rcases List.mem_cons.mp hx with heq | hx
    · obtain rfl := Lexeme.plain.inj heq
      exact (hmarker marker).elim .inl fun h ↦ .inr (.inl h)
    · exact absurd hx (not_mem_plains (isStop_of_run hfits.2.1) hstop)
  | bracket body => exact absurd hx (by simp [Mark.outline])

private theorem not_mem_head (hfit : HeadFits run marks after)
    (hc : c = '(' ∨ c = ')' ∨ c = '+') :
    .plain c ∉ Outline.plains run ++ marksOutline marks := by
  have hstop : isStop c = true := by
    rcases hc with rfl | rfl | rfl <;> decide
  intro hmem
  rcases List.mem_append.mp hmem with hx | hx
  · exact not_mem_plains hfit.isStop_eq_false hstop hx
  · rcases eq_of_mem_marksOutline hfit.2.2 hstop hx with rfl | rfl | rfl <;>
      exact absurd hc (by decide)

private theorem outline_leaf (run : Text) (marks : List Mark) (blanks : Text) :
    Item.outline ⟨run, marks, .nothing, blanks⟩ =
      Outline.plains run ++ marksOutline marks ++ Outline.plains blanks := by
  rw [Item.outline, Inner.outline, List.append_nil]

private theorem not_mem_leaf (hfit : HeadFits run marks after)
    (hblanks : ∀ c ∈ blanks, isBlank c = true) (hc : c = '(' ∨ c = ')' ∨ c = '+') :
    .plain c ∉ Item.outline ⟨run, marks, .nothing, blanks⟩ := by
  have hstop : isStop c = true := by
    rcases hc with rfl | rfl | rfl <;> decide
  rw [outline_leaf, List.mem_append, not_or]
  exact ⟨not_mem_head hfit hc, not_mem_plains (isStop_of_blanks hblanks) hstop⟩

private theorem exists_hole_of_mem (hfit : MarksFit after marks)
    (hmem : .plain placeholderMark ∈ marksOutline marks) :
    ∃ earlier marker later, marks = earlier ++ .hole marker :: later := by
  obtain ⟨mark, hmark, hx⟩ := List.mem_flatMap.mp hmem
  obtain ⟨rest, hfits⟩ := hfit.fits_of_mem hmark
  cases mark with
  | bracket body => exact absurd hx (by simp [Mark.outline])
  | run marker value =>
    rcases List.mem_cons.mp hx with hmarker | hvalue
    · exact absurd hmarker (by cases marker <;> decide)
    · exact absurd hvalue (not_mem_plains (isStop_of_run hfits.2.1) (by decide))
  | hole marker =>
    obtain ⟨earlier, later, heq⟩ := List.append_of_mem hmark
    exact ⟨earlier, marker, later, heq⟩

end Lexemes

section Leaf

variable {run after blanks : Text} {marks : List Mark} {o : Outline}

private theorem trim_ne_nil {marker : Marker} {value : Text} {later : List Mark}
    (hfits : (Mark.run marker value).Fits (marksText later ++ blanks))
    (hfilled : markersFilled (.plain marker.char ::
      (Outline.plains value ++ (marksOutline later ++ Outline.plains blanks))) = true) :
    trim value ≠ [] := by
  have hmarker : ∀ m : Marker, isMarker (.plain m.char) = true ∧
      isRunLexeme (.plain m.char) = false := by
    intro m
    cases m <;> decide +kernel
  have hvalue : ∀ x ∈ Outline.plains value, isRunLexeme x = true := by
    intro x hx
    obtain ⟨c, hc, rfl⟩ := List.mem_map.mp hx
    exact hfits.2.1 c hc
  have hend : (marksOutline later ++ Outline.plains blanks).takeWhile isRunLexeme = [] := by
    cases later with
    | cons mark later =>
      cases mark with
      | bracket body => rfl
      | hole m => exact List.takeWhile_cons_of_neg (by rw [(hmarker m).2]; decide)
      | run m text => exact List.takeWhile_cons_of_neg (by rw [(hmarker m).2]; decide)
    | nil =>
      cases blanks with
      | nil => rfl
      | cons c blanks =>
        have hc : isRunLexeme (.plain c) = false := hfits.2.2 c rfl
        exact List.takeWhile_cons_of_neg (by rw [hc]; decide)
  rw [markersFilled, (hmarker marker).1, List.takeWhile_append_of_pos hvalue, hend,
    List.append_nil, Bool.and_eq_true, Bool.not_true, Bool.false_or, List.any_eq_true] at hfilled
  obtain ⟨⟨x, hx, hspace⟩, -⟩ := hfilled
  obtain ⟨c, hc, rfl⟩ := List.mem_map.mp hx
  rw [Ne, trim_eq_nil_iff, isBlankText, List.all_eq_true]
  intro hblank
  have hne : c ≠ ' ' := by
    rintro rfl
    exact absurd hspace (by decide)
  have hnot := isBlank_of_isRunChar (hfits.2.1 c hc) hne
  rw [hblank c hc] at hnot
  exact absurd hnot (by decide)

private theorem isSegment_of_convertible (hfit : HeadFits run marks blanks)
    (hblanks : ∀ c ∈ blanks, isBlank c = true)
    (hconv : Convertible (Item.outline ⟨run, marks, .nothing, blanks⟩))
    (hslash : .plain Path.nestSeparator ∉ Item.outline ⟨run, marks, .nothing, blanks⟩) :
    Item.IsSegment ⟨run, marks, .nothing, blanks⟩ ∧
      Path.IsPart (Item.outline ⟨run, marks, .nothing, blanks⟩) := by
  have hplus : .plain Path.siblingSeparator ∉ Item.outline ⟨run, marks, .nothing, blanks⟩ :=
    not_mem_leaf hfit hblanks (by decide)
  have hparts := hconv.parts
  rw [List.splitOnP_eq_singleton] at hparts
  · have hblank := hparts _ (List.mem_singleton_self _)
    rw [Item.text_outline] at hblank
    have hwf : Item.WellFormed ⟨run, marks, .nothing, blanks⟩ := ⟨hfit, trivial, hblanks, hblank⟩
    refine ⟨⟨hwf, rfl, ?_⟩, ⟨hwf.outline.1, by rwa [Item.text_outline], hslash, hplus⟩⟩
    intro mark hmark
    obtain ⟨earlier, later, rfl⟩ := List.append_of_mem hmark
    have hmem : ∀ x ∈ mark.outline,
        x ∈ Item.outline ⟨run, earlier ++ mark :: later, .nothing, blanks⟩ := by
      intro x hx
      simp [outline_leaf, hx]
    cases mark with
    | hole marker =>
      have hplace := hmem (.plain placeholderMark) (by simp [Mark.outline])
      exact absurd hplace hconv.placeholder_not_mem
    | run marker value =>
      obtain ⟨-, hfits, -⟩ := marksFit_append.mp hfit.2.2
      apply trim_ne_nil hfits
      have hmarkers := hconv.markers
      simp only [outline_leaf, marksOutline_append, marksOutline_cons, Mark.outline,
        List.append_assoc, List.cons_append] at hmarkers
      rw [← List.append_assoc] at hmarkers
      exact markersFilled_of_append hmarkers
    | bracket body => exact hconv.isHole (.bracket body) (hmem _ (by simp [Mark.outline]))
  · exact isSeparator_eq_false hslash hplus

private theorem isSegment_head (hfit : HeadFits run marks after)
    (hhead : o = Outline.plains run ++ marksOutline marks) (hconv : Convertible o)
    (hslash : .plain Path.nestSeparator ∉ o) :
    o = Item.outline ⟨run, marks, .nothing, []⟩ ∧ Item.IsSegment ⟨run, marks, .nothing, []⟩ ∧
      Path.IsPart (Item.outline ⟨run, marks, .nothing, []⟩) := by
  have hleaf : o = Item.outline ⟨run, marks, .nothing, []⟩ := by
    rw [outline_leaf, hhead]
    exact (List.append_nil _).symm
  rw [hleaf] at hconv hslash
  have hfit' : HeadFits run marks [] := hfit.of_beginsLike fun c hc ↦ absurd hc (by simp)
  exact ⟨hleaf, isSegment_of_convertible hfit' (by simp) hconv hslash⟩

private theorem outline_nothing_ne (h : Item.WellFormed ⟨run, marks, .nothing, blanks⟩)
    (hconv : Convertible o) : Item.outline ⟨run, marks, .nothing, blanks⟩ ≠ template o := by
  intro heq
  obtain ⟨hfit, -, hblanks, -⟩ := h
  have hopening : .plain '(' ∉ template o := by
    rw [← heq]
    exact not_mem_leaf hfit hblanks (by decide)
  rw [(template_eq hopening).1, outline_leaf] at heq
  -- The percent sign at the end can only be that of a decoration, which leaves a bare marker.
  have hnoBlanks := not_mem_plains (c := placeholderMark) (isStop_of_blanks hblanks) (by decide)
  have hnoRun := not_mem_plains (c := placeholderMark) hfit.isStop_eq_false (by decide)
  obtain ⟨rest, hhead, hrest⟩ := of_not_mem_right hnoBlanks heq
  obtain ⟨rfl, -⟩ := List.append_eq_nil_iff.mp hrest.symm
  obtain ⟨rest, rfl, hmarks⟩ := of_not_mem_left hnoRun hhead
  obtain ⟨earlier, marker, later, rfl⟩ := exists_hole_of_mem hfit.2.2 (by rw [hmarks]; simp)
  have hsplit : rest ++ [.plain placeholderMark] =
      (marksOutline earlier ++ [.plain marker.char]) ++
        .plain placeholderMark :: marksOutline later := by
    rw [← hmarks]
    simp [Mark.outline]
  have hnone : .plain placeholderMark ∉ rest := fun hmem ↦
    hconv.placeholder_not_mem (List.mem_append_right _ hmem)
  obtain ⟨tail, hbare, htail⟩ := of_not_mem_left hnone hsplit
  obtain rfl : tail = [] := by
    cases tail with
    | nil => rfl
    | cons x tail => exact absurd (List.cons.inj htail).2 (by simp)
  have hmarkers := hconv.markers
  rw [← List.append_nil rest, ← hbare] at hmarkers
  have hlast := markersFilled_of_append (markersFilled_of_append hmarkers)
  exact absurd hlast (by cases marker <;> decide)

end Leaf

/-! ### Chains of converted paths -/

/-- The rows of a chain are the groups of a path. -/
structure HasRows (group : Group) (o : Outline) (rows : List (List Item)) : Prop where
  chain : Chain group rows
  items : ∀ row ∈ rows, ∀ item ∈ row, item.IsSegment ∧ Path.IsPart item.outline
  outline_eq : o = Path.outline (rows.map (·.map Item.outline))

section Rows

variable {run blanks : Text} {marks : List Mark} {inside others : Group} {item : Item}
  {o p q : Outline} {rows : List (List Item)}

/-- An item with a placeholder as its content is the last segment of a path. -/
theorem HasRows.hole (hitem : Item.IsSegment ⟨run, marks, .nothing, []⟩ ∧
      Path.IsPart (Item.outline ⟨run, marks, .nothing, []⟩)) :
    HasRows (.one ⟨run, marks, .hole, []⟩) (Item.outline ⟨run, marks, .nothing, []⟩)
      [[⟨run, marks, .nothing, []⟩]] where
  chain := .hole run marks
  items := by simpa using hitem
  outline_eq := by simp [Path.outline]

/-- An item with a chain as its content is a group in front of those of the chain. -/
theorem HasRows.group (hitem : Item.IsSegment ⟨run, marks, .nothing, []⟩ ∧
      Path.IsPart (Item.outline ⟨run, marks, .nothing, []⟩)) (h : HasRows inside q rows) :
    HasRows (.one ⟨run, marks, .group inside, []⟩)
      (Item.outline ⟨run, marks, .nothing, []⟩ ++ .plain Path.nestSeparator :: q)
      ([⟨run, marks, .nothing, []⟩] :: rows) where
  chain := .group run marks h.chain
  items := by
    intro row hrow
    rcases List.mem_cons.mp hrow with rfl | hmem
    · simpa using hitem
    · exact h.items row hmem
  outline_eq := by
    have hsome : rows.map (·.map Item.outline) ≠ [] := by simpa using h.chain.ne_nil.1
    rw [List.map_cons, Path.outline_cons _ hsome, ← h.outline_eq]
    simp

/-- An item in front of a chain is a segment in front of those of the first group. -/
theorem HasRows.more (hitem : item.IsSegment ∧ Path.IsPart item.outline)
    (h : HasRows others q rows) :
    ∃ rows', HasRows (.more item others)
      (item.outline ++ .plain Path.siblingSeparator :: q) rows' := by
  obtain ⟨hne, hfull⟩ := h.chain.ne_nil
  obtain ⟨row, rows, rfl⟩ := List.exists_cons_of_ne_nil hne
  refine ⟨_, .more item h.chain, ?_, ?_⟩
  · intro row' hrow'
    rcases List.mem_cons.mp hrow' with rfl | hmem
    · intro item' hitem'
      rcases List.mem_cons.mp hitem' with rfl | hmem'
      · exact hitem
      · exact h.items row (List.mem_cons_self ..) item' hmem'
    · exact h.items row' (List.mem_cons_of_mem _ hmem)
  · have hsome : row.map Item.outline ≠ [] := by simpa using hfull row (List.mem_cons_self ..)
    rw [List.map_cons, List.map_cons, Path.outline_cons_cons _ _ hsome, h.outline_eq]
    rfl

private theorem exists_rows_hole (h : Item.WellFormed ⟨run, marks, .hole, blanks⟩)
    (hconv : Convertible o) (heq : Item.outline ⟨run, marks, .hole, blanks⟩ = template o) :
    ∃ rows, HasRows (.one ⟨run, marks, .hole, blanks⟩) o rows := by
  obtain ⟨hfit, -, hblanks, -⟩ := h
  rw [Item.outline, Inner.outline, List.append_assoc, List.singleton_append] at heq
  have hopening : .plain '(' ∉ template o := by
    rw [← heq, List.mem_append, List.mem_cons, not_or, not_or]
    exact ⟨not_mem_head hfit (by decide), by decide,
      not_mem_plains (isStop_of_blanks hblanks) (by decide)⟩
  obtain ⟨htemplate, hslash⟩ := template_eq hopening
  rw [htemplate] at heq
  obtain ⟨rest, hhead, hrest⟩ := of_not_mem_left hconv.placeholder_not_mem heq.symm
  cases rest with
  | cons x rest => exact absurd (List.cons.inj hrest).2 (by simp)
  | nil =>
    obtain rfl : blanks = [] := by simpa [Outline.plains] using (List.cons.inj hrest).2.symm
    rw [List.append_nil] at hhead
    obtain ⟨rfl, hitem⟩ := isSegment_head hfit hhead.symm hconv hslash
    exact ⟨_, .hole hitem⟩

private theorem exists_rows_group (h : Item.WellFormed ⟨run, marks, .group inside, blanks⟩)
    (hconv : Convertible o)
    (ih : ∀ p, Convertible p → inside.outline = template p → ∃ rows, HasRows inside p rows)
    (heq : Item.outline ⟨run, marks, .group inside, blanks⟩ = template o) :
    ∃ rows, HasRows (.one ⟨run, marks, .group inside, blanks⟩) o rows := by
  obtain ⟨hfit, -, hblanks, -⟩ := h
  have hsplit : template o = (Outline.plains run ++ marksOutline marks) ++
      .plain '(' :: (inside.outline ++ [.plain ')'] ++ Outline.plains blanks) := by
    rw [← heq]
    simp [Item.outline, Inner.outline]
  obtain ⟨p, y, q, rfl, hp, hy, hbehind⟩ :=
    Convertible.exists_split (by decide) (by decide) hsplit
  obtain rfl : y = .plain Path.nestSeparator := of_converted_opening hy fun hopening ↦
    hconv.opening (by rw [hopening]; simp)
  have hopening : .plain '(' ∉ p.map converted := by
    rw [hp]
    exact not_mem_head hfit (by decide)
  obtain ⟨hmap, hslash⟩ := map_converted hopening
  have hhead : p = Outline.plains run ++ marksOutline marks := by rw [← hmap, hp]
  have hplus : .plain Path.siblingSeparator ∉ p := by
    rw [hhead]
    exact not_mem_head hfit (by decide)
  -- The parenthesis that closes the group is the last one of the template.
  have hcount : (p ++ .plain Path.nestSeparator :: q).count (.plain Path.nestSeparator) =
      q.count (.plain Path.nestSeparator) + 1 := by
    rw [List.count_append, List.count_eq_zero_of_not_mem hslash, List.count_cons_self]
    omega
  rw [hcount, ending_succ, ← List.append_assoc, ← template] at hbehind
  have hnoBlanks : .plain ')' ∉ Outline.plains blanks :=
    not_mem_plains (isStop_of_blanks hblanks) (by decide)
  obtain ⟨rest, hinside, hrest⟩ := of_not_mem_right hnoBlanks hbehind
  obtain ⟨rfl, hnone⟩ := List.append_eq_nil_iff.mp hrest.symm
  obtain rfl : blanks = [] := by simpa [Outline.plains] using hnone
  obtain ⟨hconvHead, hconvInside⟩ := hconv.split (by decide) (isSeparator_eq_false hslash hplus)
  obtain ⟨rows, hrows⟩ := ih q hconvInside (List.append_cancel_right hinside)
  obtain ⟨rfl, hitem⟩ := isSegment_head hfit hhead hconvHead hslash
  exact ⟨_, .group hitem hrows⟩

private theorem inner_eq_nothing (hconv : Convertible o)
    (heq : (Group.more item others).outline = template o) : item.inner = .nothing := by
  obtain ⟨run, marks, inner, blanks⟩ := item
  cases inner with
  | nothing => rfl
  | hole =>
    have hsplit : template o = (Outline.plains run ++ marksOutline marks) ++
        .plain placeholderMark :: (Outline.plains blanks ++ .plain '+' :: others.outline) := by
      rw [← heq]
      simp [Group.outline, Item.outline, Inner.outline]
    have hplus := hconv.eq_closing (.inl rfl) hsplit (.plain '+') (by simp)
    exact absurd hplus (by decide)
  | group inside =>
    have hsplit : template o = (Outline.plains run ++ marksOutline marks ++
        .plain '(' :: inside.outline) ++
          .plain ')' :: (Outline.plains blanks ++ .plain '+' :: others.outline) := by
      rw [← heq]
      simp [Group.outline, Item.outline, Inner.outline]
    have hplus := hconv.eq_closing (.inr rfl) hsplit (.plain '+') (by simp)
    exact absurd hplus (by decide)

private theorem exists_rows_more (h : item.WellFormed) (hconv : Convertible o)
    (ih : ∀ p, Convertible p → others.outline = template p → ∃ rows, HasRows others p rows)
    (heq : (Group.more item others).outline = template o) :
    ∃ rows, HasRows (.more item others) o rows := by
  have hinner := inner_eq_nothing hconv heq
  obtain ⟨run, marks, inner, blanks⟩ := item
  obtain rfl : inner = .nothing := hinner
  obtain ⟨hfit, -, hblanks, -⟩ := h
  rw [Inner.text, List.nil_append] at hfit
  rw [Group.outline] at heq
  obtain ⟨p, y, q, rfl, hp, hy, hbehind⟩ :=
    Convertible.exists_split (by decide) (by decide) heq.symm
  obtain rfl : y = .plain Path.siblingSeparator := of_converted hy (by decide)
  have hopening : .plain '(' ∉ p.map converted := by
    rw [hp]
    exact not_mem_leaf hfit hblanks (by decide)
  obtain ⟨hmap, hslash⟩ := map_converted hopening
  obtain rfl : Item.outline ⟨run, marks, .nothing, blanks⟩ = p := by rw [← hmap, hp]
  have hplus : .plain Path.siblingSeparator ∉ Item.outline ⟨run, marks, .nothing, blanks⟩ :=
    not_mem_leaf hfit hblanks (by decide)
  have hcount : (Item.outline ⟨run, marks, .nothing, blanks⟩ ++
      .plain Path.siblingSeparator :: q).count (.plain Path.nestSeparator) =
        q.count (.plain Path.nestSeparator) := by
    rw [List.count_append, List.count_eq_zero_of_not_mem hslash, Nat.zero_add,
      List.count_cons_of_ne (by decide)]
  rw [hcount, ← template] at hbehind
  obtain ⟨hconvItem, hconvOthers⟩ := hconv.split (by decide) (isSeparator_eq_false hslash hplus)
  obtain ⟨rows, hrows⟩ := ih q hconvOthers hbehind
  exact hrows.more (isSegment_of_convertible hfit hblanks hconvItem hslash)

end Rows

/-- The derivation of a converted path is a chain with the groups of the path as its rows. -/
theorem exists_rows {group : Group} {o : Outline} (hwf : group.WellFormed)
    (hconv : Convertible o) (heq : group.outline = template o) :
    ∃ rows, HasRows group o rows := by
  induction group generalizing o with
  | one item ihInside =>
    obtain ⟨run, marks, inner, blanks⟩ := item
    cases inner with
    | nothing => exact absurd heq (outline_nothing_ne hwf hconv)
    | hole => exact exists_rows_hole hwf hconv heq
    | group inside =>
      exact exists_rows_group hwf hconv
        (fun p hp hinside ↦ ihInside inside rfl (Item.WellFormed.inside hwf rfl) hp hinside) heq
  | more item others ihInside ihOthers =>
    obtain ⟨hitem, hothers⟩ := hwf
    exact exists_rows_more hitem hconv (fun p hp h ↦ ihOthers hothers hp h) heq

/-- A chain with the groups of a path as its rows expands to what the path expands to. -/
theorem HasRows.expand {group : Group} {o : Outline} {rows : List (List Item)}
    (h : HasRows group o rows) (policy : Policy) (value : Value)
    (hdefault : policy.defaultTag ≠ Segment.spliceTag) :
    ∃ markup, Path.expand policy (Outline.text o) value .empty = .ok markup ∧
      fill policy group.forest [value] = some (markup, []) := by
  obtain ⟨hchain, hitems, rfl⟩ := h
  obtain ⟨hne, hfull⟩ := hchain.ne_nil
  have hread := Path.read_outline hne
    (fun row hrow ↦ ⟨hfull row hrow, fun item hitem ↦ (hitems row hrow item hitem).2⟩)
    fun row hrow item hitem selector? offset? ↦ by
      rw [Item.text_outline]
      exact (hitems row hrow item hitem).1.read selector? offset?
  have hfill := hchain.fill hdefault (fun row hrow item hitem ↦ (hitems row hrow item hitem).1)
    value []
  refine ⟨_, ?_, hfill⟩
  obtain ⟨row, rows, rfl⟩ := List.exists_cons_of_ne_nil hne
  rw [Path.expand, hread]
  rfl

end Template.Grammar

open Outline Template.Grammar

/-- A path and the template that it is written as expand to the same markup around the same
content: if nothing in the path has a meaning of its own in templates, every marker in it has a
value and no part is blank, then the path expands wherever the template can be read, and so does
the template, to the same markup. -/
theorem Path.expand_eq_expand_template {policy : Policy} {path : Text} {o : Outline}
    {forest : Template.Forest} (content : Value) (houtline : Outline.of? path = some o)
    (hconv : Convertible o) (hdefault : policy.defaultTag ≠ Segment.spliceTag)
    (hparse : Template.parse (Outline.text (template o)) = .ok forest) :
    ∃ markup, Path.expand policy path content .empty = .ok markup ∧
      Template.expand policy (Outline.text (template o)) [content] = .ok markup := by
  obtain ⟨hwf, rfl⟩ := Outline.of?_eq_some_iff.mp houtline
  rcases Template.parse_eq_ok_iff.mp hparse with ⟨hblank, -⟩ | ⟨group, hgroup, htext, rfl⟩
  · have hmem : placeholderMark ∈ Outline.text (template o) := by
      simp [template, ending, Lexeme.text]
    exact absurd (List.all_eq_true.mp hblank _ hmem) (by decide +kernel)
  · have hsame : group.outline = template o := by
      have hof := Outline.of?_text (wellFormed_template hwf)
      rw [← htext, hgroup.of?_text] at hof
      exact Option.some.inj hof
    obtain ⟨rows, hrows⟩ := exists_rows hgroup hconv hsame
    obtain ⟨markup, hpath, hfill⟩ := hrows.expand policy content hdefault
    refine ⟨markup, hpath, ?_⟩
    rw [Template.Grammar.expand_of_parse policy [content] hparse, hfill]

/-- A path with a separator in brackets and siblings in two of its groups is one that agrees with
its template. -/
theorem Path.expand_eq_expand_template_nested :
    ∃ markup, Path.expand .standard "ul#a b+p.c[x=1/2]/li + [y]/b".toList .null .empty =
        .ok markup ∧
      Template.expand .standard "ul#a b+p.c[x=1/2](li + [y](b%))".toList [.null] =
        .ok markup := by
  have hok : (Template.parse "ul#a b+p.c[x=1/2](li + [y](b%))".toList).isOk = true := by
    decide +kernel
  obtain ⟨forest, hforest⟩ := Template.exists_forest_of_isOk hok
  have houtline : Outline.of? "ul#a b+p.c[x=1/2]/li + [y]/b".toList =
      some (Outline.plains "ul#a b+p.c".toList ++ .bracket "x=1/2".toList ::
        (Outline.plains "/li + ".toList ++ .bracket "y".toList :: Outline.plains "/b".toList)) := by
    decide +kernel
  have hconv : Convertible (Outline.plains "ul#a b+p.c".toList ++ .bracket "x=1/2".toList ::
      (Outline.plains "/li + ".toList ++ .bracket "y".toList :: Outline.plains "/b".toList)) :=
    ⟨by decide +kernel, by decide +kernel, by decide +kernel, by decide +kernel,
      by decide +kernel⟩
  exact Path.expand_eq_expand_template .null houtline hconv (by decide) hforest

end Shorthand
