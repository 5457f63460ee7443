import Shorthand.Proofs.Path.Expansion

/-!
# Paths put together

A path can be expanded one side of a separator at a time. The main statement says that behind a
slash stands the content of what is in front of it, and that what is in front of a plus sign is
written in front of what is behind it.
-/

namespace Shorthand.Path

open Text

variable {policy : Policy} {overrides : Attributes AttributeValue} {content : Text} {a b : Text}

/-! ### Markup of groups -/

private theorem markup_cons (policy : Policy) (overrides : Attributes AttributeValue)
    (content : Text) (outermost : List Segment) (inner : List (List Segment)) :
    markup policy overrides content ⟨outermost :: inner⟩ =
      groupMarkup policy overrides (nestMarkup policy content inner) outermost := rfl

/-- The markup of some groups inside others is the content of the outer ones. -/
theorem markup_append (policy : Policy) (overrides : Attributes AttributeValue) (content : Text)
    {outer inner : List (List Segment)} (houter : outer ≠ []) (hinner : inner ≠ []) :
    markup policy overrides content ⟨outer ++ inner⟩ =
      markup policy overrides (markup policy .empty content ⟨inner⟩) ⟨outer⟩ := by
  obtain ⟨outermost, outer, rfl⟩ := List.exists_cons_of_ne_nil houter
  have hinside : markup policy .empty content ⟨inner⟩ = nestMarkup policy content inner := by
    obtain ⟨group, inner, rfl⟩ := List.exists_cons_of_ne_nil hinner
    rfl
  have happend : nestMarkup policy content (outer ++ inner) =
      nestMarkup policy (nestMarkup policy content inner) outer := List.foldr_append
  rw [hinside, List.cons_append, markup_cons, markup_cons, happend]

private theorem groupMarkup_cons {segment : Segment} {rest : List Segment}
    (hsplice : segment.isSplice policy = false) (hne : rest ≠ []) :
    groupMarkup policy overrides content (segment :: rest) =
      segment.markup policy .empty [] [] ++ groupMarkup policy overrides content rest := by
  cases rest with
  | nil => exact absurd rfl hne
  | cons next rest =>
    rw [groupMarkup, Segment.markup, Segment.markup, hsplice]
    · rfl
    · exact List.cons_ne_nil _ _

/-- Segments without splices are written in front of those behind them as they are alone. -/
theorem groupMarkup_append {front back : List Segment}
    (hsplice : ∀ segment ∈ front, segment.isSplice policy = false) (hback : back ≠ []) :
    groupMarkup policy overrides content (front ++ back) =
      groupMarkup policy .empty [] front ++ groupMarkup policy overrides content back := by
  induction front with
  | nil => rfl
  | cons segment front ih =>
    have hsegment := hsplice segment (List.mem_cons_self ..)
    have hothers := ih fun s hs ↦ hsplice s (List.mem_cons_of_mem _ hs)
    have hrest : front ++ back ≠ [] := by simp [hback]
    rw [List.cons_append, groupMarkup_cons hsegment hrest, hothers]
    cases front with
    | nil => rfl
    | cons next front =>
      rw [groupMarkup_cons hsegment (List.cons_ne_nil _ _), List.append_assoc]

/-! ### Parts on both sides of a separator -/

private theorem ofText_ne_nil (h : pieces a ≠ []) : (ofText a).groups ≠ [] := by
  intro hgroups
  have htexts : texts a = [] := List.map_eq_nil_iff.mp hgroups
  have hpieces := flatten_texts a
  rw [htexts] at hpieces
  exact h (List.map_eq_nil_iff.mp hpieces.symm)

private theorem readable_append_nest (b : Text) (hdepth : Part.depthBehind 0 a = 0) :
    Readable (a ++ nestSeparator :: b) ↔ Readable a ∧ Readable b := by
  rw [Readable, texts_append_nest b hdepth, List.forall_mem_append]
  rfl

private theorem ofText_append_nest (b : Text) (hdepth : Part.depthBehind 0 a = 0) :
    ofText (a ++ nestSeparator :: b) = ⟨(ofText a).groups ++ (ofText b).groups⟩ := by
  rw [ofText, texts_append_nest b hdepth, List.map_append]
  rfl

private theorem isBlankText_of_pieces (h : pieces a ≠ []) : isBlankText a = false := by
  rw [← Bool.not_eq_true]
  intro hblank
  exact h (Part.cut_of_isBlankText _ 0 hblank)

/-- The texts of the parts of a path between plus signs outside brackets. -/
def siblings (path : Text) : List Text := Part.texts (· == siblingSeparator) path

private theorem siblings_ne_nil (h : pieces a ≠ []) (hnest : nestSeparator ∉ Part.outside 0 a) :
    siblings a ≠ [] := by
  intro hempty
  have hpieces := flatten_texts a
  rw [texts_of_outside (isBlankText_of_pieces h) hnest, ← siblings, hempty] at hpieces
  exact h (List.map_eq_nil_iff.mp hpieces.symm)

private theorem texts_append_sibling (hdepth : Part.depthBehind 0 a = 0) (ha : pieces a ≠ [])
    (hnestA : nestSeparator ∉ Part.outside 0 a) (hnestB : nestSeparator ∉ Part.outside 0 b) :
    texts (a ++ siblingSeparator :: b) = [siblings a ++ siblings b] := by
  have hblank : isBlankText (a ++ siblingSeparator :: b) = false :=
    isBlankText_append_left (isBlankText_of_pieces ha) _
  have hnest : nestSeparator ∉ Part.outside 0 (a ++ siblingSeparator :: b) := by
    have hplus : Part.outside 0 (siblingSeparator :: b) =
        siblingSeparator :: Part.outside 0 b := rfl
    rw [Part.outside_append, hdepth, hplus, List.mem_append, List.mem_cons, not_or, not_or]
    exact ⟨hnestA, by decide, hnestB⟩
  rw [texts_of_outside hblank hnest, Part.texts_append_cons (· == siblingSeparator) b hdepth
    (beq_self_eq_true _) (by decide), siblings, siblings]

private theorem readable_of_texts {raws : List Text} (h : texts a = [raws]) :
    Readable a ↔ ∀ raw ∈ raws, Segment.Readable raw := by
  rw [Readable, h, List.forall_mem_singleton]

private theorem ofText_of_texts {raws : List Text} (h : texts a = [raws]) :
    ofText a = ⟨[raws.map Segment.ofText]⟩ := by
  rw [ofText, h]
  rfl

section Siblings

variable (hdepth : Part.depthBehind 0 a = 0) (ha : pieces a ≠ []) (hb : pieces b ≠ [])
  (hnestA : nestSeparator ∉ Part.outside 0 a) (hnestB : nestSeparator ∉ Part.outside 0 b)

include hdepth ha hb hnestA hnestB

private theorem readable_append_sibling :
    Readable (a ++ siblingSeparator :: b) ↔ Readable a ∧ Readable b := by
  have hfront := texts_of_outside (isBlankText_of_pieces ha) hnestA
  have hback := texts_of_outside (isBlankText_of_pieces hb) hnestB
  rw [readable_of_texts (texts_append_sibling hdepth ha hnestA hnestB), readable_of_texts hfront,
    readable_of_texts hback, List.forall_mem_append]
  rfl

private theorem markup_append_sibling
    (hsplice : ∀ group ∈ (ofText a).groups, ∀ segment ∈ group, segment.isSplice policy = false) :
    markup policy overrides content (ofText (a ++ siblingSeparator :: b)) =
      markup policy .empty [] (ofText a) ++ markup policy overrides content (ofText b) := by
  have hfront := texts_of_outside (isBlankText_of_pieces ha) hnestA
  have hback := texts_of_outside (isBlankText_of_pieces hb) hnestB
  have hsome : (siblings b).map Segment.ofText ≠ [] := by
    simpa using siblings_ne_nil hb hnestB
  rw [ofText_of_texts hfront] at hsplice ⊢
  rw [ofText_of_texts (texts_append_sibling hdepth ha hnestA hnestB), ofText_of_texts hback,
    List.map_append]
  exact groupMarkup_append (hsplice _ (List.mem_singleton_self _)) hsome

end Siblings

/-- A path with a slash outside brackets expands exactly if both sides of the slash do, what is
behind it around the content and what is in front of it around the markup of that. A path of one
group with a plus sign outside brackets expands exactly if both sides do, what is in front of the
sign around nothing and without the overrides, and its markup is that of both sides, provided that
no segment in front is a splice. -/
theorem expand_append {policy : Policy} {a b : Text} (content : Value)
    (overrides : Attributes AttributeValue) (hdepth : Part.depthBehind 0 a = 0)
    (ha : pieces a ≠ []) (hb : pieces b ≠ []) :
    (∀ result, expand policy (a ++ nestSeparator :: b) content overrides = .ok result ↔
      ∃ inside, expand policy b content .empty = .ok inside ∧
        expand policy a (.text inside) overrides = .ok result) ∧
    (nestSeparator ∉ Part.outside 0 a → nestSeparator ∉ Part.outside 0 b →
      (∀ path, read a = .ok path → ∀ group ∈ path.groups, ∀ segment ∈ group,
        segment.isSplice policy = false) →
      ∀ result, expand policy (a ++ siblingSeparator :: b) content overrides = .ok result ↔
        ∃ front back, expand policy a (.text []) .empty = .ok front ∧
          expand policy b content overrides = .ok back ∧ result = front ++ back) := by
  refine ⟨fun result ↦ ?_, fun hnestA hnestB hsplice result ↦ ?_⟩
  · simp only [expand_eq_ok_iff, readable_append_nest b hdepth, ofText_append_nest b hdepth,
      markup_append policy overrides content.contentText (ofText_ne_nil ha) (ofText_ne_nil hb)]
    constructor
    · rintro ⟨⟨hreadA, hreadB⟩, rfl⟩
      exact ⟨_, ⟨hreadB, rfl⟩, hreadA, rfl⟩
    · rintro ⟨_, ⟨hreadB, rfl⟩, hreadA, rfl⟩
      exact ⟨⟨hreadA, hreadB⟩, rfl⟩
  · have hmarkup : Readable a →
        markup policy overrides content.contentText (ofText (a ++ siblingSeparator :: b)) =
          markup policy .empty [] (ofText a) ++
            markup policy overrides content.contentText (ofText b) := fun hread ↦
      markup_append_sibling hdepth ha hb hnestA hnestB
        (hsplice _ (read_eq_ok_iff.mpr ⟨hread, rfl⟩))
    simp only [expand_eq_ok_iff, readable_append_sibling hdepth ha hb hnestA hnestB]
    constructor
    · rintro ⟨⟨hreadA, hreadB⟩, rfl⟩
      exact ⟨_, _, ⟨hreadA, rfl⟩, ⟨hreadB, rfl⟩, hmarkup hreadA⟩
    · rintro ⟨_, _, ⟨hreadA, rfl⟩, ⟨hreadB, rfl⟩, rfl⟩
      exact ⟨⟨hreadA, hreadB⟩, (hmarkup hreadA).symm⟩

/-- Two siblings with a slash in the brackets of the first, in front of a splice and an element: the
latter stand inside the second sibling or beside it. -/
theorem expand_append_siblings :
    expand .standard "h1[t=1/2]+ul/%+li".toList (.text "x".toList) .empty =
        .ok "<h1 t=\"1/2\"></h1><ul>x<li>x</li></ul>".toList ∧
      expand .standard "h1[t=1/2]+ul+%+li".toList (.text "x".toList) .empty =
        .ok "<h1 t=\"1/2\"></h1><ul></ul>x<li>x</li>".toList := by
  have hsplice : ∀ path, read "h1[t=1/2]+ul".toList = .ok path → ∀ group ∈ path.groups,
      ∀ segment ∈ group, segment.isSplice .standard = false := by
    intro path hpath
    obtain ⟨-, rfl⟩ := read_eq_ok_iff.mp hpath
    decide +kernel
  obtain ⟨hnest, hsibling⟩ := @expand_append .standard "h1[t=1/2]+ul".toList "%+li".toList
    (.text "x".toList) .empty (by decide) (by decide +kernel) (by decide +kernel)
  constructor
  · exact (hnest _).mpr ⟨"x<li>x</li>".toList, eq_ok_of_toOption (by decide +kernel),
      eq_ok_of_toOption (by decide +kernel)⟩
  · exact (hsibling (by decide) (by decide) hsplice _).mpr
      ⟨"<h1 t=\"1/2\"></h1><ul></ul>".toList, "x<li>x</li>".toList,
        eq_ok_of_toOption (by decide +kernel), eq_ok_of_toOption (by decide +kernel), by decide⟩

end Shorthand.Path
