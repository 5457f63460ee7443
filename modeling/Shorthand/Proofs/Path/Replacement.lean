import Mathlib.Data.List.TakeWhile
import Shorthand.Proofs.Path.Language

/-!
# Replacing a part of a path

A place in a path belongs to the part between the separator in front of it and the one behind it.
The main statements say that the other parts of the path do not depend on what stands in the place,
and that the markup does not depend on the text that a segment was read from.
-/

namespace Shorthand

open Text

/-! ### The part around a place -/

namespace Outline

variable {p q : Lexeme → Bool} {o front back : Outline}

/-- What an outline holds in front of its first lexeme with `p`. -/
def firstPart (p : Lexeme → Bool) (o : Outline) : Outline := o.takeWhile (!p ·)

/-- What an outline holds behind its last lexeme with `p`. -/
def lastPart (p : Lexeme → Bool) (o : Outline) : Outline := (firstPart p o.reverse).reverse

/-- An outline is its first part, or goes on with a lexeme that ends this. -/
theorem firstPart_cases (p : Lexeme → Bool) (o : Outline) :
    o = firstPart p o ∨ ∃ x rest, p x = true ∧ o = firstPart p o ++ x :: rest := by
  induction o with
  | nil => exact .inl rfl
  | cons y o ih =>
    rw [firstPart, List.takeWhile_cons]
    cases hy : p y with
    | true => exact .inr ⟨y, o, hy, rfl⟩
    | false =>
      refine ih.imp (congrArg (y :: ·)) ?_
      rintro ⟨x, rest, hx, heq⟩
      exact ⟨x, rest, hx, congrArg (y :: ·) heq⟩

/-- An outline is its last part, or begins with what ends in a lexeme in front of this. -/
theorem lastPart_cases (p : Lexeme → Bool) (o : Outline) :
    o = lastPart p o ∨ ∃ before x, p x = true ∧ o = before ++ x :: lastPart p o := by
  refine (firstPart_cases p o.reverse).imp (fun h ↦ ?_) ?_
  · rw [lastPart, ← h, List.reverse_reverse]
  · rintro ⟨x, rest, hx, heq⟩
    refine ⟨rest.reverse, x, hx, ?_⟩
    have hreverse := congrArg List.reverse heq
    rw [List.reverse_reverse, List.reverse_append, List.reverse_cons, List.append_assoc] at hreverse
    exact hreverse

/-- A first part up to one kind of lexeme ends at one of another kind if that comes first. -/
theorem firstPart_firstPart (p q : Lexeme → Bool) (o : Outline) :
    firstPart q (firstPart p o) = firstPart (fun x ↦ p x || q x) o := by
  rw [firstPart, firstPart, firstPart, List.takeWhile_takeWhile]
  congr 1
  funext x
  cases p x <;> cases q x <;> rfl

/-- What stands behind the last lexeme with one property or the other can be found in two steps. -/
theorem lastPart_lastPart (p q : Lexeme → Bool) (o : Outline) :
    lastPart q (lastPart p o) = lastPart (fun x ↦ p x || q x) o := by
  rw [lastPart, lastPart, lastPart, List.reverse_reverse, firstPart_firstPart]

/-- The first part and the last part of an outline are parts of it, without the lexemes that end
them. -/
theorem mem_firstPart {x : Lexeme} (h : x ∈ firstPart p o) : x ∈ o ∧ p x = false :=
  ⟨(List.takeWhile_sublist _).mem h, by simpa using List.mem_takeWhile_imp h⟩

/-- What stands behind the last lexeme with a property belongs to the outline and lacks the
property. -/
theorem mem_lastPart {x : Lexeme} (h : x ∈ lastPart p o) : x ∈ o ∧ p x = false := by
  obtain ⟨hmem, hx⟩ := mem_firstPart (List.mem_reverse.mp h)
  exact ⟨List.mem_reverse.mp hmem, hx⟩

/-- What stands around a place between the lexemes with `p` in front of it and behind it, with
`middle` in the place. -/
def around (p : Lexeme → Bool) (front middle back : Outline) : Outline :=
  lastPart p front ++ (middle ++ firstPart p back)

/-- The texts of the parts of an outline that are not blank. -/
theorem texts_text (p : Char → Bool) (hwf : WellFormed o) :
    Part.texts p (text o) =
      ((o.splitOnP (isPlainWith p)).map text).filter (!isBlankText ·) := by
  rw [Part.texts, Part.cut, ← map_text_all p 0 hwf, List.filter_map]
  rfl

/-- An outline without separators is one part, unless it is blank. -/
theorem texts_text_of_forall {p : Char → Bool} (hwf : WellFormed o)
    (hblank : isBlankText (text o) = false) (h : ∀ x ∈ o, isPlainWith p x = false) :
    Part.texts p (text o) = [text o] := by
  rw [texts_text p hwf, List.splitOnP_eq_singleton h]
  simp [hblank]

/-- The parts on both sides of a separator are the parts of the whole. -/
theorem texts_text_append_cons {p : Char → Bool} {x : Lexeme} (hx : isPlainWith p x = true)
    (hwf : WellFormed (front ++ x :: back)) :
    Part.texts p (text (front ++ x :: back)) =
      Part.texts p (text front) ++ Part.texts p (text back) := by
  obtain ⟨hfront, hback⟩ := wellFormed_append.mp hwf
  rw [texts_text p hwf, texts_text p hfront, texts_text p (wellFormed_cons.mp hback).2,
    List.splitOnP_append_cons _ _ hx, List.map_append, List.filter_append]

/-- The parts in front of the one around a place, and those behind it, do not depend on what stands
in the place. -/
theorem exists_texts_around (p : Char → Bool) (hfront : WellFormed front)
    (hback : WellFormed back) :
    ∃ before after, ∀ middle, WellFormed middle →
      Part.texts p (text (front ++ (middle ++ back))) =
        before ++ (Part.texts p (text (around (isPlainWith p) front middle back)) ++ after) := by
  have hbehind : ∃ after, ∀ middle, WellFormed middle →
      Part.texts p (text (middle ++ back)) =
        Part.texts p (text (middle ++ firstPart (isPlainWith p) back)) ++ after := by
    rcases firstPart_cases (isPlainWith p) back with hwhole | ⟨x, rest, hx, heq⟩
    · refine ⟨[], fun middle _ ↦ ?_⟩
      rw [← hwhole, List.append_nil]
    · refine ⟨Part.texts p (text rest), fun middle hmiddle ↦ ?_⟩
      have hwf : WellFormed (middle ++ back) := wellFormed_append.mpr ⟨hmiddle, hback⟩
      rw [heq, ← List.append_assoc] at hwf
      rw [← texts_text_append_cons hx hwf, List.append_assoc, ← heq]
  obtain ⟨after, hafter⟩ := hbehind
  rcases lastPart_cases (isPlainWith p) front with hwhole | ⟨before, x, hx, heq⟩
  · refine ⟨[], after, fun middle hmiddle ↦ ?_⟩
    rw [around, ← hwhole, ← List.append_assoc,
      hafter _ (wellFormed_append.mpr ⟨hfront, hmiddle⟩), List.append_assoc, List.nil_append]
  · refine ⟨Part.texts p (text before), after, fun middle hmiddle ↦ ?_⟩
    have hlast : WellFormed (lastPart (isPlainWith p) front ++ middle) :=
      wellFormed_append.mpr ⟨fun y hy ↦ hfront y (mem_lastPart hy).1, hmiddle⟩
    have hwhole : before ++ x :: (lastPart (isPlainWith p) front ++ middle ++ back) =
        front ++ (middle ++ back) := by
      rw [List.append_assoc, ← List.cons_append, ← List.append_assoc, ← heq]
    have hwf : WellFormed (before ++ x :: (lastPart (isPlainWith p) front ++ middle ++ back)) := by
      rw [hwhole, wellFormed_append, wellFormed_append]
      exact ⟨hfront, hmiddle, hback⟩
    rw [around, ← hwhole, texts_text_append_cons hx hwf, hafter _ hlast, List.append_assoc _ middle]

/-- A text is not blank if a part of its outline is not. -/
theorem isBlankText_of_subset {o' : Outline} (h : isBlankText (text o') = false)
    (hsub : ∀ x ∈ o', x ∈ o) : isBlankText (text o) = false := by
  rw [← Bool.not_eq_true] at h ⊢
  intro hblank
  apply h
  rw [isBlankText, List.all_eq_true] at hblank ⊢
  intro c hc
  obtain ⟨x, hx, hcx⟩ := List.mem_flatMap.mp hc
  exact hblank c (List.mem_flatMap.mpr ⟨x, hsub x hx, hcx⟩)

/-- What stands around a place is part of the whole, and holds no lexeme with `p` unless what stands
in the place does. -/
theorem mem_around {x : Lexeme} {middle : Outline} (h : x ∈ around p front middle back) :
    x ∈ front ++ (middle ++ back) ∧ (p x = false ∨ x ∈ middle) := by
  rw [around, List.mem_append, List.mem_append] at h
  rcases h with hlast | hmiddle | hfirst
  · exact ⟨by simp [(mem_lastPart hlast).1], .inl (mem_lastPart hlast).2⟩
  · exact ⟨by simp [hmiddle], .inr hmiddle⟩
  · exact ⟨by simp [(mem_firstPart hfirst).1], .inl (mem_firstPart hfirst).2⟩

/-- The part around a place among the parts of one kind is found in that among those of another. -/
theorem around_around (p q : Lexeme → Bool) (front middle back : Outline) :
    around q (lastPart p front) middle (firstPart p back) =
      around (fun x ↦ p x || q x) front middle back := by
  rw [around, around, lastPart_lastPart, firstPart_firstPart]

end Outline

namespace Path

variable {front back : Outline}

/-- The other parts of a path do not depend on what stands in a place, as long as this holds no
separator and the part around it is not blank. -/
theorem exists_texts_around (hfront : front.WellFormed) (hback : back.WellFormed) :
    ∃ outer earlier later inner, ∀ middle, Outline.WellFormed middle →
      (∀ x ∈ middle, Outline.isSeparator x = false) →
      isBlankText (Outline.text (Outline.around Outline.isSeparator front middle back)) = false →
      texts (Outline.text (front ++ (middle ++ back))) =
        outer ++ (earlier ++
          Outline.text (Outline.around Outline.isSeparator front middle back) :: later) ::
            inner := by
  let nests : Lexeme → Bool := Outline.isPlainWith (· == nestSeparator)
  let siblings : Lexeme → Bool := Outline.isPlainWith (· == siblingSeparator)
  have hseparator : Outline.isSeparator = fun x ↦ nests x || siblings x := by
    rw [Outline.isSeparator_eq]
    funext x
    cases x <;> rfl
  obtain ⟨outer, inner, hnest⟩ :=
    Outline.exists_texts_around (· == nestSeparator) hfront hback
  have hlast : Outline.WellFormed (Outline.lastPart nests front) :=
    fun x hx ↦ hfront x (Outline.mem_lastPart hx).1
  have hfirst : Outline.WellFormed (Outline.firstPart nests back) :=
    fun x hx ↦ hback x (Outline.mem_firstPart hx).1
  obtain ⟨earlier, later, hsibling⟩ :=
    Outline.exists_texts_around (· == siblingSeparator) hlast hfirst
  refine ⟨outer.map (Part.texts (· == siblingSeparator)), earlier, later,
    inner.map (Part.texts (· == siblingSeparator)), fun middle hmiddle hnone hblank ↦ ?_⟩
  have hnone : ∀ x ∈ middle, nests x = false ∧ siblings x = false := fun x hx ↦ by
    simpa [hseparator] using hnone x hx
  rw [hseparator, ← Outline.around_around] at hblank ⊢
  have hwf : Outline.WellFormed (front ++ (middle ++ back)) :=
    Outline.wellFormed_append.mpr ⟨hfront, Outline.wellFormed_append.mpr ⟨hmiddle, hback⟩⟩
  -- Between slashes there is one group around the place, and between plus signs one part in it.
  have hgroup := Outline.texts_text_of_forall (fun x hx ↦ hwf x (Outline.mem_around hx).1)
    (Outline.isBlankText_of_subset hblank fun x hx ↦ (Outline.mem_around hx).1)
    fun x hx ↦ (Outline.mem_around hx).2.elim id fun h ↦ (hnone x h).1
  have hpart := Outline.texts_text_of_forall
    (fun x hx ↦ hwf x (Outline.mem_around (Outline.mem_around hx).1).1) hblank
    fun x hx ↦ (Outline.mem_around hx).2.elim id fun h ↦ (hnone x h).2
  have hparts := hsibling middle hmiddle
  rw [hpart] at hparts
  rw [texts, hnest middle hmiddle, hgroup, List.map_append, List.map_append, List.map_singleton]
  exact congrArg (fun group ↦ outer.map _ ++ ([group] ++ inner.map _)) hparts

/-! ### Segments with the same markup -/

section Markup

variable {policy : Policy} {overrides : Attributes AttributeValue} {segment segment' : Segment}

/-- Segments with the same tag and the same decorations have the same markup, whatever text they
were read from. -/
theorem segment_markup_congr (htag : segment.tag? = segment'.tag?)
    (hdecorations : segment.decorations = segment'.decorations) (spliced content : Text) :
    segment.markup policy overrides spliced content =
      segment'.markup policy overrides spliced content := by
  have hname : ∀ default, segment.tag default = segment'.tag default :=
    fun default ↦ congrArg (·.getD default) htag
  rw [Segment.markup, Segment.markup, Segment.isSplice, Segment.isSplice, Segment.element,
    Segment.element, Segment.attributes, Segment.attributes, hname, hdecorations]

/-- A segment with the same markup can replace another one in a group. -/
theorem groupMarkup_congr (h : ∀ overrides spliced content,
      segment.markup policy overrides spliced content =
        segment'.markup policy overrides spliced content)
    (content : Text) (earlier later : List Segment) :
    groupMarkup policy overrides content (earlier ++ segment :: later) =
      groupMarkup policy overrides content (earlier ++ segment' :: later) := by
  rcases List.eq_nil_or_concat later with rfl | ⟨front, last, rfl⟩
  · rw [groupMarkup_concat, groupMarkup_concat, h]
  · rw [List.concat_eq_append, ← List.cons_append, ← List.cons_append, ← List.append_assoc,
      ← List.append_assoc, groupMarkup_concat, groupMarkup_concat, List.flatMap_append,
      List.flatMap_append, List.flatMap_cons, List.flatMap_cons, h]

/-- A segment with the same markup can replace another one in a path. -/
theorem markup_congr (h : ∀ overrides spliced content,
      segment.markup policy overrides spliced content =
        segment'.markup policy overrides spliced content)
    (content : Text) (outer inner : List (List Segment)) (earlier later : List Segment) :
    markup policy overrides content ⟨outer ++ (earlier ++ segment :: later) :: inner⟩ =
      markup policy overrides content ⟨outer ++ (earlier ++ segment' :: later) :: inner⟩ := by
  cases outer with
  | nil => exact groupMarkup_congr h _ earlier later
  | cons outermost outer =>
    have hnest : nestMarkup policy content (outer ++ (earlier ++ segment :: later) :: inner) =
        nestMarkup policy content (outer ++ (earlier ++ segment' :: later) :: inner) := by
      rw [nestMarkup, nestMarkup, List.foldr_append, List.foldr_append, List.foldr_cons,
        List.foldr_cons, groupMarkup_congr h]
    exact congrArg (groupMarkup policy overrides · outermost) hnest

end Markup

/-- What stands in a place of a path can be replaced without a change of the markup if the parts
around it can be read both or neither, name the same tag and have the same decorations. -/
theorem expand_replace {middle middle' : Outline} (hwf : front.WellFormed ∧ back.WellFormed)
    (hmiddle : middle.WellFormed ∧ ∀ x ∈ middle, Outline.isSeparator x = false)
    (hmiddle' : middle'.WellFormed ∧ ∀ x ∈ middle', Outline.isSeparator x = false)
    {part part' : Text}
    (hpart : Outline.text (Outline.around Outline.isSeparator front middle back) = part)
    (hpart' : Outline.text (Outline.around Outline.isSeparator front middle' back) = part')
    (hblank : isBlankText part = false) (hblank' : isBlankText part' = false)
    (hread : Segment.Readable part ↔ Segment.Readable part')
    (htag : (Segment.ofText part).tag? = (Segment.ofText part').tag?)
    (hdecorations : (Segment.ofText part).decorations = (Segment.ofText part').decorations)
    {policy : Policy} {content : Value} {overrides : Attributes AttributeValue} {result : Text} :
    expand policy (Outline.text (front ++ (middle ++ back))) content overrides = .ok result ↔
      expand policy (Outline.text (front ++ (middle' ++ back))) content overrides = .ok result := by
  obtain ⟨outer, earlier, later, inner, htexts⟩ := exists_texts_around hwf.1 hwf.2
  subst hpart hpart'
  have hone := htexts middle hmiddle.1 hmiddle.2 hblank
  have hother := htexts middle' hmiddle'.1 hmiddle'.2 hblank'
  have hreadable : Readable (Outline.text (front ++ (middle ++ back))) ↔
      Readable (Outline.text (front ++ (middle' ++ back))) := by
    simp only [Readable, hone, hother, List.forall_mem_append, List.forall_mem_cons, hread]
  have hmarkup : markup policy overrides content.contentText
        (ofText (Outline.text (front ++ (middle ++ back)))) =
      markup policy overrides content.contentText
        (ofText (Outline.text (front ++ (middle' ++ back)))) := by
    simp only [ofText, hone, hother, List.map_append, List.map_cons]
    exact markup_congr (fun _ ↦ segment_markup_congr htag hdecorations) _ _ _ _ _
  rw [expand_eq_ok_iff, expand_eq_ok_iff, hreadable, hmarkup]

end Path
end Shorthand
