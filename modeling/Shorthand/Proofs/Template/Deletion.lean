import Shorthand.Proofs.Template.Exchange
import Shorthand.Proofs.Template.Unambiguity

/-!
# Deleting a decoration

A decoration may be deleted from an item that names a tag. What follows it may then go on with what
is in front of it: blanks at the end of the item become part of the tag's stretch or of the last
run, where trimming drops them. The main statement is that the other decorations of the item, its
tag and its content stay what they are.
-/

namespace Shorthand.Template.Grammar

open Text

variable {run blanks after : Text} {marks earlier later : List Mark} {mark : Mark} {inner : Inner}

/-- Decorations at the end of a head are well formed apart from what is in front of them. -/
theorem headFits_append {marks' : List Mark} :
    HeadFits run (marks ++ marks') after ↔
      HeadFits run marks (marksText marks' ++ after) ∧ MarksFit after marks' := by
  rw [HeadFits, HeadFits, marksText_append, List.append_assoc, marksFit_append]
  constructor
  · rintro ⟨hrun, hname, hmarks, hmarks'⟩
    exact ⟨⟨hrun, hname, hmarks⟩, hmarks'⟩
  · rintro ⟨⟨hrun, hname, hmarks⟩, hmarks'⟩
    exact ⟨hrun, hname, hmarks, hmarks'⟩

/-- An item whose stretch holds a tag is not blank. -/
theorem isBlankText_of_tag (hrun : trim run ≠ []) (rest : Text) :
    isBlankText (run ++ rest) = false := by
  have hstretch : isBlankText run = false := by
    rw [← Bool.not_eq_true, ← trim_eq_nil_iff]
    exact hrun
  exact isBlankText_append_left hstretch rest

/-- Whether an item is another one without one of its decorations, where `rest` is the outline of
what was behind the decoration. -/
structure Deleted (run : Text) (earlier later : List Mark) (inner : Inner) (rest : Outline)
    (item : Item) : Prop where
  wellFormed : item.WellFormed
  outline_eq : item.outline = Outline.plains run ++ (marksOutline earlier ++ rest)
  tag : item.tag? = some (trim run)
  decorations : item.marks.map Mark.decoration = (earlier ++ later).map Mark.decoration
  content : item.content = inner.content

private theorem deleted_of_isStop
    (h : Item.WellFormed ⟨run, earlier ++ mark :: later, inner, blanks⟩) (htag : trim run ≠ [])
    (hstop : ∀ c ∈ (marksText later ++ (inner.text ++ blanks)).head?, isStop c = true) :
    Deleted run earlier later inner
      (marksOutline later ++ (inner.outline ++ Outline.plains blanks))
      ⟨run, earlier ++ later, inner, blanks⟩ := by
  obtain ⟨hfit, hinner, hblanks, -⟩ := h
  obtain ⟨hearlier, -, hlater⟩ := headFits_append.mp hfit
  have hlike : BeginsLike (marksText (mark :: later) ++ (inner.text ++ blanks))
      (marksText later ++ (inner.text ++ blanks)) := fun c hc ↦ .inr (hstop c hc)
  refine ⟨⟨headFits_append.mpr ⟨hearlier.of_beginsLike hlike, hlater⟩, hinner, hblanks, ?_⟩, ?_,
    if_neg htag, rfl, rfl⟩
  · rw [Item.text, List.append_assoc, List.append_assoc]
    exact isBlankText_of_tag htag _
  · simp [Item.outline]

private theorem deleted_of_blanks (h : HeadFits run [] after) (htag : trim run ≠ [])
    (hblanks : ∀ c ∈ blanks, isBlank c = true) :
    Deleted run [] [] .nothing (Outline.plains blanks) ⟨run ++ blanks, [], .nothing, []⟩ := by
  have htrim : trim (run ++ blanks) = trim run := trim_append_right run hblanks
  have hstretch : IsStretch (!isStop ·) (run ++ blanks) [] := by
    refine ⟨fun c hc ↦ ?_, by simp⟩
    rcases List.mem_append.mp hc with hc | hc
    · exact h.1.1 c hc
    · simp [isStop_of_blanks hblanks c hc]
  have hname : trim (run ++ blanks) = [] ∨ isName (trim (run ++ blanks)) = true := by
    rw [htrim]
    exact h.2.1
  refine ⟨⟨⟨hstretch, hname, trivial⟩, trivial, by simp, ?_⟩, ?_, ?_, rfl, rfl⟩
  · rw [Item.text, List.append_assoc, List.append_assoc, List.append_assoc]
    exact isBlankText_of_tag htag _
  · simp [Item.outline, Inner.outline, Outline.plains]
  · rw [Item.tag?, htrim, if_neg htag]

private theorem exists_mark_of_blanks (h : mark.Fits after)
    (hblanks : ∀ c ∈ blanks, isBlank c = true) :
    ∃ (mark' : Mark) (blanks' : Text), mark'.Fits blanks' ∧ mark'.decoration = mark.decoration ∧
      mark'.outline ++ Outline.plains blanks' = mark.outline ++ Outline.plains blanks ∧
      ∀ c ∈ blanks', isBlank c = true := by
  cases mark with
  | hole marker => exact ⟨.hole marker, blanks, trivial, rfl, rfl, hblanks⟩
  | bracket body => exact ⟨.bracket body, blanks, h, rfl, rfl, hblanks⟩
  | run marker value =>
    have hstretch := isStretch_takeWhile isRunChar blanks
    have hmore : ∀ c ∈ blanks.takeWhile isRunChar, isBlank c = true := fun c hc ↦
      hblanks c ((List.takeWhile_sublist _).mem hc)
    refine ⟨.run marker (value ++ blanks.takeWhile isRunChar), blanks.dropWhile isRunChar,
      ⟨by simp [h.1], ⟨fun c hc ↦ ?_, hstretch.2⟩⟩, ?_, ?_, fun c hc ↦
        hblanks c ((List.dropWhile_sublist _).mem hc)⟩
    · exact (List.mem_append.mp hc).elim (h.2.1 c) (hstretch.1 c)
    · rw [Mark.decoration, Mark.decoration, trim_append_right value hmore]
    · rw [Mark.outline, Mark.outline, List.cons_append, ← Outline.plains_append, List.append_assoc,
        List.takeWhile_append_dropWhile, Outline.plains_append]
      rfl

/-- A decoration can be deleted from an item that names a tag. -/
theorem exists_deleted (h : Item.WellFormed ⟨run, earlier ++ mark :: later, inner, blanks⟩)
    (htag : trim run ≠ []) :
    ∃ item, Deleted run earlier later inner
      (marksOutline later ++ (inner.outline ++ Outline.plains blanks)) item := by
  by_cases hbehind : later ≠ [] ∨ inner ≠ .nothing
  · exact ⟨_, deleted_of_isStop h htag (isStop_head_behind hbehind _)⟩
  simp only [ne_eq, not_or, Decidable.not_not] at hbehind
  obtain ⟨rfl, rfl⟩ := hbehind
  obtain ⟨hfit, -, hblanks, -⟩ := h
  obtain ⟨hearlier, -⟩ := headFits_append.mp hfit
  rcases List.eq_nil_or_concat earlier with rfl | ⟨front, last, hconcat⟩
  · exact ⟨_, deleted_of_blanks hearlier htag hblanks⟩
  · obtain rfl : earlier = front ++ [last] := by rw [hconcat, List.concat_eq_append]
    obtain ⟨hfront, hlast, -⟩ := headFits_append.mp hearlier
    obtain ⟨last', blanks', hfits, hdecoration, houtline, hblanks'⟩ :=
      exists_mark_of_blanks hlast hblanks
    have hlike : ∀ s, BeginsLike s (marksText [last'] ++ blanks') := by
      intro s
      rw [marksText_cons, List.append_assoc]
      exact beginsLike_mark s last' _
    have hhead : HeadFits run (front ++ [last']) blanks' :=
      headFits_append.mpr ⟨hfront.of_beginsLike (hlike _), hfits, trivial⟩
    refine ⟨⟨run, front ++ [last'], .nothing, blanks'⟩, ⟨hhead, trivial, hblanks', ?_⟩, ?_,
      if_neg htag, ?_, rfl⟩
    · rw [Item.text, List.append_assoc, List.append_assoc]
      exact isBlankText_of_tag htag _
    · simp [Item.outline, Inner.outline, houtline]
    · simp [hdecoration]

/-! ### Deleting in place -/

variable {spot : Spot}

private theorem trim_run_ne_nil {item : Item} (htag : item.tag? ≠ none) : trim item.run ≠ [] :=
  fun hempty ↦ htag (if_pos hempty)

/-- A decoration can be deleted wherever its item is put. -/
theorem Spot.exists_deleted (hwf : spot.group.WellFormed) (htag : spot.item.tag? ≠ none) :
    ∃ item : Item, (spot.place.plug item).WellFormed ∧
      (spot.place.plug item).outline = spot.front ++ spot.back ∧ item.tag? = spot.item.tag? ∧
      item.segment.decorations = (spot.earlier ++ spot.later).map Mark.decoration ∧
      item.content = spot.item.content := by
  have hrun : trim spot.run ≠ [] := trim_run_ne_nil htag
  obtain ⟨item, hitem⟩ := Grammar.exists_deleted (Place.wellFormed_of_plug hwf) hrun
  refine ⟨item, Place.wellFormed_plug hwf hitem.wellFormed, ?_, ?_, hitem.decorations,
    hitem.content⟩
  · rw [Place.outline_plug, hitem.outline_eq]
    simp [Spot.front, Spot.back]
  · rw [hitem.tag]
    exact (if_neg hrun).symm

/-- A template from which a decoration has been deleted can be read. It has the markup of the
template with the decoration for arguments that the decorations take to the same markup of their
item. -/
theorem Spot.expand_deleted (policy : Policy) {template : Text} {before here here' : List Value}
    {collected collected' : Contributions} (hderives : spot.group.Derives template)
    (htag : spot.item.tag? ≠ none) (hbefore : before.length = Outline.holes spot.place.before)
    (hfill : ∀ behind, fillDecorations .empty spot.item.segment.decorations (here ++ behind) =
      some (collected, behind))
    (hfill' : ∀ behind,
      fillDecorations .empty ((spot.earlier ++ spot.later).map Mark.decoration) (here' ++ behind) =
        some (collected', behind))
    (hmarkup : ∀ inside, itemMarkup policy spot.item.segment collected inside =
      itemMarkup policy spot.item.segment collected' inside) (behind : List Value) :
    (∃ forest, parse (Outline.text (spot.front ++ spot.back)) = .ok forest) ∧
      (expand policy template (before ++ (here ++ behind))).toOption =
        (expand policy (Outline.text (spot.front ++ spot.back))
          (before ++ (here' ++ behind))).toOption := by
  obtain ⟨hwf, rfl⟩ := hderives
  obtain ⟨item, hwf', houtline, htag', hdecorations, hcontent⟩ := spot.exists_deleted hwf htag
  have hparse := parse_text hwf
  have hparse' := parse_text hwf'
  rw [← houtline, Group.text_outline]
  refine ⟨⟨_, hparse'⟩, ?_⟩
  have hsplice : ∀ item : Item, item.tag? ≠ none →
      ∀ content, isSplice item.segment content = false := by
    intro item hitem content
    have hnone : (item.segment.tag? = none) = False := eq_false hitem
    simp [isSplice, hnone]
  have hexchange : ∀ next, Step.Exchanges (fun a a' ↦ a = here ∧ a' = here') 0
      (fill policy (.item spot.item.segment spot.item.content next))
      (fill policy (.item item.segment item.content next)) := by
    intro next
    rw [hcontent]
    refine exchanges_item (hsplice _ htag _) (hsplice _ (htag' ▸ htag) _) ?_ next
    rintro _ _ ⟨rfl, rfl⟩
    refine ⟨collected, collected', hfill, ?_, fun inside ↦ (hmarkup inside).trans ?_⟩
    · rw [hdecorations]
      exact hfill'
    · rw [itemMarkup, itemMarkup, Segment.tag, Segment.tag]
      exact congrArg (fun tag? : Option Text ↦
        Element.markup policy ⟨tag?.getD policy.defaultTag, _, inside⟩) htag'.symm
  have hplug := Place.exchanges_plug hwf hexchange
  rw [toOption_expand_of_parse policy _ hparse, toOption_expand_of_parse policy _ hparse']
  exact congrArg _ (hplug before here here' behind hbefore ⟨rfl, rfl⟩)

end Shorthand.Template.Grammar
