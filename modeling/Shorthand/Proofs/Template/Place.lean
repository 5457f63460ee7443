import Shorthand.Proofs.Template.Holes

/-!
# Places in a group

A place is a group with one item missing, however deep. The main statements say how outlines and
well-formedness of a group depend on the item that is put into a place, and that every lexeme that
begins a decoration is found in the decorations of one item in one place.
-/

namespace Shorthand.Template.Grammar

open Text

/-- A group with one item missing: the only item, the first one, one behind other items, or one in
the group inside an item that has a place itself. -/
inductive Place where
  | alone
  | first (others : Group)
  | behind (item : Item) (place : Place)
  | inside (run : Text) (marks : List Mark) (blanks : Text) (place host : Place)

namespace Place

/-- The group with an item put into the place. -/
def plug : Place → Item → Group
  | alone, item => .one item
  | first others, item => .more item others
  | behind earlier place, item => .more earlier (place.plug item)
  | inside run marks blanks place host, item =>
    host.plug ⟨run, marks, .group (place.plug item), blanks⟩

/-- The outline of what stands in front of a place. -/
def before : Place → Outline
  | alone => []
  | first _ => []
  | behind earlier place => earlier.outline ++ .plain '+' :: place.before
  | inside run marks _ place host =>
    host.before ++ (Outline.plains run ++ marksOutline marks ++ .plain '(' :: place.before)

/-- The outline of what stands behind a place. -/
def after : Place → Outline
  | alone => []
  | first others => .plain '+' :: others.outline
  | behind _ place => place.after
  | inside _ _ blanks place host =>
    place.after ++ .plain ')' :: Outline.plains blanks ++ host.after

/-- The item in a place has its outline between what stands in front of it and behind it. -/
theorem outline_plug (place : Place) (item : Item) :
    (place.plug item).outline = place.before ++ (item.outline ++ place.after) := by
  induction place generalizing item with
  | alone => simp [plug, before, after, Group.outline]
  | first others => simp [plug, before, after, Group.outline]
  | behind earlier place ih => simp [plug, before, after, Group.outline, ih]
  | inside run marks blanks place host ih ihHost =>
    simp [plug, before, after, ihHost, Item.outline, Inner.outline, ih]

/-- The placeholders in front of a place behind an item are those of the item and others. -/
theorem holes_before_behind {earlier : Item} {place : Place} (h : earlier.WellFormed) :
    Outline.holes (before (.behind earlier place)) =
      decorationHoles earlier.segment.decorations + earlier.content.holes +
        Outline.holes place.before := by
  rw [before, Outline.holes_append, Outline.holes_cons, h.outline.2]
  simp [Lexeme.isHole, placeholderMark]

/-- The placeholders in front of a place inside an item are those in front of the item, those of
its decorations, and others. -/
theorem holes_before_inside {run blanks after : Text} {marks : List Mark}
    {place host : Place} (h : HeadFits run marks after) :
    Outline.holes (before (.inside run marks blanks place host)) =
      Outline.holes host.before + (decorationHoles (marks.map Mark.decoration) +
        Outline.holes place.before) := by
  have hrun := (plains_of_isStop h.isStop_eq_false).2
  simp only [before, Outline.holes_append, Outline.holes_cons, hrun, h.2.2.outline.2]
  simp [Lexeme.isHole, placeholderMark]

private theorem wellFormed_inside {run : Text} {marks : List Mark} {blanks : Text}
    {group group' : Group} (h : Item.WellFormed ⟨run, marks, .group group, blanks⟩)
    (hgroup : group'.WellFormed) : Item.WellFormed ⟨run, marks, .group group', blanks⟩ := by
  obtain ⟨hfit, -, hblanks, -⟩ := h
  have hlike : BeginsLike ((Inner.group group).text ++ blanks)
      ((Inner.group group').text ++ blanks) := by
    intro c hc
    obtain rfl : '(' = c := by simpa [Inner.text] using hc
    exact .inr (by decide +kernel)
  refine ⟨hfit.of_beginsLike hlike, hgroup, hblanks, ?_⟩
  have hparen : isBlank '(' = false := by decide +kernel
  simp [isBlankText, Item.text, Inner.text, hparen]

/-- The item in a place of a well-formed group is well formed. -/
theorem wellFormed_of_plug {place : Place} {item : Item} (h : (place.plug item).WellFormed) :
    item.WellFormed := by
  induction place generalizing item with
  | alone => exact h
  | first others => exact h.1
  | behind earlier place ih => exact ih h.2
  | inside run marks blanks place host ih ihHost => exact ih ((ihHost h).inside rfl)

/-- A well-formed item may be put in place of another one. -/
theorem wellFormed_plug {place : Place} {item item' : Item} (h : (place.plug item).WellFormed)
    (h' : item'.WellFormed) : (place.plug item').WellFormed := by
  induction place generalizing item item' with
  | alone => exact h'
  | first others => exact ⟨h', h.2⟩
  | behind earlier place ih => exact ⟨h.1, ih h.2 h'⟩
  | inside run marks blanks place host ih ihHost =>
    have hgroup : (host.plug ⟨run, marks, .group (place.plug item), blanks⟩).WellFormed := h
    have hhost := wellFormed_of_plug hgroup
    exact ihHost hgroup (wellFormed_inside hhost (ih (hhost.inside rfl) h'))

end Place

/-! ### Where decorations begin -/

/-- Whether a lexeme begins a decoration. -/
def beginsMark : Lexeme → Bool
  | .plain c => (Marker.ofChar? c).isSome
  | .bracket _ => true

private theorem not_mem_of_beginsMark {x : Lexeme} {o : Outline} (hx : beginsMark x = true)
    (h : ∀ y ∈ o, beginsMark y = false) : x ∉ o := by
  intro hmem
  rw [h x hmem] at hx
  exact absurd hx (by decide)

/-- No decoration begins in a stretch without marks. -/
theorem beginsMark_plains {s : Text} (h : ∀ c ∈ s, isStop c = false) {x : Lexeme}
    (hx : x ∈ Outline.plains s) : beginsMark x = false := by
  obtain ⟨c, hc, rfl⟩ := List.mem_map.mp hx
  rw [beginsMark, ofChar?_eq_none_of_isStop (h c hc)]
  rfl

private theorem outline_eq_cons {mark : Mark} {after : Text} (h : mark.Fits after) :
    ∃ y ys, mark.outline = y :: ys ∧ ∀ x ∈ ys, beginsMark x = false := by
  cases mark with
  | hole marker =>
    refine ⟨_, _, rfl, ?_⟩
    intro x hx
    obtain rfl := List.mem_singleton.mp hx
    decide
  | run marker value =>
    exact ⟨_, _, rfl, fun x hx ↦ beginsMark_plains (isStop_of_run h.2.1) hx⟩
  | bracket body => exact ⟨_, _, rfl, fun x hx ↦ absurd hx List.not_mem_nil⟩

private theorem exists_mark {marks : List Mark} {after : Text} {front back : Outline} {x : Lexeme}
    (hfit : MarksFit after marks) (hx : beginsMark x = true)
    (heq : marksOutline marks = front ++ x :: back) :
    ∃ earlier mark later, marks = earlier ++ mark :: later ∧ front = marksOutline earlier ∧
      x :: back = mark.outline ++ marksOutline later := by
  induction marks generalizing front with
  | nil => exact absurd heq (by simp)
  | cons mark marks ih =>
    obtain ⟨hmark, hmarks⟩ := hfit
    obtain ⟨y, ys, hy, hys⟩ := outline_eq_cons hmark
    rw [marksOutline_cons, hy, List.cons_append] at heq
    cases front with
    | nil => exact ⟨[], mark, marks, rfl, rfl, by rw [hy]; exact heq.symm⟩
    | cons z front =>
      obtain ⟨rfl, htail⟩ := List.cons.inj heq
      obtain ⟨front, rfl, hothers⟩ := Outline.of_not_mem_left (not_mem_of_beginsMark hx hys) htail
      obtain ⟨earlier, mark', later, rfl, rfl, hback⟩ := ih hmarks hothers
      refine ⟨mark :: earlier, mark', later, rfl, ?_, hback⟩
      rw [marksOutline_cons, hy]
      rfl

/-! ### Decorations in their places -/

/-- A decoration among others, in an item that has a place. -/
structure Spot where
  place : Place
  run : Text
  earlier : List Mark
  mark : Mark
  later : List Mark
  inner : Inner
  blanks : Text

namespace Spot

/-- The item that the decoration belongs to. -/
def item (spot : Spot) : Item :=
  ⟨spot.run, spot.earlier ++ spot.mark :: spot.later, spot.inner, spot.blanks⟩

/-- The group that the item belongs to. -/
def group (spot : Spot) : Group := spot.place.plug spot.item

/-- The outline of what stands in front of the decoration. -/
def front (spot : Spot) : Outline :=
  spot.place.before ++ (Outline.plains spot.run ++ marksOutline spot.earlier)

/-- The outline of what stands behind the decoration. -/
def back (spot : Spot) : Outline :=
  marksOutline spot.later ++
    (spot.inner.outline ++ (Outline.plains spot.blanks ++ spot.place.after))

variable {spot : Spot}

/-- The decoration has its outline between what stands in front of it and behind it. -/
theorem outline_group (spot : Spot) :
    spot.group.outline = spot.front ++ (spot.mark.outline ++ spot.back) := by
  rw [group, Place.outline_plug]
  simp [item, Item.outline, front, back]

private theorem headFits (h : spot.group.WellFormed) :
    HeadFits spot.run (spot.earlier ++ spot.mark :: spot.later)
      (spot.inner.text ++ spot.blanks) :=
  (Place.wellFormed_of_plug h).1

/-- The placeholders in front of a decoration are those in front of its item and those of the
decorations in front of it. -/
theorem holes_front (h : spot.group.WellFormed) :
    Outline.holes spot.front = Outline.holes spot.place.before +
      decorationHoles (spot.earlier.map Mark.decoration) := by
  have hrun := (plains_of_isStop (headFits h).isStop_eq_false).2
  have hearlier := (marksFit_append.mp (headFits h).2.2).1.outline.2
  rw [front, Outline.holes_append, Outline.holes_append, hrun, hearlier, Nat.zero_add]

/-- A decoration waits for an argument if it is a placeholder. -/
theorem holes_mark (h : spot.group.WellFormed) :
    Outline.holes spot.mark.outline = if spot.mark.decoration.isPlaceholder then 1 else 0 :=
  (marksFit_append.mp (headFits h).2.2).2.1.outline.2

/-- The placeholders of the decorations behind a decoration are among those behind it. -/
theorem le_holes_back (h : spot.group.WellFormed) :
    decorationHoles (spot.later.map Mark.decoration) ≤ Outline.holes spot.back := by
  have hlater := (marksFit_append.mp (headFits h).2.2).2.2.outline.2
  rw [back, Outline.holes_append, hlater]
  exact Nat.le_add_right _ _

end Spot

/-- What begins a decoration in a group can be found in a spot of the group. -/
def Searchable (group : Group) : Prop :=
  ∀ (front back : Outline) (x : Lexeme), beginsMark x = true → group.outline = front ++ x :: back →
    ∃ spot : Spot, spot.group = group ∧ spot.front = front ∧
      x :: back = spot.mark.outline ++ spot.back

private theorem exists_spot_item {item : Item} {front back : Outline} {x : Lexeme} (place : Place)
    (h : item.WellFormed) (ih : ∀ inside, item.inner = .group inside → Searchable inside)
    (hx : beginsMark x = true) (heq : item.outline = front ++ x :: back) :
    ∃ spot : Spot, spot.group = place.plug item ∧ spot.front = place.before ++ front ∧
      x :: (back ++ place.after) = spot.mark.outline ++ spot.back := by
  obtain ⟨run, marks, inner, blanks⟩ := item
  obtain ⟨hfit, -, hblanks, -⟩ := h
  have hnoRun : x ∉ Outline.plains run := not_mem_of_beginsMark hx fun y ↦
    beginsMark_plains hfit.isStop_eq_false
  have hnoBlanks : x ∉ Outline.plains blanks := not_mem_of_beginsMark hx fun y ↦
    beginsMark_plains (isStop_of_blanks hblanks)
  rw [Item.outline, List.append_assoc, List.append_assoc] at heq
  obtain ⟨front, rfl, hafterRun⟩ := Outline.of_not_mem_left hnoRun heq
  rcases Outline.append_eq_append_cons hafterRun with ⟨rest, hrest, rfl⟩ | ⟨front, rfl, hafter⟩
  · -- The decoration is one of the item itself.
    obtain ⟨earlier, mark, later, rfl, rfl, hback⟩ := exists_mark hfit.2.2 hx hrest
    refine ⟨⟨place, run, earlier, mark, later, inner, blanks⟩, rfl, rfl, ?_⟩
    have happend := congrArg (· ++ (inner.outline ++ Outline.plains blanks ++ place.after)) hback
    simpa [Spot.back] using happend
  · obtain ⟨rest, hrest, rfl⟩ := Outline.of_not_mem_right hnoBlanks hafter
    cases inner with
    | nothing => exact absurd hrest (by simp [Inner.outline])
    | hole =>
      have hnoHole : x ∉ [Lexeme.plain placeholderMark] := not_mem_of_beginsMark hx (by decide)
      rw [Inner.outline] at hrest
      exact absurd (by simp [hrest]) hnoHole
    | group inside =>
      -- The decoration is one of the group inside the item.
      have hnoOpening : x ∉ [Lexeme.plain '('] := not_mem_of_beginsMark hx (by decide)
      have hnoClosing : x ∉ [Lexeme.plain ')'] := not_mem_of_beginsMark hx (by decide)
      rw [Inner.outline, ← List.singleton_append, List.append_assoc] at hrest
      obtain ⟨front, rfl, hinside⟩ := Outline.of_not_mem_left hnoOpening hrest
      obtain ⟨rest, hgroup, rfl⟩ := Outline.of_not_mem_right hnoClosing hinside
      obtain ⟨spot, hspot, hfront, hback⟩ := ih inside rfl front rest x hx hgroup
      refine ⟨{ spot with place := .inside run marks blanks spot.place place }, ?_, ?_, ?_⟩
      · rw [← hspot]
        rfl
      · rw [← hfront]
        simp [Spot.front, Place.before]
      · have happend := congrArg (· ++ .plain ')' :: Outline.plains blanks ++ place.after) hback
        simpa [Spot.back, Place.after] using happend

/-- Whatever begins a decoration in a well-formed group is found. -/
theorem searchable {group : Group} (h : group.WellFormed) : Searchable group := by
  induction group with
  | one item ihInside =>
    intro front back x hx heq
    obtain ⟨spot, hgroup, hfront, hback⟩ := exists_spot_item .alone h
      (fun inside hinside ↦ ihInside inside hinside (h.inside hinside)) hx heq
    exact ⟨spot, hgroup, hfront, by simpa [Place.after] using hback⟩
  | more item others ihInside ihOthers =>
    intro front back x hx heq
    obtain ⟨hitem, hothers⟩ := h
    rw [Group.outline] at heq
    rcases Outline.append_eq_append_cons heq with ⟨rest, hrest, rfl⟩ | ⟨front, rfl, hafter⟩
    · exact exists_spot_item (.first others) hitem
        (fun inside hinside ↦ ihInside inside hinside (hitem.inside hinside)) hx hrest
    · rw [← List.singleton_append] at hafter
      have hplus : x ∉ [Lexeme.plain '+'] := not_mem_of_beginsMark hx (by decide)
      obtain ⟨front, rfl, hrest⟩ := Outline.of_not_mem_left hplus hafter
      obtain ⟨spot, hgroup, hfront, hback⟩ := ihOthers hothers front back x hx hrest
      refine ⟨{ spot with place := .behind item spot.place }, ?_, ?_, hback⟩
      · rw [← hgroup]
        rfl
      · rw [← hfront]
        simp [Spot.front, Place.before]

end Shorthand.Template.Grammar
