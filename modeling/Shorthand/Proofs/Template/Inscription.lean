import Shorthand.Proofs.Template.Place
import Shorthand.Proofs.Template.Preset

/-!
# Writing values into templates

A value that fills the placeholder of a decoration could as well have been written into the
template in the first place. The main statement is that the template with the text of the value
in place of the placeholder can be read, and that expanding it with the other arguments has the
result that the template with the placeholder has with all of them.
-/

namespace Shorthand.Template.Grammar

open Text

/-! ### Items in their places -/

/-- One item has an argument preset and is otherwise like another one, whatever stands behind. -/
def PresetItem (value : Value) (k : Nat) (item item' : Item) : Prop :=
  ∀ next, PresetForest value k (.item item.segment item.content next)
    (.item item'.segment item'.content next)

/-- An argument that is preset for an item is preset for the group that the item is put in; the
placeholders in front of the item come first. -/
theorem Place.presetForest_plug {value : Value} {k : Nat} {place : Place} {item item' : Item}
    (hwf : (place.plug item).WellFormed) (h : PresetItem value k item item') :
    PresetForest value (Outline.holes place.before + k) (place.plug item).forest
      (place.plug item').forest := by
  induction place generalizing item item' k with
  | alone =>
    rw [Place.before, Outline.holes_nil, Nat.zero_add]
    exact h .nil
  | first others =>
    rw [Place.before, Outline.holes_nil, Nat.zero_add]
    exact h others.forest
  | behind earlier place ih =>
    obtain ⟨hearlier, hothers⟩ := hwf
    rw [Place.holes_before_behind hearlier, Nat.add_assoc, Nat.add_assoc]
    exact .behind _ _ (ih hothers h)
  | inside run marks blanks place host ih ihHost =>
    have hgroup : (host.plug ⟨run, marks, .group (place.plug item), blanks⟩).WellFormed := hwf
    have hhost := wellFormed_of_plug hgroup
    obtain ⟨hfit, hinside, -, -⟩ := hhost
    have hpreset : PresetItem value
        (decorationHoles (marks.map Mark.decoration) + (Outline.holes place.before + k))
        ⟨run, marks, .group (place.plug item), blanks⟩
        ⟨run, marks, .group (place.plug item'), blanks⟩ :=
      fun next ↦ .inside (Item.segment ⟨run, marks, .group (place.plug item), blanks⟩)
        (trim (Item.text ⟨run, marks, .group (place.plug item'), blanks⟩)) next (ih hinside h)
    rw [Place.holes_before_inside hfit, Nat.add_assoc, Nat.add_assoc]
    exact ihHost hgroup hpreset

/-- A decoration may be put in place of another one if it is well formed there. -/
theorem Item.WellFormed.replaceMark {run blanks blanks' : Text} {earlier later : List Mark}
    {mark mark' : Mark} {inner : Inner}
    (h : Item.WellFormed ⟨run, earlier ++ mark :: later, inner, blanks⟩)
    (hmark : mark'.Fits (marksText later ++ (inner.text ++ blanks')))
    (hlater : MarksFit (inner.text ++ blanks') later)
    (hblanks : ∀ c ∈ blanks', isBlank c = true) :
    Item.WellFormed ⟨run, earlier ++ mark' :: later, inner, blanks'⟩ := by
  obtain ⟨⟨hrun, hname, hmarks⟩, hinner, -, -⟩ := h
  have hearlier := (marksFit_append.mp hmarks).1
  have hlike : ∀ s : Text,
      BeginsLike s (marksText (mark' :: later) ++ (inner.text ++ blanks')) := by
    intro s
    rw [marksText_cons, List.append_assoc]
    exact beginsLike_mark s mark' _
  refine ⟨⟨?_, hname, ?_⟩, hinner, hblanks, ?_⟩
  · rw [marksText_append, List.append_assoc] at hrun ⊢
    refine hrun.of_head fun c hc ↦ ?_
    exact ((hlike _).append_left _ c hc).imp id fun hstop ↦ by rw [hstop]; rfl
  · exact marksFit_append.mpr ⟨hearlier.of_beginsLike (hlike _), hmark, hlater⟩
  · have hmem : ∀ c ∈ mark'.text.head?,
        c ∈ Item.text ⟨run, earlier ++ mark' :: later, inner, blanks'⟩ := by
      intro c hc
      simp [Item.text, List.mem_of_mem_head? hc]
    cases hhead : mark'.text.head? with
    | none => cases mark' <;> simp [Mark.text, bracketed] at hhead
    | some c =>
      have hstop := isStop_head_text mark' [] c (by rw [List.append_nil, hhead]; rfl)
      rw [← Bool.not_eq_true, isBlankText, List.all_eq_true]
      intro hall
      have hblank := hall c (hmem c (by rw [hhead]; rfl))
      rw [(classes_of_isStop hstop).1] at hblank
      exact absurd hblank (by decide)

/-! ### Runs in place of placeholders -/

/-- Blanks at the end of an item are cut in two, of which the first go on with a run in front of
the decorations and the content behind it, as far as there is such a run. -/
structure RunEnd (later : List Mark) (inner : Inner) (blanks more blanks' : Text) : Prop where
  isBlank_more : ∀ c ∈ more, isBlank c = true
  isRunChar_more : ∀ c ∈ more, isRunChar c = true
  isBlank : ∀ c ∈ blanks', isBlank c = true
  fits : MarksFit (inner.text ++ blanks') later
  ends : ∀ c ∈ (marksText later ++ (inner.text ++ blanks')).head?, isRunChar c = false
  outline_eq : marksOutline later ++ (inner.outline ++ Outline.plains blanks) =
    Outline.plains more ++ (marksOutline later ++ (inner.outline ++ Outline.plains blanks'))

private theorem exists_runEnd {later : List Mark} {inner : Inner} {blanks : Text}
    (hlater : MarksFit (inner.text ++ blanks) later) (hblanks : ∀ c ∈ blanks, isBlank c = true) :
    ∃ more blanks', RunEnd later inner blanks more blanks' := by
  by_cases hbehind : later ≠ [] ∨ inner ≠ .nothing
  · -- Decorations and content begin with a character that belongs to no run.
    refine ⟨[], blanks, by simp, by simp, hblanks, hlater, fun c hc ↦ ?_, rfl⟩
    exact (classes_of_isStop (isStop_head_behind hbehind _ c hc)).2.1
  · simp only [ne_eq, not_or, Decidable.not_not] at hbehind
    obtain ⟨rfl, rfl⟩ := hbehind
    have hstretch := isStretch_takeWhile isRunChar blanks
    refine ⟨blanks.takeWhile isRunChar, blanks.dropWhile isRunChar, ?_, hstretch.1, ?_, trivial,
      hstretch.2, ?_⟩
    · intro c hc
      exact hblanks c ((List.takeWhile_sublist _).mem hc)
    · intro c hc
      exact hblanks c ((List.dropWhile_sublist _).mem hc)
    · show Outline.plains blanks = Outline.plains _ ++ Outline.plains _
      rw [← Outline.plains_append, List.takeWhile_append_dropWhile]

/-! ### Values in place of placeholders -/

/-- The second outline has the text `v` in place of the first, which is the placeholder of a
decoration: the value of an attribute in brackets, or the percent sign behind a marker. -/
inductive Inscribes (v : Text) : Outline → Outline → Prop where
  | bracket {name value : Text} (hname : '=' ∉ name) (hvalue : trim value = [placeholderMark])
      (hopen : openBracket ∉ v) (hclose : closeBracket ∉ v) (hv : trim v ≠ [placeholderMark]) :
      Inscribes v [.bracket (name ++ '=' :: value)] [.bracket (name ++ '=' :: v)]
  | marked (marker : Marker) (hv : v ≠ []) (hrun : ∀ c ∈ v, isRunChar c = true)
      (hfirst : v.head? ≠ some ' ') (hlast : v.getLast? ≠ some ' ') :
      Inscribes v [.plain marker.char, .plain placeholderMark]
        (.plain marker.char :: Outline.plains v)

private theorem trim_run {v more : Text} (hrun : ∀ c ∈ v, isRunChar c = true)
    (hfirst : v.head? ≠ some ' ') (hlast : v.getLast? ≠ some ' ')
    (hmore : ∀ c ∈ more, isBlank c = true) : trim (v ++ more) = v := by
  rw [trim_append_right v hmore]
  apply trim_eq_self
  · intro c hc
    apply isBlank_of_isRunChar (hrun c (List.mem_of_mem_head? hc))
    rintro rfl
    exact hfirst hc
  · intro c hc
    apply isBlank_of_isRunChar (hrun c (List.mem_of_mem_getLast? hc))
    rintro rfl
    exact hlast hc

/-- Whether one item has an argument preset for another one, and the text of the value written in
place of a placeholder. -/
structure InscribedItem (value : Value) (front : List Mark) (written behind : Outline)
    (item item' : Item) : Prop where
  wellFormed : item'.WellFormed
  outline_eq : item'.outline =
    Outline.plains item.run ++ (marksOutline front ++ (written ++ behind))
  preset : PresetItem value (decorationHoles (front.map Mark.decoration)) item item'

private theorem presetItem_replaceMark {value : Value} {run blanks blanks' : Text}
    {earlier later : List Mark} {mark mark' : Mark} {inner : Inner} (hnull : value ≠ .null)
    (hplace : mark.decoration.isPlaceholder = true)
    (hvalue : mark'.decoration = mark.decoration.withValue (some value.toText)) :
    PresetItem value (decorationHoles (earlier.map Mark.decoration))
      ⟨run, earlier ++ mark :: later, inner, blanks⟩
      ⟨run, earlier ++ mark' :: later, inner, blanks'⟩ := by
  intro next
  apply PresetForest.here
  have hpreset := presetSegment_withValue
    (trim (Item.text ⟨run, earlier ++ mark :: later, inner, blanks⟩))
    (trim (Item.text ⟨run, earlier ++ mark' :: later, inner, blanks'⟩))
    (Item.tag? ⟨run, [], .nothing, []⟩) (earlier.map Mark.decoration) (later.map Mark.decoration)
    hplace hnull
  rw [← hvalue] at hpreset
  simpa [Item.segment, Item.tag?] using hpreset

private theorem decoration_bracket {name value : Text} (h : '=' ∉ name) :
    (Mark.bracket (name ++ '=' :: value)).decoration =
      if trim value = [placeholderMark] then ⟨.attribute (trim name), none, true⟩
      else ⟨.attribute (trim name), some value, false⟩ := by
  have hcut := cutAt_append value h
  simp [Mark.decoration, Lexeme.isHole, hcut]

section Item

variable {value : Value} {run blanks : Text} {earlier later : List Mark} {inner : Inner}

private theorem inscribedItem_bracket {name text : Text}
    (h : Item.WellFormed ⟨run, earlier ++ .bracket (name ++ '=' :: text) :: later, inner, blanks⟩)
    (hnull : value ≠ .null) (hname : '=' ∉ name) (htext : trim text = [placeholderMark])
    (hopen : openBracket ∉ value.toText) (hclose : closeBracket ∉ value.toText)
    (hvalue : trim value.toText ≠ [placeholderMark]) :
    InscribedItem value earlier [.bracket (name ++ '=' :: value.toText)]
      (marksOutline later ++ (inner.outline ++ Outline.plains blanks))
      ⟨run, earlier ++ .bracket (name ++ '=' :: text) :: later, inner, blanks⟩
      ⟨run, earlier ++ .bracket (name ++ '=' :: value.toText) :: later, inner, blanks⟩ := by
  obtain ⟨hmark, hlater⟩ := (marksFit_append.mp h.1.2.2).2
  have hbefore : (Mark.bracket (name ++ '=' :: text)).decoration =
      ⟨.attribute (trim name), none, true⟩ := by
    rw [decoration_bracket hname, if_pos htext]
  have hafter : (Mark.bracket (name ++ '=' :: value.toText)).decoration =
      ⟨.attribute (trim name), some value.toText, false⟩ := by
    rw [decoration_bracket hname, if_neg hvalue]
  have hfits : (Mark.bracket (name ++ '=' :: value.toText)).Fits
      (marksText later ++ (inner.text ++ blanks)) := by
    obtain ⟨hopenBody, hcloseBody, hisName⟩ := hmark
    rw [cutAt_append text hname] at hisName
    simp only [List.mem_append, List.mem_cons, not_or] at hopenBody hcloseBody
    refine ⟨?_, ?_, ?_⟩
    · simp [hopenBody.1, hopenBody.2.1, hopen]
    · simp [hcloseBody.1, hcloseBody.2.1, hclose]
    · rw [cutAt_append _ hname]
      exact hisName
  refine ⟨h.replaceMark hfits hlater h.2.2.1, ?_, presetItem_replaceMark hnull ?_ ?_⟩
  · simp [Item.outline, Mark.outline]
  · rw [hbefore]
  · rw [hbefore, hafter]
    rfl

private theorem exists_inscribedItem_marked {marker : Marker}
    (h : Item.WellFormed ⟨run, earlier ++ .hole marker :: later, inner, blanks⟩)
    (hnull : value ≠ .null) (hvalue : value.toText ≠ [])
    (hrun : ∀ c ∈ value.toText, isRunChar c = true) (hfirst : value.toText.head? ≠ some ' ')
    (hlast : value.toText.getLast? ≠ some ' ') :
    ∃ item', InscribedItem value earlier (.plain marker.char :: Outline.plains value.toText)
      (marksOutline later ++ (inner.outline ++ Outline.plains blanks))
      ⟨run, earlier ++ .hole marker :: later, inner, blanks⟩ item' := by
  obtain ⟨-, hlater⟩ := (marksFit_append.mp h.1.2.2).2
  -- The run takes in the spaces that were blanks at the end of the item.
  obtain ⟨more, blanks', hend⟩ := exists_runEnd hlater h.2.2.1
  have hfits : (Mark.run marker (value.toText ++ more)).Fits
      (marksText later ++ (inner.text ++ blanks')) := by
    refine ⟨by simp [hvalue], ?_, hend.ends⟩
    intro c hc
    exact (List.mem_append.mp hc).elim (hrun c) (hend.isRunChar_more c)
  refine ⟨_, h.replaceMark hfits hend.fits hend.isBlank, ?_,
    presetItem_replaceMark hnull rfl ?_⟩
  · rw [hend.outline_eq]
    simp [Item.outline, Mark.outline]
  · have htrim := trim_run hrun hfirst hlast hend.isBlank_more
    simp [Mark.decoration, htrim, Decoration.withValue]

private theorem exists_inscribedItem {mark : Mark} {written : Outline}
    (h : Item.WellFormed ⟨run, earlier ++ mark :: later, inner, blanks⟩) (hnull : value ≠ .null)
    (hinscribes : Inscribes value.toText mark.outline written) :
    ∃ item', InscribedItem value earlier written
      (marksOutline later ++ (inner.outline ++ Outline.plains blanks))
      ⟨run, earlier ++ mark :: later, inner, blanks⟩ item' := by
  generalize hhole : mark.outline = hole at hinscribes
  cases hinscribes with
  | bracket hname htext hopen hclose hvalue =>
    cases mark with
    | hole marker => exact absurd hhole (by simp [Mark.outline])
    | run marker text => exact absurd hhole (by simp [Mark.outline])
    | bracket body =>
      obtain ⟨rfl⟩ := hhole
      exact ⟨_, inscribedItem_bracket h hnull hname htext hopen hclose hvalue⟩
  | marked marker hvalue hrun hfirst hlast =>
    cases mark with
    | bracket body => exact absurd hhole (by simp [Mark.outline])
    | run marker' text =>
      obtain ⟨hmark, -⟩ := (marksFit_append.mp h.1.2.2).2
      have htext : Outline.plains text = [.plain placeholderMark] := (List.cons.inj hhole).2
      have hmem : placeholderMark ∈ text := by
        rw [← Outline.plain_mem_plains, htext]
        exact List.mem_singleton_self _
      exact absurd (hmark.2.1 _ hmem) (by decide +kernel)
    | hole marker' =>
      obtain rfl : marker' = marker := Marker.char_injective (by simpa [Mark.outline] using hhole)
      exact exists_inscribedItem_marked h hnull hvalue hrun hfirst hlast

end Item

private theorem Inscribes.begins {v : Text} {hole written : Outline}
    (h : Inscribes v hole written) : ∃ x rest, hole = x :: rest ∧ beginsMark x = true := by
  cases h with
  | bracket => exact ⟨_, _, rfl, rfl⟩
  | marked marker => exact ⟨_, _, rfl, by cases marker <;> rfl⟩

private theorem Inscribes.eq_outline {v : Text} {hole written back back' : Outline} {mark : Mark}
    {after : Text} (h : Inscribes v hole written) (hfit : mark.Fits after)
    (heq : hole ++ back = mark.outline ++ back') : mark.outline = hole ∧ back' = back := by
  cases h with
  | bracket =>
    cases mark with
    | bracket body =>
      obtain ⟨hbody, hback⟩ := List.cons.inj heq
      exact ⟨by rw [hbody]; rfl, hback.symm⟩
    | _ => exact absurd (List.cons.inj heq).1 (by simp)
  | marked marker =>
    cases mark with
    | bracket body => exact absurd (List.cons.inj heq).1 (by simp)
    | hole marker' =>
      obtain ⟨hmarker, hrest⟩ := List.cons.inj heq
      obtain ⟨-, hback⟩ := List.cons.inj hrest
      exact ⟨by rw [hmarker]; rfl, hback.symm⟩
    | run marker' text =>
      -- A run holds no percent sign.
      cases text with
      | nil => exact absurd rfl hfit.1
      | cons c text =>
        obtain ⟨-, hrest⟩ := List.cons.inj heq
        obtain ⟨hc, -⟩ := List.cons.inj hrest
        injection hc with hc
        exact absurd (hfit.2.1 c (by simp)) (by rw [← hc]; decide +kernel)

/-- The text of a value can be written in place of the placeholder of a decoration anywhere in a
well-formed group. -/
theorem exists_inscribed {group : Group} {value : Value} {front hole written back : Outline}
    (hwf : group.WellFormed) (heq : group.outline = front ++ (hole ++ back)) (hnull : value ≠ .null)
    (hinscribes : Inscribes value.toText hole written) :
    ∃ group' : Group, group'.WellFormed ∧ group'.outline = front ++ (written ++ back) ∧
      PresetForest value (Outline.holes front) group.forest group'.forest := by
  obtain ⟨x, rest, rfl, hx⟩ := hinscribes.begins
  obtain ⟨spot, rfl, rfl, hback⟩ := searchable hwf front (rest ++ back) x hx heq
  have hitem : spot.item.WellFormed := Place.wellFormed_of_plug hwf
  have hfit := hitem.1
  obtain ⟨-, hmark, -⟩ := marksFit_append.mp hfit.2.2
  obtain ⟨hhole, rfl⟩ := hinscribes.eq_outline hmark hback
  rw [← hhole] at hinscribes
  obtain ⟨item', hwritten⟩ := exists_inscribedItem hitem hnull hinscribes
  refine ⟨spot.place.plug item', Place.wellFormed_plug hwf hwritten.wellFormed, ?_, ?_⟩
  · rw [Place.outline_plug, hwritten.outline_eq]
    simp [Spot.front, Spot.back]
  · have hpreset := Place.presetForest_plug hwf hwritten.preset
    rw [Spot.holes_front hwf]
    exact hpreset

/-- Filling the placeholder of a decoration is the same as writing the text of the value in its
place: if a template can be read, and the argument for the placeholder is not missing and may be
written there, then the template with the text in place of the placeholder can be read as well,
and without the argument it expands to what the template with the placeholder expands to. -/
theorem expand_inscribed (policy : Policy) {template : Text} {forest : Forest}
    {front hole written back : Outline} {arguments : List Value} {value : Value}
    (hparse : parse template = .ok forest)
    (houtline : Outline.of? template = some (front ++ (hole ++ back)))
    (hvalue : arguments[Outline.holes front]? = some value) (hnull : value ≠ .null)
    (hinscribes : Inscribes value.toText hole written) :
    (∃ forest', parse (Outline.text (front ++ (written ++ back))) = .ok forest') ∧
      (expand policy template arguments).toOption =
        (expand policy (Outline.text (front ++ (written ++ back)))
          (arguments.eraseIdx (Outline.holes front))).toOption := by
  rcases parse_eq_ok_iff.mp hparse with ⟨hblank, -⟩ | ⟨group, hwf, rfl, rfl⟩
  · -- A blank template has no decoration.
    have hblanks : ∀ c ∈ template, isStop c = false :=
      isStop_of_blanks (List.all_eq_true.mp hblank)
    have hplains : Outline.of? template = some (Outline.plains template) :=
      Outline.of?_eq_some_iff.mpr ⟨(plains_of_isStop hblanks).1, Outline.text_plains template⟩
    rw [hplains] at houtline
    obtain ⟨x, rest, rfl, hx⟩ := hinscribes.begins
    have hmem : x ∈ Outline.plains template := by
      rw [Option.some.inj houtline]
      simp
    rw [beginsMark_plains hblanks hmem] at hx
    exact absurd hx (by decide)
  · rw [hwf.of?_text] at houtline
    obtain ⟨group', hwf', houtline', hpreset⟩ :=
      exists_inscribed hwf (Option.some.inj houtline) hnull hinscribes
    have hparse' := parse_text hwf'
    rw [← houtline', group'.text_outline]
    refine ⟨⟨_, hparse'⟩, ?_⟩
    rw [toOption_expand_of_parse policy arguments hparse, toOption_expand_of_parse policy _ hparse']
    obtain ⟨before, behind, rfl, hlength, herase⟩ := exists_around hvalue
    rw [herase, hpreset.fill policy before behind hlength]

/-- A value with marks of its own may be written into the brackets of an item inside another. -/
theorem expand_inscribed_nested :
    (∃ forest', parse "a#%(b[x=1+(2].y)+%".toList = .ok forest') ∧
      (expand .standard "a#%(b[x= % ].y)+%".toList
          [.integer 1, .text "1+(2".toList, .null]).toOption =
        (expand .standard "a#%(b[x=1+(2].y)+%".toList [.integer 1, .null]).toOption := by
  have hok : (parse "a#%(b[x= % ].y)+%".toList).isOk = true := by decide +kernel
  obtain ⟨forest, hforest⟩ := exists_forest_of_isOk hok
  have houtline : Outline.of? "a#%(b[x= % ].y)+%".toList =
      some (Outline.plains "a#%(b".toList ++
        ([.bracket ("x".toList ++ '=' :: " % ".toList)] ++ Outline.plains ".y)+%".toList)) := by
    decide +kernel
  have hvalue : [Value.integer 1, .text "1+(2".toList, .null][
      Outline.holes (Outline.plains "a#%(b".toList)]? = some (.text "1+(2".toList) := by
    decide +kernel
  have hinscribes : Inscribes (Value.text "1+(2".toList).toText
      [.bracket ("x".toList ++ '=' :: " % ".toList)]
      [.bracket ("x".toList ++ '=' :: "1+(2".toList)] :=
    .bracket (by decide) (by decide +kernel) (by decide) (by decide) (by decide +kernel)
  exact expand_inscribed .standard hforest houtline hvalue (by decide) hinscribes

end Shorthand.Template.Grammar
