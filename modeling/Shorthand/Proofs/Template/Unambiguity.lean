import Shorthand.Proofs.Template.Reading

/-!
# Unambiguity

A text is that of one well-formed group only, even if more text follows it. The main statement
puts this together with what is known of reading: a template is read exactly if it is blank or
has a derivation, the derivation is the only one, and the forest is the one it stands for.
-/

namespace Shorthand.Template.Grammar

open Text

/-- The text behind a decoration is the only place where it can end. -/
theorem Mark.text_append_inj {a b : Mark} {rest rest' : Text} (ha : a.Fits rest)
    (hb : b.Fits rest') (heq : a.text ++ rest = b.text ++ rest') : a = b ∧ rest = rest' := by
  have hbracket : ∀ marker : Marker, marker.char ≠ openBracket := by
    intro marker
    cases marker <;> decide
  cases a with
  | hole marker =>
    cases b with
    | hole marker' =>
      obtain ⟨hchar, hrest⟩ : _ ∧ _ := by simpa [text] using heq
      exact ⟨by rw [Marker.char_injective hchar], hrest⟩
    | run marker' value' =>
      obtain ⟨-, hvalue⟩ : _ ∧ _ := by simpa [text] using heq
      exact absurd hvalue.symm (run_ne_placeholder hb.1 hb.2 _)
    | bracket body' =>
      obtain ⟨hchar, -⟩ : _ ∧ _ := by simpa [text, bracketed] using heq
      exact absurd hchar (hbracket marker)
  | run marker value =>
    cases b with
    | hole marker' =>
      obtain ⟨-, hvalue⟩ : _ ∧ _ := by simpa [text] using heq
      exact absurd hvalue (run_ne_placeholder ha.1 ha.2 _)
    | run marker' value' =>
      obtain ⟨hchar, hvalue⟩ : _ ∧ _ := by simpa [text] using heq
      obtain ⟨rfl, hrest⟩ := ha.2.append_inj hb.2 hvalue
      exact ⟨by rw [Marker.char_injective hchar], hrest⟩
    | bracket body' =>
      obtain ⟨hchar, -⟩ : _ ∧ _ := by simpa [text, bracketed] using heq
      exact absurd hchar (hbracket marker)
  | bracket body =>
    cases b with
    | hole marker' =>
      obtain ⟨hchar, -⟩ : _ ∧ _ := by simpa [text, bracketed] using heq
      exact absurd hchar.symm (hbracket marker')
    | run marker' value' =>
      obtain ⟨hchar, -⟩ : _ ∧ _ := by simpa [text, bracketed] using heq
      exact absurd hchar.symm (hbracket marker')
    | bracket body' =>
      have hlexeme := Lexeme.text_append_inj (a := .bracket body) (b := .bracket body')
        ⟨ha.1, ha.2.1⟩ ⟨hb.1, hb.2.1⟩ heq
      obtain ⟨hbody, hrest⟩ := hlexeme
      injection hbody with hbody
      exact ⟨by rw [hbody], hrest⟩

private theorem not_beginsNoMark_text (mark : Mark) (rest : Text) :
    ¬ BeginsNoMark (mark.text ++ rest) := by
  have hmarker : ∀ marker : Marker,
      ¬ (marker.char ≠ '#' ∧ marker.char ≠ '.' ∧ marker.char ≠ openBracket) := by
    intro marker
    cases marker <;> decide
  intro h
  cases mark with
  | hole marker => exact hmarker marker (h _ rfl)
  | run marker value => exact hmarker marker (h _ rfl)
  | bracket body => exact (h openBracket rfl).2.2 rfl

/-- Decorations end where none begins. -/
theorem marksText_append_inj {marks marks' : List Mark} {after after' : Text}
    (h : MarksFit after marks) (h' : MarksFit after' marks') (hafter : BeginsNoMark after)
    (hafter' : BeginsNoMark after')
    (heq : marksText marks ++ after = marksText marks' ++ after') :
    marks = marks' ∧ after = after' := by
  induction marks generalizing marks' with
  | nil =>
    cases marks' with
    | nil => exact ⟨rfl, heq⟩
    | cons mark' marks' =>
      rw [marksText, List.flatMap_nil, List.nil_append] at heq
      rw [heq, marksText, List.flatMap_cons, List.append_assoc] at hafter
      exact absurd hafter (not_beginsNoMark_text mark' _)
  | cons mark marks ih =>
    cases marks' with
    | nil =>
      rw [marksText, marksText, List.flatMap_nil, List.nil_append] at heq
      rw [← heq, List.flatMap_cons, List.append_assoc] at hafter'
      exact absurd hafter' (not_beginsNoMark_text mark _)
    | cons mark' marks' =>
      simp only [marksText, List.flatMap_cons, List.append_assoc] at heq
      obtain ⟨rfl, hrest⟩ := Mark.text_append_inj h.1 h'.1 heq
      obtain ⟨rfl, hafter⟩ := ih h.2 h'.2 hrest
      exact ⟨rfl, hafter⟩

private theorem head_append_inj {run run' after after' : Text} {marks marks' : List Mark}
    (h : HeadFits run marks after) (h' : HeadFits run' marks' after')
    (hafter : BeginsNoMark after) (hafter' : BeginsNoMark after')
    (heq : run ++ (marksText marks ++ after) = run' ++ (marksText marks' ++ after')) :
    run = run' ∧ marks = marks' ∧ after = after' := by
  obtain ⟨rfl, hmarks⟩ := h.1.append_inj h'.1 heq
  obtain ⟨rfl, rfl⟩ := marksText_append_inj h.2.2 h'.2.2 hafter hafter' hmarks
  exact ⟨rfl, rfl, rfl⟩

private theorem blanks_append_inj {blanks blanks' rest rest' : Text}
    (hblanks : ∀ c ∈ blanks, isBlank c = true) (hblanks' : ∀ c ∈ blanks', isBlank c = true)
    (hrest : EndsItem rest) (hrest' : EndsItem rest') (heq : blanks ++ rest = blanks' ++ rest') :
    blanks = blanks' ∧ rest = rest' :=
  (hrest.isStretch hblanks).append_inj (hrest'.isStretch hblanks') heq

/-- What holds of the text of two groups in the same place: they are the same group. -/
def Determined (group : Group) : Prop :=
  ∀ other rest rest', group.WellFormed → other.WellFormed → EndsGroup rest → EndsGroup rest' →
    group.text ++ rest = other.text ++ rest' → group = other ∧ rest = rest'

private theorem inner_append_inj {inner inner' : Inner} {blanks blanks' rest rest' : Text}
    (ih : ∀ inside, inner = .group inside → Determined inside)
    (h : inner.WellFormed) (h' : inner'.WellFormed)
    (hblanks : ∀ c ∈ blanks, isBlank c = true) (hblanks' : ∀ c ∈ blanks', isBlank c = true)
    (hrest : EndsItem rest) (hrest' : EndsItem rest')
    (heq : inner.text ++ (blanks ++ rest) = inner'.text ++ (blanks' ++ rest')) :
    inner = inner' ∧ blanks = blanks' ∧ rest = rest' := by
  have hfirst := fun c ↦ @head_blanks_append blanks rest hblanks hrest c
  have hfirst' := fun c ↦ @head_blanks_append blanks' rest' hblanks' hrest' c
  cases inner with
  | nothing =>
    cases inner' with
    | nothing => exact ⟨rfl, blanks_append_inj hblanks hblanks' hrest hrest' heq⟩
    | hole =>
      have hhead := hfirst placeholderMark (by simp [Inner.text] at heq; simp [heq])
      exact absurd rfl hhead.2.2.2.1
    | group inside' =>
      have hhead := hfirst '(' (by simp [Inner.text] at heq; simp [heq])
      exact absurd rfl hhead.2.2.2.2
  | hole =>
    cases inner' with
    | nothing =>
      have hhead := hfirst' placeholderMark (by simp [Inner.text] at heq; simp [← heq])
      exact absurd rfl hhead.2.2.2.1
    | hole =>
      obtain heq : blanks ++ rest = blanks' ++ rest' := by simpa [Inner.text] using heq
      exact ⟨rfl, blanks_append_inj hblanks hblanks' hrest hrest' heq⟩
    | group inside' =>
      have hhead := congrArg List.head? heq
      exact absurd hhead (by simp [Inner.text, placeholderMark])
  | group inside =>
    cases inner' with
    | nothing =>
      have hhead := hfirst' '(' (by simp [Inner.text] at heq; simp [← heq])
      exact absurd rfl hhead.2.2.2.2
    | hole =>
      have hhead := congrArg List.head? heq
      exact absurd hhead (by simp [Inner.text, placeholderMark])
    | group inside' =>
      have hends : ∀ s : Text, EndsGroup (')' :: s) := by simp [EndsGroup]
      obtain heq : inside.text ++ ')' :: (blanks ++ rest) =
          inside'.text ++ ')' :: (blanks' ++ rest') := by simpa [Inner.text] using heq
      obtain ⟨rfl, hafter⟩ := ih inside rfl inside' _ _ h h' (hends _) (hends _) heq
      obtain ⟨-, hafter⟩ := List.cons.inj hafter
      exact ⟨rfl, blanks_append_inj hblanks hblanks' hrest hrest' hafter⟩

private theorem item_append_inj {item item' : Item} {rest rest' : Text}
    (ih : ∀ inside, item.inner = .group inside → Determined inside)
    (h : item.WellFormed) (h' : item'.WellFormed) (hrest : EndsItem rest)
    (hrest' : EndsItem rest') (heq : item.text ++ rest = item'.text ++ rest') :
    item = item' ∧ rest = rest' := by
  obtain ⟨run, marks, inner, blanks⟩ := item
  obtain ⟨run', marks', inner', blanks'⟩ := item'
  obtain ⟨hfit, hinner, hblanks, -⟩ := h
  obtain ⟨hfit', hinner', hblanks', -⟩ := h'
  have hfull := hfit.append hrest
  have hfull' := hfit'.append hrest'
  rw [List.append_assoc] at hfull hfull'
  have htext : run ++ (marksText marks ++ (inner.text ++ (blanks ++ rest))) =
      run' ++ (marksText marks' ++ (inner'.text ++ (blanks' ++ rest'))) := by
    simpa [Item.text] using heq
  obtain ⟨rfl, rfl, hafter⟩ := head_append_inj hfull hfull'
    (beginsNoMark_inner inner hblanks hrest) (beginsNoMark_inner inner' hblanks' hrest') htext
  obtain ⟨rfl, rfl, rfl⟩ :=
    inner_append_inj ih hinner hinner' hblanks hblanks' hrest hrest' hafter
  exact ⟨rfl, rfl⟩

private theorem not_endsGroup_plus (s : Text) : ¬ EndsGroup ('+' :: s) := by
  intro h
  exact absurd (h '+' rfl) (by decide)

/-- A well-formed group in front of a text that ends it is the only one there. -/
theorem Group.determined (group : Group) : Determined group := by
  induction group with
  | one item ihInside =>
    intro other rest rest' h h' hrest hrest' heq
    cases other with
    | one item' =>
      obtain ⟨rfl, rfl⟩ := item_append_inj ihInside h h' hrest.endsItem hrest'.endsItem heq
      exact ⟨rfl, rfl⟩
    | more item' others' =>
      rw [Group.text, Group.text, List.append_assoc] at heq
      obtain ⟨-, hplus⟩ := item_append_inj ihInside h h'.1 hrest.endsItem (endsItem_plus _) heq
      rw [hplus] at hrest
      exact absurd hrest (not_endsGroup_plus _)
  | more item others ihInside ihOthers =>
    intro other rest rest' h h' hrest hrest' heq
    cases other with
    | one item' =>
      rw [Group.text, Group.text, List.append_assoc] at heq
      obtain ⟨-, hplus⟩ :=
        item_append_inj ihInside h.1 h' (endsItem_plus _) hrest'.endsItem heq
      rw [← hplus] at hrest'
      exact absurd hrest' (not_endsGroup_plus _)
    | more item' others' =>
      rw [Group.text, Group.text, List.append_assoc, List.append_assoc] at heq
      obtain ⟨rfl, hothers⟩ :=
        item_append_inj ihInside h.1 h'.1 (endsItem_plus _) (endsItem_plus _) heq
      obtain ⟨-, hothers⟩ := List.cons.inj hothers
      obtain ⟨rfl, rfl⟩ := ihOthers others' rest rest' h.2 h'.2 hrest hrest' hothers
      exact ⟨rfl, rfl⟩

/-- An item is the only one in its place, whatever group is inside it. -/
theorem Item.append_inj {item item' : Item} {rest rest' : Text} (h : item.WellFormed)
    (h' : item'.WellFormed) (hrest : EndsItem rest) (hrest' : EndsItem rest')
    (heq : item.text ++ rest = item'.text ++ rest') : item = item' ∧ rest = rest' :=
  item_append_inj (fun inside _ ↦ inside.determined) h h' hrest hrest' heq

/-- Whether a group is a derivation of a template: it is well formed, and the template is its
text. -/
def Group.Derives (group : Group) (template : Text) : Prop :=
  group.WellFormed ∧ group.text = template

/-- The group is checked, and its text is compared with the template. -/
instance (group : Group) (template : Text) : Decidable (group.Derives template) :=
  inferInstanceAs (Decidable (group.WellFormed ∧ group.text = template))

/-- A template has one derivation at most. -/
theorem Group.Derives.eq {group other : Group} {template : Text} (h : group.Derives template)
    (h' : other.Derives template) : group = other := by
  obtain ⟨hwf, rfl⟩ := h
  obtain ⟨hwf', heq⟩ := h'
  have hends : EndsGroup [] := by simp [EndsGroup]
  exact (group.determined other [] [] hwf hwf' hends hends (by rw [heq])).1

/-- A template is read exactly if it is blank, and then as no items, or if it has a derivation,
which is then the only one, and then as the forest of the derivation. Every other template is
malformed. Where an item names no tag its segment has the default tag. -/
theorem parse_iff_derives (template default : Text) (forest : Forest) :
    (parse template = .ok forest ↔
      (isBlankText template = true ∧ forest = .nil) ∨
        ∃ group : Group, (∀ other : Group, other.Derives template ↔ other = group) ∧
          group.forest = forest) ∧
    ((∃ fault, parse template = .error fault) ↔
      isBlankText template = false ∧ ¬ ∃ group : Group, group.Derives template) ∧
    ∀ item : Item, (item.segment.tag? = none ↔ trim item.run = []) ∧
      item.segment.tag default = if trim item.run = [] then default else trim item.run := by
  refine ⟨?_, ?_, ?_⟩
  · rw [parse_eq_ok_iff]
    apply or_congr_right
    constructor
    · rintro ⟨group, hwf, htext, hforest⟩
      refine ⟨group, fun other ↦ ⟨fun h ↦ h.eq ⟨hwf, htext⟩, ?_⟩, hforest⟩
      rintro rfl
      exact ⟨hwf, htext⟩
    · rintro ⟨group, hunique, hforest⟩
      obtain ⟨hwf, htext⟩ := (hunique group).mpr rfl
      exact ⟨group, hwf, htext, hforest⟩
  · cases hparse : parse template with
    | error fault =>
      have hnone : ∀ forest, parse template ≠ .ok forest := by simp [hparse]
      refine ⟨fun _ ↦ ⟨?_, ?_⟩, fun _ ↦ ⟨fault, rfl⟩⟩
      · rw [← Bool.not_eq_true]
        exact fun hblank ↦ hnone .nil (parse_eq_ok_iff.mpr (.inl ⟨hblank, rfl⟩))
      · rintro ⟨group, hwf, rfl⟩
        exact hnone group.forest (parse_text hwf)
    | ok found =>
      refine ⟨by simp, ?_⟩
      rintro ⟨hblank, hnone⟩
      rcases parse_eq_ok_iff.mp hparse with ⟨h, -⟩ | ⟨group, hwf, htext, -⟩
      · rw [h] at hblank
        exact absurd hblank (by decide)
      · exact absurd ⟨group, hwf, htext⟩ hnone
  · intro item
    by_cases hempty : trim item.run = [] <;> simp [Item.segment, Item.tag?, Segment.tag, hempty]

end Shorthand.Template.Grammar
