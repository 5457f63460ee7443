import Shorthand.Proofs.Template.Demand
import Shorthand.Proofs.Template.Reading

/-!
# Placeholders in the text

Which characters of a template wait for an argument can be told from its outline alone. The
main statement is that a template that can be read has an outline, and that expanding it takes
exactly as many arguments as the outline has placeholders: fewer are a fault, and those behind
do not matter.
-/

namespace Shorthand.Template.Grammar

open Text

/-! ### The outline of a group -/

/-- The outline of a decoration has its text. -/
theorem Mark.text_outline (mark : Mark) : Outline.text mark.outline = mark.text := by
  cases mark with
  | hole marker => rfl
  | run marker value => simp [Mark.outline, Mark.text, Lexeme.text]
  | bracket body => simp [Mark.outline, Mark.text, Lexeme.text]

/-- The outline of decorations has their text. -/
theorem text_marksOutline (marks : List Mark) :
    Outline.text (marksOutline marks) = marksText marks := by
  induction marks with
  | nil => rfl
  | cons mark marks ih =>
    rw [marksOutline, List.flatMap_cons, Outline.text_append, mark.text_outline]
    exact congrArg (mark.text ++ ·) ih

mutual

/-- The outline of a group stands for its text. -/
theorem Group.text_outline : (group : Group) → Outline.text group.outline = group.text
  | .one item => item.text_outline
  | .more item others => by
    rw [Group.outline, Group.text, Outline.text_append, Outline.text_cons, item.text_outline,
      others.text_outline]
    rfl

/-- The outline of an item has its text. -/
theorem Item.text_outline : (item : Item) → Outline.text item.outline = item.text
  | ⟨run, marks, inner, blanks⟩ => by
    simp only [Item.outline, Item.text, Outline.text_append, Outline.text_plains,
      text_marksOutline, inner.text_outline]

/-- The outline of content has its text. -/
theorem Inner.text_outline : (inner : Inner) → Outline.text inner.outline = inner.text
  | .nothing => rfl
  | .hole => rfl
  | .group inside => by
    simp [Inner.outline, Inner.text, inside.text_outline, Lexeme.text]

end

/-- A stretch without marks has a well-formed outline that waits for nothing. -/
theorem plains_of_isStop {s : Text} (h : ∀ c ∈ s, isStop c = false) :
    Outline.WellFormed (Outline.plains s) ∧ Outline.holes (Outline.plains s) = 0 := by
  constructor
  · apply Outline.wellFormed_plains
    intro c hc
    exact ⟨ne_of_isStop (h c hc) (by decide), ne_of_isStop (h c hc) (by decide)⟩
  · apply Outline.holes_plains
    intro hmem
    exact ne_of_isStop (h _ hmem) (m := placeholderMark) (by decide) rfl

/-- A decoration that fits has a well-formed outline, which waits for an argument if the
decoration does. -/
theorem Mark.Fits.outline {mark : Mark} {after : Text} (h : mark.Fits after) :
    Outline.WellFormed mark.outline ∧
      Outline.holes mark.outline = if mark.decoration.isPlaceholder then 1 else 0 := by
  have hmarker : ∀ marker : Marker, (Lexeme.plain marker.char).WellFormed ∧
      (Lexeme.plain marker.char).isHole = false := by
    intro marker
    cases marker <;> decide
  cases mark with
  | hole marker =>
    refine ⟨?_, ?_⟩
    · rw [Mark.outline, Outline.wellFormed_cons]
      exact ⟨(hmarker marker).1, by decide⟩
    · simp [Mark.outline, Mark.decoration, (hmarker marker).2]
      rfl
  | run marker value =>
    obtain ⟨hwf, hholes⟩ := plains_of_isStop (isStop_of_run h.2.1)
    refine ⟨?_, ?_⟩
    · rw [Mark.outline, Outline.wellFormed_cons]
      exact ⟨(hmarker marker).1, hwf⟩
    · simp [Mark.outline, Mark.decoration, (hmarker marker).2, hholes]
  | bracket body =>
    refine ⟨?_, ?_⟩
    · rw [Mark.outline, Outline.wellFormed_cons]
      exact ⟨⟨h.1, h.2.1⟩, Outline.wellFormed_nil⟩
    · cases hhole : (Lexeme.bracket body).isHole <;> simp [Mark.outline, Mark.decoration, hhole]

/-- The outline of well-formed decorations is well formed, and waits for an argument for each
placeholder among them. -/
theorem MarksFit.outline {marks : List Mark} {after : Text} (h : MarksFit after marks) :
    Outline.WellFormed (marksOutline marks) ∧
      Outline.holes (marksOutline marks) = decorationHoles (marks.map Mark.decoration) := by
  induction marks with
  | nil => exact ⟨Outline.wellFormed_nil, rfl⟩
  | cons mark marks ih =>
    obtain ⟨hmark, hmarks⟩ := h
    obtain ⟨hwf, hholes⟩ := hmark.outline
    obtain ⟨hwfs, hothers⟩ := ih hmarks
    rw [marksOutline, List.flatMap_cons, List.map_cons, decorationHoles_cons,
      Outline.wellFormed_append, Outline.holes_append, hholes]
    exact ⟨⟨hwf, hwfs⟩, congrArg _ hothers⟩

mutual

/-- A well-formed group has a well-formed outline, with as many placeholders as its forest. -/
theorem Group.WellFormed.outline : {group : Group} → group.WellFormed →
    Outline.WellFormed group.outline ∧ Outline.holes group.outline = group.forest.holes
  | .one item, h => by
    obtain ⟨hwf, hholes⟩ := Item.WellFormed.outline h
    refine ⟨hwf, ?_⟩
    rw [Group.outline, hholes, Group.forest, Forest.holes_item]
    rfl
  | .more item others, ⟨h, hothers⟩ => by
    obtain ⟨hwf, hholes⟩ := Item.WellFormed.outline h
    obtain ⟨hwfs, hrest⟩ := Group.WellFormed.outline hothers
    rw [Group.outline, Group.forest, Forest.holes_item, Outline.wellFormed_append,
      Outline.wellFormed_cons, Outline.holes_append, Outline.holes_cons, hholes, hrest]
    refine ⟨⟨hwf, by decide, hwfs⟩, ?_⟩
    simp [Lexeme.isHole, placeholderMark]

/-- The outline of a well-formed item is well formed, and waits for an argument for each placeholder
of the item. -/
theorem Item.WellFormed.outline : {item : Item} → item.WellFormed →
    Outline.WellFormed item.outline ∧
      Outline.holes item.outline =
        decorationHoles item.segment.decorations + item.content.holes
  | ⟨run, marks, inner, blanks⟩, ⟨hfit, hinner, hblanks, _⟩ => by
    obtain ⟨hwfRun, hholesRun⟩ := plains_of_isStop hfit.isStop_eq_false
    obtain ⟨hwfMarks, hholesMarks⟩ := hfit.2.2.outline
    obtain ⟨hwfInner, hholesInner⟩ := Inner.WellFormed.outline hinner
    obtain ⟨hwfBlanks, hholesBlanks⟩ := plains_of_isStop (isStop_of_blanks hblanks)
    simp only [Item.outline, Outline.wellFormed_append, Outline.holes_append, hholesRun,
      hholesMarks, hholesInner, hholesBlanks, Nat.zero_add, Nat.add_zero]
    exact ⟨⟨⟨⟨hwfRun, hwfMarks⟩, hwfInner⟩, hwfBlanks⟩, rfl⟩

/-- The outline of well-formed content is well formed, and waits for an argument for each
placeholder in it. -/
theorem Inner.WellFormed.outline : {inner : Inner} → inner.WellFormed →
    Outline.WellFormed inner.outline ∧ Outline.holes inner.outline = inner.content.holes
  | .nothing, _ => ⟨Outline.wellFormed_nil, rfl⟩
  | .hole, _ => ⟨by decide, rfl⟩
  | .group inside, h => by
    obtain ⟨hwf, hholes⟩ := @Group.WellFormed.outline inside h
    have hparens : (Lexeme.plain '(').WellFormed ∧ (Lexeme.plain ')').WellFormed := by decide
    simp only [Inner.outline, Inner.content, Content.holes, List.cons_append,
      Outline.wellFormed_cons, Outline.wellFormed_append, Outline.holes_cons,
      Outline.holes_append, hholes]
    exact ⟨⟨hparens.1, hwf, hparens.2, Outline.wellFormed_nil⟩, by
      simp [Lexeme.isHole, placeholderMark]⟩

end

/-- The outline of the text of a well-formed group is the outline of the group. -/
theorem Group.WellFormed.of?_text {group : Group} (h : group.WellFormed) :
    Outline.of? group.text = some group.outline := by
  rw [← group.text_outline]
  exact Outline.of?_text h.outline.1

/-- A template that can be read has an outline, with as many placeholders as its forest. -/
theorem exists_outline_of_parse {template : Text} {forest : Forest}
    (h : parse template = .ok forest) :
    ∃ outline, Outline.of? template = some outline ∧ Outline.holes outline = forest.holes := by
  rcases parse_eq_ok_iff.mp h with ⟨hblank, rfl⟩ | ⟨group, hwf, rfl, rfl⟩
  · have hblanks : ∀ c ∈ template, isBlank c = true := List.all_eq_true.mp hblank
    have hplain := plains_of_isStop (isStop_of_blanks hblanks)
    refine ⟨Outline.plains template, ?_, hplain.2⟩
    exact Outline.of?_eq_some_iff.mpr ⟨hplain.1, Outline.text_plains template⟩
  · exact ⟨group.outline, hwf.of?_text, hwf.outline.2⟩

/-- A template that can be read has as many placeholders as its outline. -/
theorem holes_of_parse {template : Text} {forest : Forest} {outline : Outline}
    (h : parse template = .ok forest) (houtline : Outline.of? template = some outline) :
    Outline.holes outline = forest.holes := by
  obtain ⟨outline', houtline', hholes⟩ := exists_outline_of_parse h
  obtain rfl : outline = outline' := Option.some.inj (houtline.symm.trans houtline')
  exact hholes

/-- Expanding a template that can be read fills its forest. -/
theorem expand_of_parse {template : Text} {forest : Forest} (policy : Policy)
    (arguments : List Value) (h : parse template = .ok forest) :
    expand policy template arguments =
      match fill policy forest arguments with
      | some (markup, _) => .ok markup
      | none => .error (.exhausted ⟨some template, arguments.length⟩) := by
  simp only [expand, Supply.expand, h, Supply.fill, Supply.ofArguments]
  cases fill policy forest arguments with
  | some result => rfl
  | none =>
    have hfault : (Supply.ofArguments (some template) arguments).exhausted =
        ⟨some template, arguments.length⟩ := by
      rw [Supply.exhausted, Supply.total, Supply.ofArguments, Nat.zero_add]
    exact congrArg (fun fault ↦ Except.error (Failure.exhausted fault)) hfault

/-- The markup of a template that can be read is that of its forest, if there are arguments
enough. -/
theorem toOption_expand_of_parse {template : Text} {forest : Forest} (policy : Policy)
    (arguments : List Value) (h : parse template = .ok forest) :
    (expand policy template arguments).toOption = (fill policy forest arguments).map Prod.fst := by
  rw [expand_of_parse policy arguments h]
  cases fill policy forest arguments <;> rfl

/-- A well-formed group has a markup if there are arguments enough. -/
theorem Group.WellFormed.exists_expand {group : Group} {arguments : List Value}
    (h : group.WellFormed) (policy : Policy)
    (henough : Outline.holes group.outline ≤ arguments.length) :
    ∃ markup, expand policy group.text arguments = .ok markup := by
  rw [h.outline.2] at henough
  obtain ⟨markup, hfill, -⟩ := (takes_fill policy group.forest).of_le henough
  exact ⟨markup, by rw [expand_of_parse policy arguments (parse_text h), hfill]⟩

/-- A well-formed group has no markup if there are fewer arguments. -/
theorem Group.WellFormed.toOption_expand_eq_none {group : Group} {arguments : List Value}
    (h : group.WellFormed) (policy : Policy)
    (hshort : arguments.length < Outline.holes group.outline) :
    (expand policy group.text arguments).toOption = none := by
  rw [h.outline.2] at hshort
  rw [toOption_expand_of_parse policy arguments (parse_text h),
    (takes_fill policy group.forest).2 arguments hshort]
  rfl

/-- A template that can be read has an outline. If this has more placeholders than there are
arguments, expanding ends in the fault that says so, and only then. Otherwise expanding has a
result and uses up as many arguments as there are placeholders, and those behind do not change
the result. A template that cannot be read is malformed with whatever arguments. -/
theorem expand_exhausted_iff (policy : Policy) (template : Text) (arguments : List Value) :
    (∀ forest, parse template = .ok forest →
      ∃ outline, Outline.of? template = some outline ∧
        (expand policy template arguments =
            .error (.exhausted ⟨some template, arguments.length⟩) ↔
          arguments.length < Outline.holes outline) ∧
        (Outline.holes outline ≤ arguments.length →
          ∃ markup, expand policy template arguments = .ok markup ∧
            expand policy template (arguments.take (Outline.holes outline)) = .ok markup ∧
            ((Supply.ofArguments (some template) arguments).expand policy template).2.consumed =
              Outline.holes outline)) ∧
    ∀ fault, parse template = .error fault →
      expand policy template arguments = .error (.malformed fault) := by
  refine ⟨?_, ?_⟩
  · intro forest hparse
    obtain ⟨outline, houtline, hholes⟩ := exists_outline_of_parse hparse
    have hexpand := fun arguments ↦ expand_of_parse policy arguments hparse
    refine ⟨outline, houtline, ?_, ?_⟩
    · rw [hholes, hexpand]
      constructor
      · intro h
        by_cases hle : forest.holes ≤ arguments.length
        · obtain ⟨markup, hfill, -⟩ := (takes_fill policy forest).of_le hle
          rw [hfill] at h
          exact absurd h (by simp)
        · omega
      · intro h
        rw [(takes_fill policy forest).2 arguments h]
    · rw [hholes, hexpand, hexpand]
      intro hle
      obtain ⟨markup, hfill, htake⟩ := (takes_fill policy forest).of_le hle
      refine ⟨markup, by rw [hfill], by rw [htake], ?_⟩
      have hleft : (arguments.drop forest.holes).length = arguments.length - forest.holes :=
        List.length_drop
      simp only [Supply.expand, hparse, Supply.fill, Supply.ofArguments, hfill, Supply.leaving,
        Supply.total, hleft]
      omega
  · intro fault hparse
    simp [expand, Supply.expand, hparse]

/-- A template with an attribute, a class and a content placeholder asks for three arguments, and
is malformed without its last parenthesis. -/
theorem expand_exhausted_three :
    expand .standard "a[x= %].%(b%)".toList [.integer 1, .null] =
        .error (.exhausted ⟨some "a[x= %].%(b%)".toList, 2⟩) ∧
      (∃ markup,
        expand .standard "a[x= %].%(b%)".toList [.integer 1, .null, .null, .null] = .ok markup ∧
        expand .standard "a[x= %].%(b%)".toList [.integer 1, .null, .null] = .ok markup) ∧
      ∃ fault, expand .standard "a[x= %].%(b%".toList [.null] = .error (.malformed fault) := by
  have hok : (parse "a[x= %].%(b%)".toList).isOk = true := by decide +kernel
  obtain ⟨forest, hforest⟩ := exists_forest_of_isOk hok
  have hcount : ∀ outline, Outline.of? "a[x= %].%(b%)".toList = some outline →
      Outline.holes outline = 3 := by
    intro outline houtline
    have hsome : (Outline.of? "a[x= %].%(b%)".toList).map Outline.holes = some 3 := by
      decide +kernel
    rw [houtline] at hsome
    exact Option.some.inj hsome
  have hfew := expand_exhausted_iff .standard "a[x= %].%(b%)".toList [.integer 1, .null]
  have hmany := expand_exhausted_iff .standard "a[x= %].%(b%)".toList
    [.integer 1, .null, .null, .null]
  obtain ⟨outline, houtline, hexhausted, -⟩ := hfew.1 forest hforest
  obtain ⟨outline', houtline', -, henough⟩ := hmany.1 forest hforest
  have hthree := hcount outline houtline
  have hthree' := hcount outline' houtline'
  refine ⟨hexhausted.mpr (by rw [hthree]; decide), ?_, ?_⟩
  · obtain ⟨markup, hall, htake, -⟩ := henough (by rw [hthree']; decide)
    rw [hthree'] at htake
    exact ⟨markup, hall, htake⟩
  · have hbad : (parse "a[x= %].%(b%".toList).isOk = false := by decide +kernel
    cases hparse : parse "a[x= %].%(b%".toList with
    | error fault =>
      have hopen := expand_exhausted_iff .standard "a[x= %].%(b%".toList [.null]
      exact ⟨fault, hopen.2 fault hparse⟩
    | ok forest =>
      rw [hparse] at hbad
      exact absurd hbad Bool.noConfusion

end Shorthand.Template.Grammar
