import Shorthand.Path.Markup
import Shorthand.Proofs.Dialects.Segment
import Shorthand.Proofs.Template.Demand

/-!
# Chains

A chain is a written group that has content behind the last item of each row only: there stands
the next row in parentheses, and in the innermost row the one placeholder. The main statement is
that filling a chain with a value gives the markup of the path whose groups are the rows.
-/

namespace Shorthand.Template.Grammar

open Text

/-- A group is a chain whose rows, from the outermost to the innermost, are the given items once
their content is taken away. -/
inductive Chain : Group → List (List Item) → Prop where
  | hole (run : Text) (marks : List Mark) :
      Chain (.one ⟨run, marks, .hole, []⟩) [[⟨run, marks, .nothing, []⟩]]
  | group {inside : Group} {rows : List (List Item)} (run : Text) (marks : List Mark)
      (h : Chain inside rows) :
      Chain (.one ⟨run, marks, .group inside, []⟩) ([⟨run, marks, .nothing, []⟩] :: rows)
  | more {others : Group} {row : List Item} {rows : List (List Item)} (item : Item)
      (h : Chain others (row :: rows)) : Chain (.more item others) ((item :: row) :: rows)

/-- The rows of a chain have items, and there is one at least. -/
theorem Chain.ne_nil {group : Group} {rows : List (List Item)} (h : Chain group rows) :
    rows ≠ [] ∧ ∀ row ∈ rows, row ≠ [] := by
  induction h with
  | hole run marks => simp
  | group run marks h ih => simpa using ih.2
  | more item h ih =>
    obtain ⟨-, hrows⟩ := ih
    refine ⟨List.cons_ne_nil _ _, fun row hrow ↦ ?_⟩
    rcases List.mem_cons.mp hrow with rfl | hmem
    · exact List.cons_ne_nil _ _
    · exact hrows row (List.mem_cons_of_mem _ hmem)

private theorem Item.IsSegment.some_tag_or_marks {item : Item} (h : item.IsSegment) :
    item.tag? ≠ none ∨ item.marks ≠ [] := by
  obtain ⟨run, marks, inner, blanks⟩ := item
  obtain ⟨-, -, hblanks, hblank⟩ := h.wellFormed
  obtain rfl : inner = .nothing := h.inner
  cases marks with
  | cons mark marks => exact .inr (List.cons_ne_nil _ _)
  | nil =>
    left
    intro htag
    have hempty : trim run = [] := by simpa [Item.tag?] using htag
    rw [trim_eq_nil_iff, isBlankText] at hempty
    rw [← Bool.not_eq_true, isBlankText] at hblank
    apply hblank
    rw [Item.text, marksText_nil, Inner.text, List.append_nil, List.append_nil, List.all_append,
      hempty, List.all_eq_true.mpr hblanks]
    rfl

private theorem tag_pathSegment_ne {default : Text} {item : Item} (h : item.IsSegment)
    (hdefault : default ≠ Segment.spliceTag) :
    item.pathSegment.tag default ≠ Segment.spliceTag := by
  obtain ⟨run, marks, inner, blanks⟩ := item
  obtain ⟨⟨-, hname, -⟩, -, -, -⟩ := h.wellFormed
  rw [Segment.tag, Item.pathSegment, Item.tag?]
  rcases hname with hempty | hname
  · rwa [if_pos hempty]
  · rw [if_neg (isName_iff.mp hname).1]
    intro hsplice
    rw [Option.getD_some] at hsplice
    rw [hsplice] at hname
    exact absurd hname (by decide +kernel)

section Fill

variable {policy : Policy} {item : Item}

private theorem markupAround_eq (hdefault : policy.defaultTag ≠ Segment.spliceTag)
    (h : item.IsSegment) {segment : Segment} (htag : segment.tag? = item.tag?)
    (hmarks : segment.decorations = item.marks.map Mark.decoration) (content : Content)
    (spliced inside : Text) :
    markupAround policy segment content (segment.decorations.foldl Contributions.add .empty)
        inside = item.pathSegment.markup policy .empty spliced inside := by
  have htemplate : isSplice segment content = false := by
    have hsome := h.some_tag_or_marks
    rw [isSplice, htag, hmarks]
    rcases hsome with hsome | hsome
    · simp [hsome]
    · simp [hsome]
  have hpath : item.pathSegment.isSplice policy = false := by
    rw [Segment.isSplice, decide_eq_false_iff_not]
    exact tag_pathSegment_ne h hdefault
  rw [markupAround, htemplate, Segment.markup, hpath, itemMarkup, Segment.tag, htag, hmarks]
  rfl

private theorem fill_item_of_isSegment (hdefault : policy.defaultTag ≠ Segment.spliceTag)
    (h : item.IsSegment) {segment : Segment} (htag : segment.tag? = item.tag?)
    (hmarks : segment.decorations = item.marks.map Mark.decoration) (content : Content)
    (next : Forest) (spliced : Text) :
    fill policy (.item segment content next) =
      Step.andThen (fillContent policy content) fun inside ↦
        Step.andThen (fill policy next) fun others ↦
          .done (item.pathSegment.markup policy .empty spliced inside ++ others) := by
  have hnone : ∀ d ∈ segment.decorations, d.isPlaceholder = false := by
    intro d hd
    rw [hmarks] at hd
    obtain ⟨mark, hmark, rfl⟩ := List.mem_map.mp hd
    exact (h.marks mark hmark).isPlaceholder
  rw [fill_item, fillDecorations_of_not_isPlaceholder _ hnone]
  funext arguments
  simp only [Step.andThen, Step.done, Option.bind_some,
    markupAround_eq hdefault h htag hmarks content spliced]

/-- Filling a chain with a value gives the markup of a path, and takes no other argument. -/
theorem Chain.fill {group : Group} {rows : List (List Item)} (h : Chain group rows)
    (hdefault : policy.defaultTag ≠ Segment.spliceTag)
    (hrows : ∀ row ∈ rows, ∀ item ∈ row, item.IsSegment) (value : Value) (rest : List Value) :
    Template.fill policy group.forest (value :: rest) =
      some (Path.nestMarkup policy value.contentText (rows.map (·.map Item.pathSegment)),
        rest) := by
  induction h with
  | hole run marks =>
    have hitem := hrows _ (List.mem_cons_self ..) _ (List.mem_cons_self ..)
    rw [Group.forest, fill_item_of_isSegment hdefault hitem rfl rfl _ _ value.contentText]
    simp [Item.content, Inner.content, fillContent, Step.andThen, Step.done, takeArgument,
      Template.fill, Path.nestMarkup, Path.groupMarkup]
  | @group inside rows run marks h ih =>
    have hitem := hrows _ (List.mem_cons_self ..) _ (List.mem_cons_self ..)
    have hinside := ih fun row hrow ↦ hrows row (List.mem_cons_of_mem _ hrow)
    rw [Group.forest, fill_item_of_isSegment hdefault hitem rfl rfl _ _
      (Path.nestMarkup policy value.contentText (rows.map (·.map Item.pathSegment)))]
    simp [Item.content, Inner.content, fillContent, Step.andThen, Step.done,
      Template.fill, Path.nestMarkup, Path.groupMarkup, hinside]
  | @more others row rows item h ih =>
    have hitem := hrows _ (List.mem_cons_self ..) item (List.mem_cons_self ..)
    have hothers := ih fun row' hrow' ↦ by
      rcases List.mem_cons.mp hrow' with rfl | hmem
      · exact fun item' hitem' ↦ hrows _ (List.mem_cons_self ..) _ (List.mem_cons_of_mem _ hitem')
      · exact hrows row' (List.mem_cons_of_mem _ hmem)
    have hcontent : item.content = .empty := by
      obtain ⟨run, marks, inner, blanks⟩ := item
      obtain rfl : inner = .nothing := hitem.inner
      rfl
    have hrow : row ≠ [] := h.ne_nil.2 row (List.mem_cons_self ..)
    obtain ⟨next, row, rfl⟩ := List.exists_cons_of_ne_nil hrow
    rw [Group.forest, hcontent, fill_item_of_isSegment hdefault hitem rfl rfl _ _
      (Path.nestMarkup policy value.contentText (rows.map (·.map Item.pathSegment)))]
    simp only [fillContent, Step.andThen, Step.done, Option.bind_some, hothers]
    rfl

end Fill

end Shorthand.Template.Grammar
