import Shorthand.Proofs.Markup.Scan
import Shorthand.Proofs.Template.Roles

/-!
# Elements of templates

The elements that a template describes can be listed from its forest. The main statement says that
what filling writes is read as these elements, provided that the arguments that become content
hold no angle brackets; those that fill decorations may be anything.
-/

namespace Shorthand.Template

open Markup

variable {policy : Policy}

/-- The names of the elements that a row of items describes, each in front of those inside it.
A splice is no element. -/
def Forest.elementNames (policy : Policy) : Forest → List Text
  | .nil => []
  | .leaf segment hasHole next =>
    if hasHole && isSplice segment .hole then next.elementNames policy
    else segment.namesAround policy [] ++ next.elementNames policy
  | .group segment children next =>
    segment.namesAround policy (children.elementNames policy) ++ next.elementNames policy

/-- The names of the elements in the content of an item. -/
def Content.elementNames (policy : Policy) : Content → List Text
  | .group children => children.elementNames policy
  | _ => []

/-- An item describes its element around those in its content, unless it is a splice. -/
theorem Forest.elementNames_item (segment : Segment) (content : Content) (next : Forest) :
    (Forest.item segment content next).elementNames policy =
      (if isSplice segment content then content.elementNames policy
        else segment.namesAround policy (content.elementNames policy)) ++
          next.elementNames policy := by
  cases content with
  | empty =>
    have hsplice : isSplice segment .empty = false := by simp [isSplice]
    rw [hsplice]
    rfl
  | hole =>
    cases hsplice : isSplice segment .hole <;>
      simp [Forest.item, elementNames, Content.elementNames, hsplice]
  | group children =>
    have hsplice : isSplice segment (.group children) = false := by simp [isSplice]
    rw [hsplice]
    rfl

/-! ### Attributes -/

private theorem named_of_fillDecoration {collected collected' : Contributions} {d : Decoration}
    {arguments rest : List Value} (h : collected.Named) (hd : isName d.attributeName = true)
    (hfill : fillDecoration collected d arguments = some (collected', rest)) :
    collected'.Named := by
  cases hhole : d.isPlaceholder with
  | false =>
    rw [fillDecoration_of_not_isPlaceholder collected hhole] at hfill
    obtain ⟨rfl, -⟩ := Prod.mk.inj (Option.some.inj hfill)
    exact Contributions.named_add h hd
  | true =>
    rw [fillDecoration_of_isPlaceholder collected hhole] at hfill
    obtain ⟨⟨value, others⟩, -, hdone⟩ := Option.bind_eq_some_iff.mp hfill
    obtain ⟨rfl, -⟩ := Prod.mk.inj (Option.some.inj hdone)
    rw [settle]
    split
    · exact Contributions.named_leaveOut h d
    · exact Contributions.named_add h hd

private theorem named_of_fillDecorations {collected collected' : Contributions}
    {ds : List Decoration} {arguments rest : List Value} (h : collected.Named)
    (hds : ∀ d ∈ ds, isName d.attributeName = true)
    (hfill : fillDecorations collected ds arguments = some (collected', rest)) :
    collected'.Named := by
  induction ds generalizing collected arguments with
  | nil =>
    obtain ⟨rfl, -⟩ := Prod.mk.inj (Option.some.inj hfill)
    exact h
  | cons d ds ih =>
    rw [fillDecorations_cons] at hfill
    obtain ⟨⟨middle, others⟩, hd, hothers⟩ := Option.bind_eq_some_iff.mp hfill
    have hmiddle := named_of_fillDecoration h (hds d (List.mem_cons_self ..)) hd
    exact ih hmiddle (fun e he ↦ hds e (List.mem_cons_of_mem _ he)) hothers

/-! ### Items and groups -/

/-- Whether what filling a row writes is read as the elements that the row describes, provided
that the arguments that become content are plain. -/
def Forest.WritesElements (policy : Policy) (forest : Forest) : Prop :=
  Step.Yields IsPlain forest.roles (Reads policy · (forest.elementNames policy))
    (fill policy forest)

/-- The empty row of items writes no elements, as it describes none. -/
theorem Forest.writesElements_nil (policy : Policy) : Forest.nil.WritesElements policy :=
  Step.yields_done (Reads.nil policy)

/-- An item writes the elements that it describes, if the group inside it does and the items
behind it do. -/
theorem Forest.writesElements_item {segment : Segment} {content : Content} {next : Forest}
    (hsegment : segment.Named policy)
    (hinside : ∀ children, content = .group children → children.WritesElements policy)
    (hnext : next.WritesElements policy) :
    (Forest.item segment content next).WritesElements policy := by
  have hdecorations : Step.Yields IsPlain (decorationRoles segment.decorations)
      Attributes.Named (fillDecorations .empty segment.decorations) :=
    fun _ _ _ _ ↦ named_of_fillDecorations Attributes.named_empty hsegment.attributes
  have hcontent : Step.Yields IsPlain content.roles
      (Reads policy · (content.elementNames policy)) (fillContent policy content) := by
    cases content with
    | empty => exact Step.yields_done (Reads.nil policy)
    | hole =>
      have hvalue : ∀ value : Value, IsPlain value.contentText →
          Step.Yields IsPlain [] (Reads policy · []) (Step.done value.contentText) :=
        fun value hplain ↦ Step.yields_done (Reads.of_isPlain hplain)
      exact @Step.Yields.andThen _ _ IsPlain [.content] [] _ _ _ _ Step.takes_takeArgument
        Step.yields_takeArgument hvalue
    | group children => exact hinside children rfl
  refine yields_fill_item hdecorations hcontent hnext ?_
  intro collected inside others hcollected hread hothers
  have hitem : Reads policy (markupAround policy segment content collected inside)
      (if isSplice segment content then content.elementNames policy
        else segment.namesAround policy (content.elementNames policy)) := by
    rw [markupAround]
    split
    · exact hread
    · exact hsegment.reads ((hcollected.map _).map _) hread
  rw [elementNames_item]
  exact hitem.append hothers

namespace Grammar

private theorem exists_inside {item : Item} {children : Forest}
    (h : item.content = .group children) :
    ∃ inside, item.inner = .group inside ∧ inside.forest = children := by
  obtain ⟨run, marks, inner, blanks⟩ := item
  cases inner with
  | nothing => exact nomatch h
  | hole => exact nomatch h
  | group inside => exact ⟨inside, rfl, Content.group.inj h⟩

/-- A well-formed group writes the elements that it describes. -/
theorem Group.WellFormed.writesElements {group : Group} (h : group.WellFormed)
    (hdefault : isName policy.defaultTag = true) : group.forest.WritesElements policy := by
  have hinside : ∀ item : Item, item.WellFormed →
      (∀ inside, item.inner = .group inside → inside.WellFormed →
        inside.forest.WritesElements policy) →
      ∀ children, item.content = .group children → children.WritesElements policy := by
    intro item hwf ih children hchildren
    obtain ⟨inside, hinner, rfl⟩ := exists_inside hchildren
    exact ih inside hinner (hwf.inside hinner)
  induction group with
  | one item ihInside =>
    exact Forest.writesElements_item (h.named hdefault) (hinside item h ihInside)
      (Forest.writesElements_nil policy)
  | more item others ihInside ihOthers =>
    exact Forest.writesElements_item (h.1.named hdefault) (hinside item h.1 ihInside)
      (ihOthers h.2)

end Grammar

/-- A template that can be read writes the elements that its forest describes. -/
theorem writesElements_of_parse {template : Text} {forest : Forest}
    (h : parse template = .ok forest) (hdefault : isName policy.defaultTag = true) :
    forest.WritesElements policy := by
  rcases parse_eq_ok_iff.mp h with ⟨-, rfl⟩ | ⟨group, hgroup, -, rfl⟩
  · exact Forest.writesElements_nil policy
  · exact hgroup.writesElements hdefault

end Shorthand.Template
