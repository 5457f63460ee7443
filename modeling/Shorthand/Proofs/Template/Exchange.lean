import Shorthand.Proofs.Template.Place

/-!
# Exchanging items

Two steps of filling may make the same of different arguments. The main statements say that an item
which is exchanged for another one changes the markup of the whole template no more than its own,
and that the items count as the same if their decorations come to the same attributes.
-/

namespace Shorthand.Template

variable {R : List Value → List Value → Prop} {policy : Policy}

/-- What decorations collect with the first of some arguments, if these suffice. -/
def collect? (ds : List Decoration) (arguments : List Value) : Option Contributions :=
  (fillDecorations .empty ds arguments).map Prod.fst

/-- With exactly the arguments that they ask for, decorations collect the same as with more. -/
theorem exists_collect? {ds : List Decoration} {arguments : List Value}
    (h : arguments.length = decorationHoles ds) :
    ∃ collected, ∀ behind,
      fillDecorations .empty ds (arguments ++ behind) = some (collected, behind) ∧
        collect? ds (arguments ++ behind) = some collected := by
  obtain ⟨collected, hcollected⟩ := (takes_fillDecorations .empty ds).1 arguments h
  refine ⟨collected, fun behind ↦ ⟨hcollected behind, ?_⟩⟩
  rw [collect?, hcollected]
  rfl

/-- Items with the same content may be exchanged if neither is a splice, their decorations take the
arguments that are related, and their elements are then written in the same way. -/
theorem exchanges_item {segment segment' : Segment} {content : Content}
    (hsplice : isSplice segment content = false) (hsplice' : isSplice segment' content = false)
    (h : ∀ here here', R here here' → ∃ collected collected',
      (∀ behind, fillDecorations .empty segment.decorations (here ++ behind) =
        some (collected, behind)) ∧
      (∀ behind, fillDecorations .empty segment'.decorations (here' ++ behind) =
        some (collected', behind)) ∧
      ∀ inside, itemMarkup policy segment collected inside =
        itemMarkup policy segment' collected' inside) (next : Forest) :
    Step.Exchanges R 0 (fill policy (.item segment content next))
      (fill policy (.item segment' content next)) := by
  intro before here here' behind hbefore hR
  obtain rfl : before = [] := List.length_eq_zero_iff.mp hbefore
  obtain ⟨collected, collected', hfill, hfill', hmarkup⟩ := h here here' hR
  have haround : markupAround policy segment content collected =
      markupAround policy segment' content collected' := by
    funext inside
    rw [markupAround, markupAround, hsplice, hsplice', if_neg Bool.false_ne_true,
      if_neg Bool.false_ne_true, hmarkup]
  rw [fill_item, fill_item, List.nil_append, List.nil_append, Step.andThen, Step.andThen, hfill,
    hfill', Option.bind_some, Option.bind_some, haround]

namespace Grammar

/-- Items that may be exchanged may be so wherever they are put; the placeholders in front of the
place come first. -/
theorem Place.exchanges_plug {n : Nat} {place : Place} {item item' : Item}
    (hwf : (place.plug item).WellFormed)
    (h : ∀ next, Step.Exchanges R n (fill policy (.item item.segment item.content next))
      (fill policy (.item item'.segment item'.content next))) :
    Step.Exchanges R (Outline.holes place.before + n) (fill policy (place.plug item).forest)
      (fill policy (place.plug item').forest) := by
  induction place generalizing item item' n with
  | alone =>
    rw [Place.before, Outline.holes_nil, Nat.zero_add]
    exact h .nil
  | first others =>
    rw [Place.before, Outline.holes_nil, Nat.zero_add]
    exact h others.forest
  | behind earlier place ih =>
    obtain ⟨hearlier, hothers⟩ := hwf
    rw [Place.holes_before_behind hearlier, Nat.add_assoc, Nat.add_assoc, Place.plug, Place.plug,
      Group.forest, Group.forest, fill_item, fill_item]
    exact (takes_fillDecorations _ _).exchanges fun collected ↦
      (takes_fillContent policy _).exchanges fun inside ↦ (ih hothers h).andThen _
  | inside run marks blanks place host ih ihHost =>
    have hgroup : (host.plug ⟨run, marks, .group (place.plug item), blanks⟩).WellFormed := hwf
    obtain ⟨hfit, hinside, -, -⟩ := Place.wellFormed_of_plug hgroup
    rw [Place.holes_before_inside hfit, Nat.add_assoc, Nat.add_assoc]
    apply ihHost hgroup
    intro next
    have haround : ∀ (inside : Group) (collected : Contributions) (markup : Text),
        markupAround policy (Item.segment ⟨run, marks, .group inside, blanks⟩)
          (Item.content ⟨run, marks, .group inside, blanks⟩) collected markup =
        itemMarkup policy ⟨[], Item.tag? ⟨run, marks, .nothing, blanks⟩,
          marks.map Mark.decoration⟩ collected markup := by
      intro inside collected markup
      rw [markupAround, if_neg]
      · rfl
      · simp [isSplice, Item.content, Inner.content]
    rw [fill_item, fill_item]
    simp only [haround]
    exact (takes_fillDecorations _ _).exchanges fun collected ↦ (ih hinside h).andThen _

end Grammar
end Shorthand.Template
