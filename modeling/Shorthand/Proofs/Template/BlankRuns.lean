import Shorthand.Proofs.Attributes.Padding
import Shorthand.Proofs.Template.Deletion

/-!
# Blank runs in templates

A marker with nothing but spaces behind it makes an empty contribution to its attribute. The main
statement says when the template without the marker and the spaces expands to the same markup: the
attribute is set without them as well, or is the class, and it has its place by its rank, or the
attributes are set in the same order.
-/

namespace Shorthand.Template

open Text
open Contributions (Padded)

variable {name : Text} {padded collected : Contributions}

/-- Collections that are alike take in a decoration with the same arguments, and stay alike. -/
theorem padded_fillDecoration (h : Padded name padded collected) {d : Decoration}
    {arguments rest : List Value} {next : Contributions}
    (hfill : fillDecoration padded d arguments = some (next, rest)) :
    ∃ next', fillDecoration collected d arguments = some (next', rest) ∧
      Padded name next next' := by
  cases hplaceholder : d.isPlaceholder with
  | false =>
    rw [fillDecoration_of_not_isPlaceholder padded hplaceholder] at hfill
    obtain ⟨rfl, rfl⟩ : padded.add d = next ∧ arguments = rest := by simpa [Step.done] using hfill
    rw [fillDecoration_of_not_isPlaceholder collected hplaceholder]
    exact ⟨_, rfl, h.add d⟩
  | true =>
    cases arguments with
    | nil => exact absurd hfill (by simp [fillDecoration, hplaceholder, takeArgument])
    | cons value arguments =>
      have htake : ∀ collected, fillDecoration collected d (value :: arguments) =
          some (settle collected d value, arguments) := fun collected ↦ by
        rw [fillDecoration_of_isPlaceholder collected hplaceholder]
        rfl
      rw [htake] at hfill
      obtain ⟨rfl, rfl⟩ : settle padded d value = next ∧ arguments = rest := by simpa using hfill
      refine ⟨_, htake collected, ?_⟩
      rw [settle, settle]
      split
      · exact h.leaveOut d
      · exact h.add _

/-- Collections that are alike take in decorations with the same arguments, and stay alike. -/
theorem padded_fillDecorations (h : Padded name padded collected) {ds : List Decoration}
    {arguments rest : List Value} {last : Contributions}
    (hfill : fillDecorations padded ds arguments = some (last, rest)) :
    ∃ last', fillDecorations collected ds arguments = some (last', rest) ∧
      Padded name last last' := by
  induction ds generalizing padded collected arguments with
  | nil =>
    obtain ⟨rfl, rfl⟩ : padded = last ∧ arguments = rest := by simpa [fillDecorations] using hfill
    exact ⟨_, rfl, h⟩
  | cons d ds ih =>
    rw [fillDecorations_cons, Step.andThen, Option.bind_eq_some_iff] at hfill
    obtain ⟨⟨next, others⟩, hnext, hlast⟩ := hfill
    obtain ⟨next', hnext', hpadded⟩ := padded_fillDecoration h hnext
    obtain ⟨last', hlast', hlastPadded⟩ := ih hpadded hlast
    refine ⟨last', ?_, hlastPadded⟩
    rw [fillDecorations_cons, Step.andThen, hnext', Option.bind_some, hlast']

/-- Decorations collect alike with an empty contribution among them and without. -/
theorem exists_padded {earlier later : List Decoration} {d : Decoration} {used : List Value}
    (hcollects : d.target.collects = true) (hempty : d.contribution = [])
    (hplaceholder : d.isPlaceholder = false)
    (hused : used.length = decorationHoles (earlier ++ later)) :
    ∃ padded collected, Padded d.attributeName padded collected ∧
      (∀ behind, fillDecorations .empty (earlier ++ d :: later) (used ++ behind) =
        some (padded, behind)) ∧
      ∀ behind, fillDecorations .empty (earlier ++ later) (used ++ behind) =
        some (collected, behind) := by
  have hholes : used.length = decorationHoles (earlier ++ d :: later) := by
    rw [hused, decorationHoles, decorationHoles, List.countP_append, List.countP_append,
      List.countP_cons, hplaceholder]
    rfl
  obtain ⟨padded, hpadded⟩ := (takes_fillDecorations .empty _).1 used hholes
  obtain ⟨collected, hcollected⟩ := (takes_fillDecorations .empty _).1 used hused
  refine ⟨padded, collected, ?_, hpadded, hcollected⟩
  -- Both collect the same up to the empty contribution.
  have hwith := hpadded []
  rw [fillDecorations_append, Step.andThen, Option.bind_eq_some_iff] at hwith
  obtain ⟨⟨kept, others⟩, hkept, hwith⟩ := hwith
  have hwithout := hcollected []
  rw [fillDecorations_append, Step.andThen, hkept, Option.bind_some] at hwithout
  rw [fillDecorations_cons, fillDecoration_of_not_isPlaceholder kept hplaceholder] at hwith
  obtain ⟨last', hlast', hlike⟩ :=
    padded_fillDecorations (Contributions.padded_add hcollects hempty) hwith
  rw [hwithout] at hlast'
  obtain ⟨rfl⟩ : collected = last' := by simpa using hlast'
  exact hlike

/-- An item has the same markup with what is collected with and without an empty contribution, where
markup does not tell the two apart. -/
theorem itemMarkup_padded (policy : Policy) (segment : Segment)
    (h : Padded name padded collected)
    (hset : name ∈ padded.names → name ∈ collected.names ∨ name = className)
    (hplace : name ∈ policy.attributeOrder ∨ padded.names = collected.names ∨
      name ∉ collected.names) (inside : Text) :
    itemMarkup policy segment padded inside = itemMarkup policy segment collected inside := by
  have hattributes : policy.attributeText (padded.joined.map .ofText) =
      policy.attributeText (collected.joined.map .ofText) := h.attributeText_eq hset hplace
  rw [itemMarkup, itemMarkup, Element.markup, Element.markup, Policy.openTag, Policy.openTag,
    hattributes]

namespace Grammar

variable {spot : Spot}

namespace Spot

/-- What the decorations of an item collect with some arguments for the template. -/
def collected? (spot : Spot) (arguments : List Value) : Option Contributions :=
  collect? spot.item.segment.decorations (arguments.drop (Outline.holes spot.place.before))

/-- What the decorations of an item collect without one of them. -/
def others? (spot : Spot) (arguments : List Value) : Option Contributions :=
  collect? ((spot.earlier ++ spot.later).map Mark.decoration)
    (arguments.drop (Outline.holes spot.place.before))

private theorem expand_of_few (policy : Policy) {arguments : List Value}
    (hwf : spot.group.WellFormed) (htag : spot.item.tag? ≠ none)
    (hfew : arguments.length < Outline.holes spot.place.before +
      decorationHoles ((spot.earlier ++ spot.later).map Mark.decoration)) :
    (∃ forest, parse (Outline.text (spot.front ++ spot.back)) = .ok forest) ∧
      (expand policy spot.group.text arguments).toOption = none ∧
      (expand policy (Outline.text (spot.front ++ spot.back)) arguments).toOption = none := by
  obtain ⟨item, hwf', houtline, -⟩ := spot.exists_deleted hwf htag
  have hholes : arguments.length < Outline.holes spot.front + Outline.holes spot.back := by
    have hback := spot.le_holes_back hwf
    rw [List.map_append, decorationHoles, List.countP_append] at hfew
    rw [spot.holes_front hwf]
    rw [decorationHoles] at hback ⊢
    omega
  rw [← houtline, Group.text_outline]
  refine ⟨⟨_, parse_text hwf'⟩, hwf.toOption_expand_eq_none policy ?_,
    hwf'.toOption_expand_eq_none policy ?_⟩
  · rw [spot.outline_group, Outline.holes_append, Outline.holes_append]
    omega
  · rw [houtline, Outline.holes_append]
    exact hholes

private theorem exists_alike {arguments : List Value}
    (hcollects : spot.mark.decoration.target.collects = true)
    (hempty : spot.mark.decoration.contribution = [])
    (hplaceholder : spot.mark.decoration.isPlaceholder = false)
    (henough : Outline.holes spot.place.before +
      decorationHoles ((spot.earlier ++ spot.later).map Mark.decoration) ≤ arguments.length) :
    ∃ before used behind padded collected,
      arguments = before ++ (used ++ behind) ∧ before.length = Outline.holes spot.place.before ∧
      Padded spot.mark.decoration.attributeName padded collected ∧
      spot.collected? arguments = some padded ∧ spot.others? arguments = some collected ∧
      (∀ behind, fillDecorations .empty spot.item.segment.decorations (used ++ behind) =
        some (padded, behind)) ∧
      ∀ behind, fillDecorations .empty ((spot.earlier ++ spot.later).map Mark.decoration)
        (used ++ behind) = some (collected, behind) := by
  obtain ⟨before, others, rfl, hbefore⟩ := Step.exists_front (Nat.le_of_add_right_le henough)
  rw [List.length_append, hbefore] at henough
  obtain ⟨used, behind, rfl, hused⟩ := Step.exists_front (Nat.le_of_add_le_add_left henough)
  have hdecorations : spot.item.segment.decorations = spot.earlier.map Mark.decoration ++
      spot.mark.decoration :: spot.later.map Mark.decoration := List.map_append
  rw [collected?, others?, ← hbefore, List.drop_left, hdecorations]
  rw [List.map_append] at hused ⊢
  obtain ⟨padded, collected, hlike, hpadded, hcollected⟩ :=
    exists_padded hcollects hempty hplaceholder hused
  refine ⟨before, used, behind, padded, collected, rfl, rfl, hlike, ?_, ?_, hpadded, hcollected⟩
  · rw [collect?, hpadded]
    rfl
  · rw [collect?, hcollected]
    rfl

end Spot

/-- A template without a marker with spaces behind it can be read, and expands to the same markup as
with them for all arguments, unless an id is set by the marker alone or the place of an attribute
without rank depends on it. -/
theorem expand_blankRun_deleted (policy : Policy) {template : Text} {arguments : List Value}
    {marker : Marker} {spaces : Text} (hspaces : ∀ c ∈ spaces, c = ' ')
    (hderives : spot.group.Derives template) (htag : spot.item.tag? ≠ none)
    (hmark : spot.mark = .run marker spaces)
    (hset : marker = .dot ∨ ∀ padded ∈ spot.collected? arguments,
      ∀ collected ∈ spot.others? arguments, idName ∈ padded.names → idName ∈ collected.names)
    (hplace : marker.target.attributeName ∈ policy.attributeOrder ∨
      ∀ padded ∈ spot.collected? arguments, ∀ collected ∈ spot.others? arguments,
        padded.names = collected.names ∨ marker.target.attributeName ∉ collected.names) :
    (∃ forest, parse (Outline.text (spot.front ++ spot.back)) = .ok forest) ∧
      (expand policy template arguments).toOption =
        (expand policy (Outline.text (spot.front ++ spot.back)) arguments).toOption := by
  by_cases hfew : arguments.length < Outline.holes spot.place.before +
      decorationHoles ((spot.earlier ++ spot.later).map Mark.decoration)
  · obtain ⟨hwf, rfl⟩ := hderives
    obtain ⟨hparse, hnone, hnone'⟩ := spot.expand_of_few policy hwf htag hfew
    exact ⟨hparse, hnone.trans hnone'.symm⟩
  have hdecoration : spot.mark.decoration = ⟨marker.target, some [], false⟩ := by
    rw [hmark, Mark.decoration, trim_of_spaces hspaces]
  have hcollects : spot.mark.decoration.target.collects = true := by
    rw [hdecoration]
    cases marker <;> rfl
  have hname : spot.mark.decoration.attributeName = marker.target.attributeName := by
    rw [hdecoration]
    rfl
  obtain ⟨before, used, behind, padded, collected, harguments, hbefore, hlike, hsome, hsome',
      hpadded, hcollected⟩ :=
    spot.exists_alike hcollects (by rw [hdecoration]; rfl) (by rw [hdecoration])
      (Nat.le_of_not_lt hfew)
  rw [hname] at hlike
  have hset : marker.target.attributeName ∈ padded.names →
      marker.target.attributeName ∈ collected.names ∨
        marker.target.attributeName = className := by
    intro hmem
    cases marker with
    | hash => exact .inl ((hset.resolve_left (by decide)) _ hsome _ hsome' hmem)
    | dot => exact .inr rfl
  have hmarkup := itemMarkup_padded policy spot.item.segment hlike hset
    (hplace.imp id fun h ↦ h _ hsome _ hsome')
  rw [harguments]
  exact spot.expand_deleted policy hderives htag hbefore hpadded hcollected hmarkup behind

end Grammar
end Shorthand.Template
