import Shorthand.Proofs.Markup.Gaps
import Shorthand.Proofs.Path.Expansion

/-!
# Copies of the content

Every group of a path writes what is inside it once for each of its splices, and once more if it
ends in an element that has content. The main statement says that the content of a path is written
as it stands, as often as the groups make of it together, between fragments that depend on the
path, the overrides and the policy alone.
-/

namespace Shorthand

open Markup

variable {policy : Policy} {overrides : Attributes AttributeValue} {content : Text}

namespace Segment

/-- Whether a segment stands for an element that has content: it is no splice, and the element is
not void. -/
def holdsContent (policy : Policy) (segment : Segment) : Bool :=
  !segment.isSplice policy &&
    !policy.isVoid (policy.elementName (segment.tag policy.defaultTag))

/-- The markup of a segment with a gap in place of what a splice repeats. -/
def gapped (policy : Policy) (overrides : Attributes AttributeValue) (inside : Gapped)
    (segment : Segment) : Gapped :=
  if segment.isSplice policy then .gap
  else .element policy (segment.tag policy.defaultTag) (segment.attributes.override overrides)
    inside

/-- The gaps of a segment are filled with what it repeats or holds. -/
theorem fillAll_gapped (segment : Segment) (inside : Gapped) :
    (segment.gapped policy overrides inside).fillAll content =
      segment.markup policy overrides content (inside.fillAll content) := by
  rw [gapped, markup]
  split
  · exact Gapped.fillAll_gap
  · exact Gapped.fillAll_element ..

/-- A splice is a gap, and an element has those of what is in it if it has content. -/
theorem gaps_gapped (segment : Segment) (inside : Gapped) :
    (segment.gapped policy overrides inside).gaps =
      (if segment.isSplice policy then 1 else 0) +
        if segment.holdsContent policy then inside.gaps else 0 := by
  rw [gapped, holdsContent]
  cases segment.isSplice policy with
  | true => rfl
  | false =>
    rw [if_neg Bool.false_ne_true, if_neg Bool.false_ne_true, Gapped.gaps_element, Nat.zero_add]
    cases policy.isVoid (policy.elementName (segment.tag policy.defaultTag)) <;> rfl

end Segment

namespace Path

/-- How often a group writes what is inside it: once for each of its splices, and once if it ends in
an element that has content. -/
def copies (policy : Policy) (group : List Segment) : Nat :=
  group.countP (·.isSplice policy) + if group.getLast?.any (·.holdsContent policy) then 1 else 0

/-- How often groups inside each other write what is inside the innermost one: the copies that each
of them writes multiply. -/
def nestCopies (policy : Policy) (groups : List (List Segment)) : Nat :=
  groups.foldr (fun group inner ↦ copies policy group * inner) 1

/-- The markup of a group with gaps in place of what is inside it. -/
def gappedGroup (policy : Policy) (overrides : Attributes AttributeValue) : List Segment → Gapped
  | [] => []
  | [last] => last.gapped policy overrides .gap
  | segment :: rest => segment.gapped policy .empty [] ++ gappedGroup policy overrides rest

/-- The gaps of a group are filled with its content. -/
theorem fillAll_gappedGroup (group : List Segment) :
    (gappedGroup policy overrides group).fillAll content =
      groupMarkup policy overrides content group := by
  induction group with
  | nil => rfl
  | cons segment rest ih =>
    cases rest with
    | nil => exact (segment.fillAll_gapped .gap).trans (by rw [Gapped.fillAll_gap]; rfl)
    | cons next rest =>
      have hgroup : gappedGroup policy overrides (segment :: next :: rest) =
          segment.gapped policy .empty [] ++ gappedGroup policy overrides (next :: rest) := rfl
      rw [hgroup, Gapped.fillAll_append, ih, Segment.fillAll_gapped]
      rfl

/-- A group has as many gaps as it writes copies. -/
theorem gaps_gappedGroup (group : List Segment) :
    (gappedGroup policy overrides group).gaps = copies policy group := by
  induction group with
  | nil => rfl
  | cons segment rest ih =>
    cases rest with
    | nil =>
      rw [gappedGroup, Segment.gaps_gapped, copies, List.countP_singleton]
      rfl
    | cons next rest =>
      have hgroup : gappedGroup policy overrides (segment :: next :: rest) =
          segment.gapped policy .empty [] ++ gappedGroup policy overrides (next :: rest) := rfl
      rw [hgroup, Gapped.gaps_append, Segment.gaps_gapped, ih, copies, copies,
        List.countP_cons (l := next :: rest), List.getLast?_cons_cons]
      simp only [Gapped.gaps_nil, ite_self]
      omega

/-- The markup of groups inside each other with gaps in place of the content. -/
def gappedNest (policy : Policy) (groups : List (List Segment)) : Gapped :=
  groups.foldr (fun group inner ↦ (gappedGroup policy .empty group).plug inner) .gap

/-- The gaps of groups inside each other are filled with the content. -/
theorem fillAll_gappedNest (groups : List (List Segment)) :
    (gappedNest policy groups).fillAll content = nestMarkup policy content groups := by
  induction groups with
  | nil => exact Gapped.fillAll_gap
  | cons group groups ih =>
    have hinside : (gappedNest policy (group :: groups)).fillAll content =
        (gappedGroup policy .empty group).fillAll ((gappedNest policy groups).fillAll content) :=
      Gapped.fillAll_plug ..
    rw [hinside, ih, fillAll_gappedGroup]
    rfl

/-- The copies that groups inside each other write multiply. -/
theorem gaps_gappedNest (groups : List (List Segment)) :
    (gappedNest policy groups).gaps = nestCopies policy groups := by
  induction groups with
  | nil => rfl
  | cons group groups ih =>
    have hinside : (gappedNest policy (group :: groups)).gaps =
        (gappedGroup policy .empty group).gaps * (gappedNest policy groups).gaps :=
      Gapped.gaps_plug ..
    rw [hinside, ih, gaps_gappedGroup]
    rfl

/-- A path that has a group writes its content as often as its groups make of it together. -/
theorem exists_gapped (policy : Policy) (overrides : Attributes AttributeValue)
    {groups : List (List Segment)} (h : groups ≠ []) :
    ∃ g : Gapped, g.gaps = nestCopies policy groups ∧
      ∀ content, g.fillAll content = markup policy overrides content ⟨groups⟩ := by
  obtain ⟨outermost, inner, rfl⟩ := List.exists_cons_of_ne_nil h
  refine ⟨(gappedGroup policy overrides outermost).plug (gappedNest policy inner), ?_, ?_⟩
  · rw [Gapped.gaps_plug, gaps_gappedGroup, gaps_gappedNest]
    rfl
  · intro content
    rw [Gapped.fillAll_plug, fillAll_gappedNest, fillAll_gappedGroup]
    rfl

/-- The content of a path that expands and has a part is written as it stands, as often as the
product of what each of the groups writes, between fragments that do not depend on it. -/
theorem expand_eq_weave_copies (policy : Policy) (overrides : Attributes AttributeValue)
    {path result : Text} {sample : Value}
    (hexpand : expand policy path sample overrides = .ok result) (hgroups : texts path ≠ []) :
    ∃ groups, read path = .ok ⟨groups⟩ ∧
      ∃ fragments : List Text, fragments.length = nestCopies policy groups + 1 ∧
        ∀ content : Value, expand policy path content overrides =
          .ok (weave fragments
            (List.replicate (nestCopies policy groups) content.contentText)) := by
  obtain ⟨hreadable, -⟩ := expand_eq_ok_iff.mp hexpand
  have hread : read path = .ok (ofText path) := read_eq_ok_iff.mpr ⟨hreadable, rfl⟩
  have hne : (ofText path).groups ≠ [] := fun hnil ↦ hgroups (List.map_eq_nil_iff.mp hnil)
  obtain ⟨g, hgaps, hfill⟩ := exists_gapped policy overrides hne
  refine ⟨(ofText path).groups, hread, g.fragments, ?_, fun content ↦ ?_⟩
  · rw [Gapped.length_fragments, hgaps]
  · rw [← hgaps, ← Gapped.fillAll_eq_weave, hfill]
    exact expand_eq_ok_iff.mpr ⟨hreadable, rfl⟩

/-- A splice beside an element doubles the content, which a void element in front of another splice
and an empty element in front of the innermost one leave as it is. -/
theorem expand_eq_weave_copies_doubled :
    expand .standard "%+b/br+%/i+p".toList (.text "x".toList) .empty =
        .ok "<br><i></i><p>x</p><b><br><i></i><p>x</p></b>".toList ∧
      texts "%+b/br+%/i+p".toList ≠ [] ∧
      ∃ fragments : List Text, fragments.length = 3 ∧
        ∀ content : Value, expand .standard "%+b/br+%/i+p".toList content .empty =
          .ok (weave fragments [content.contentText, content.contentText]) := by
  have hexpand : expand .standard "%+b/br+%/i+p".toList (.text "x".toList) .empty =
      .ok "<br><i></i><p>x</p><b><br><i></i><p>x</p></b>".toList :=
    eq_ok_of_toOption (by decide +kernel)
  have hgroups : texts "%+b/br+%/i+p".toList ≠ [] := by decide +kernel
  obtain ⟨groups, hread, fragments, hlength, hfragments⟩ :=
    expand_eq_weave_copies .standard .empty hexpand hgroups
  have hcopies : (read "%+b/br+%/i+p".toList).toOption.map
      (fun path ↦ nestCopies .standard path.groups) = some 2 := by
    decide +kernel
  rw [hread] at hcopies
  have htwo : nestCopies .standard groups = 2 := Option.some.inj hcopies
  rw [htwo] at hlength hfragments
  exact ⟨hexpand, hgroups, fragments, hlength, hfragments⟩

end Path
end Shorthand
