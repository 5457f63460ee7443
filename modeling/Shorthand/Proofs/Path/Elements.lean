import Shorthand.Proofs.Markup.Scan

/-!
# Elements of paths

The elements that a path describes can be listed from its segments, where a splice repeats those
of everything inside its group. The main statement says that the markup of a path around content
without angle brackets is read as these elements.
-/

namespace Shorthand

open Markup

variable {policy : Policy} {overrides : Attributes AttributeValue} {content : Text}
  {names : List Text}

namespace Segment

/-- The names of the elements that a segment stands for: of a splice those of what it repeats,
of any other its own around those inside it. -/
def elementNames (policy : Policy) (spliced inside : List Text) (segment : Segment) : List Text :=
  if segment.isSplice policy then spliced else segment.namesAround policy inside

/-- A segment is read as the elements that it stands for. -/
theorem reads_markup {segment : Segment} {spliced : Text} {names' : List Text}
    (h : segment.isSplice policy = false → segment.Named policy) (hoverrides : overrides.Named)
    (hspliced : Reads policy spliced names) (hcontent : Reads policy content names') :
    Reads policy (segment.markup policy overrides spliced content)
      (segment.elementNames policy names names') := by
  rw [markup, elementNames]
  split
  · exact hspliced
  · next hsplice =>
    have hnamed := h (Bool.not_eq_true _ ▸ hsplice)
    have hattributes : (segment.attributes.override overrides).Named :=
      ((Contributions.named_ofDecorations hnamed.attributes).map _).override hoverrides
    exact hnamed.reads hattributes hcontent

end Segment

namespace Path

/-- The names of the elements of a group around those of its content. -/
def groupNames (policy : Policy) (inner : List Text) : List Segment → List Text
  | [] => []
  | [last] => last.elementNames policy inner inner
  | segment :: rest =>
    segment.elementNames policy inner [] ++ groupNames policy inner rest

/-- The names of the elements that a path describes. -/
def elementNames (policy : Policy) (path : Path) : List Text :=
  path.groups.foldr (fun group inner ↦ groupNames policy inner group) []

/-- A group is read as its elements around what its content is read as. -/
theorem reads_groupMarkup {group : List Segment}
    (h : ∀ segment ∈ group, segment.isSplice policy = false → segment.Named policy)
    (hoverrides : overrides.Named) (hcontent : Reads policy content names) :
    Reads policy (groupMarkup policy overrides content group) (groupNames policy names group) := by
  induction group with
  | nil => exact Reads.nil policy
  | cons segment rest ih =>
    have hsegment := h segment (List.mem_cons_self ..)
    have hothers := ih fun other hother ↦ h other (List.mem_cons_of_mem _ hother)
    cases rest with
    | nil => exact Segment.reads_markup hsegment hoverrides hcontent hcontent
    | cons next rest =>
      exact (Segment.reads_markup hsegment Attributes.named_empty hcontent
        (Reads.nil policy)).append hothers

/-- Groups inside each other are read as their elements around what the content is read as. -/
theorem reads_nestMarkup {groups : List (List Segment)}
    (h : ∀ group ∈ groups, ∀ segment ∈ group,
      segment.isSplice policy = false → segment.Named policy)
    (hcontent : IsPlain content) :
    Reads policy (nestMarkup policy content groups) (elementNames policy ⟨groups⟩) := by
  induction groups with
  | nil => exact Reads.of_isPlain hcontent
  | cons group groups ih =>
    exact reads_groupMarkup (h group (List.mem_cons_self ..)) Attributes.named_empty
      (ih fun other hother ↦ h other (List.mem_cons_of_mem _ hother))

/-- The markup of a path around plain content is read as the elements that the path describes. -/
theorem reads_markup {path : Path}
    (h : ∀ group ∈ path.groups, ∀ segment ∈ group,
      segment.isSplice policy = false → segment.Named policy)
    (hoverrides : overrides.Named) (hcontent : IsPlain content) :
    Reads policy (markup policy overrides content path) (path.elementNames policy) := by
  obtain ⟨groups⟩ := path
  cases groups with
  | nil => exact Reads.nil policy
  | cons outermost inner =>
    exact reads_groupMarkup (h outermost (List.mem_cons_self ..)) hoverrides
      (reads_nestMarkup (fun other hother ↦ h other (List.mem_cons_of_mem _ hother)) hcontent)

/-- Every segment of a path that can be read is a splice, or it describes an element that can be
written. -/
theorem named_of_read {text : Text} {path : Path} (h : read text = .ok path)
    (hdefault : isName policy.defaultTag = true) :
    ∀ group ∈ path.groups, ∀ segment ∈ group,
      segment.isSplice policy = false → segment.Named policy := by
  obtain ⟨hreadable, rfl⟩ := read_eq_ok_iff.mp h
  simp only [ofText, List.forall_mem_map]
  exact fun raws hraws raw hraw ↦ (hreadable raws hraws raw hraw).named hdefault

end Path
end Shorthand
