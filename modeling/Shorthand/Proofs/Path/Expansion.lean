import Shorthand.Path.Markup
import Shorthand.Proofs.Path.Cutting
import Shorthand.Proofs.Segment.Language

/-!
# What paths expand to

A path is read from the texts of its parts alone: where they stand shows in faults only. The main
statement says that a path expands exactly if each of these texts can be read as a segment, and
gives the markup.
-/

namespace Shorthand.Path

/-- Whether every part of a path can be read as a segment. -/
def Readable (path : Text) : Prop :=
  ∀ group ∈ texts path, ∀ raw ∈ group, Segment.Readable raw

/-- The groups of segments that the texts of the parts of a path mean. -/
def ofText (path : Text) : Path := ⟨(texts path).map (·.map Segment.ofText)⟩

variable {path : Text}

private theorem readGroup_eq_ok_iff {group : List Part} {segments : List Segment} :
    readGroup path group = .ok segments ↔
      (∀ part ∈ group, Segment.Readable part.text) ∧
        segments = group.map fun part ↦ Segment.ofText part.text := by
  induction group generalizing segments with
  | nil => simp [readGroup, eq_comm]
  | cons part group ih =>
    rw [readGroup, bind_eq_ok_iff]
    simp only [bind_eq_ok_iff, Segment.read_eq_ok_iff, ih, List.forall_mem_cons, List.map_cons]
    constructor
    · rintro ⟨segment, ⟨hpart, rfl⟩, others, ⟨hothers, rfl⟩, h⟩
      exact ⟨⟨hpart, hothers⟩, (Except.ok.inj h).symm⟩
    · rintro ⟨⟨hpart, hothers⟩, rfl⟩
      exact ⟨_, ⟨hpart, rfl⟩, _, ⟨hothers, rfl⟩, rfl⟩

/-- Groups are read as what their parts mean, if each of them can be read. -/
theorem readGroups_eq_ok_iff {groups : List (List Part)}
    {segments : List (List Segment)} :
    readGroups path groups = .ok segments ↔
      (∀ group ∈ groups, ∀ part ∈ group, Segment.Readable part.text) ∧
        segments = groups.map (·.map fun part ↦ Segment.ofText part.text) := by
  induction groups generalizing segments with
  | nil => simp [readGroups, eq_comm]
  | cons group groups ih =>
    rw [readGroups, bind_eq_ok_iff]
    simp only [bind_eq_ok_iff, readGroup_eq_ok_iff, ih, List.forall_mem_cons, List.map_cons]
    constructor
    · rintro ⟨inner, ⟨hinner, rfl⟩, outer, ⟨houter, rfl⟩, h⟩
      exact ⟨⟨houter, hinner⟩, (Except.ok.inj h).symm⟩
    · rintro ⟨⟨houter, hinner⟩, rfl⟩
      exact ⟨_, ⟨hinner, rfl⟩, _, ⟨houter, rfl⟩, rfl⟩

/-- A path is read as what the texts of its parts mean, if each of them can be read. -/
theorem read_eq_ok_iff {result : Path} :
    read path = .ok result ↔ Readable path ∧ result = ofText path := by
  have hreadable : Readable path ↔
      ∀ group ∈ parts path, ∀ part ∈ group, Segment.Readable part.text := by
    rw [Readable, ← map_text_parts]
    simp only [List.forall_mem_map]
  have hofText : ofText path =
      ⟨(parts path).map (·.map fun part ↦ Segment.ofText part.text)⟩ := by
    rw [ofText, ← map_text_parts, List.map_map]
    simp only [Function.comp_def, List.map_map]
  rw [hreadable, hofText, read, bind_eq_ok_iff]
  constructor
  · rintro ⟨groups, hgroups, h⟩
    obtain ⟨hread, rfl⟩ := readGroups_eq_ok_iff.mp hgroups
    exact ⟨hread, (Except.ok.inj h).symm⟩
  · rintro ⟨hread, rfl⟩
    exact ⟨_, readGroups_eq_ok_iff.mpr ⟨hread, rfl⟩, rfl⟩

/-- A path expands to the markup of what the texts of its parts mean, if each of them can be
read. -/
theorem expand_eq_ok_iff {policy : Policy} {content : Value}
    {overrides : Attributes AttributeValue} {result : Text} :
    expand policy path content overrides = .ok result ↔
      Readable path ∧ result = markup policy overrides content.contentText (ofText path) := by
  rw [expand]
  constructor
  · intro h
    cases hread : read path with
    | error fault =>
      rw [hread] at h
      exact absurd h nofun
    | ok found =>
      rw [hread] at h
      obtain ⟨hreadable, rfl⟩ := read_eq_ok_iff.mp hread
      exact ⟨hreadable, (Except.ok.inj h).symm⟩
  · rintro ⟨hreadable, rfl⟩
    rw [read_eq_ok_iff.mpr ⟨hreadable, rfl⟩]
    rfl

/-- Whether a path expands depends on the path alone. -/
theorem exists_expand_iff {policy : Policy} {content : Value}
    {overrides : Attributes AttributeValue} :
    (∃ result, expand policy path content overrides = .ok result) ↔ Readable path := by
  constructor
  · rintro ⟨result, h⟩
    exact (expand_eq_ok_iff.mp h).1
  · intro h
    exact ⟨_, expand_eq_ok_iff.mpr ⟨h, rfl⟩⟩

end Shorthand.Path
