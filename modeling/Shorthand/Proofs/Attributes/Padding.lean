import Mathlib.Data.List.Basic
import Shorthand.Proofs.Markup.Order

/-!
# Empty contributions

An empty contribution does not change the value of its attribute, but it sets the attribute if
nothing else does, and in its own place. What is collected with and without an empty contribution
stays alike whatever is taken in or left out afterwards; the main statement says when the markup of
an element does not tell the two apart.
-/

namespace Shorthand

namespace Contributions

variable {name : Text} {padded collected : Contributions} {d : Decoration}

/-- The parts of an attribute that show in its value. -/
def shownParts (collected : Contributions) (name : Text) : List Text :=
  ((collected.get? name).getD []).filter (· ≠ [])

/-- Whether two collections are alike but for empty contributions to one attribute, which the first
may have in addition. -/
structure Padded (name : Text) (padded collected : Contributions) : Prop where
  get? : ∀ other, other ≠ name → padded.get? other = collected.get? other
  names : padded.names.filter (· ≠ name) = collected.names.filter (· ≠ name)
  shownParts : padded.shownParts name = collected.shownParts name
  mem_names : name ∈ collected.names → name ∈ padded.names

private theorem Padded.mem_names_iff {other : Text} (h : Padded name padded collected)
    (hother : other ≠ name) : other ∈ padded.names ↔ other ∈ collected.names := by
  rw [← Attributes.get?_isSome_iff, ← Attributes.get?_isSome_iff, h.get? other hother]

/-- An empty contribution pads what has been collected. -/
theorem padded_add (hcollects : d.target.collects = true) (hempty : d.contribution = []) :
    Padded d.attributeName (collected.add d) collected where
  get? other hother := by rw [add, Attributes.get?_update, if_neg hother]
  names := by
    rw [add, Attributes.names_update]
    split
    · rfl
    · simp
  shownParts := by
    rw [Contributions.shownParts, add, Attributes.get?_update, if_pos rfl, if_pos hcollects, hempty]
    simp [Contributions.shownParts]
  mem_names hmem := by
    rw [add, Attributes.names_update, if_pos hmem]
    exact hmem

/-- Collections stay alike when a decoration is taken in. -/
theorem Padded.add (h : Padded name padded collected) (d : Decoration) :
    Padded name (padded.add d) (collected.add d) where
  get? other hother := by
    rw [Contributions.add, Contributions.add, Attributes.get?_update, Attributes.get?_update,
      h.get? other hother]
    split
    · next heq => rw [← heq, h.get? other hother]
    · rfl
  names := by
    rw [Contributions.add, Contributions.add, Attributes.names_update, Attributes.names_update]
    by_cases hd : d.attributeName = name
    · have hfilter : ∀ names : List Text,
          (if d.attributeName ∈ names then names else names ++ [d.attributeName]).filter
            (· ≠ name) = names.filter (· ≠ name) := by
        intro names
        split
        · rfl
        · simp [hd]
      rw [hfilter, hfilter, h.names]
    · simp only [h.mem_names_iff hd]
      split
      · exact h.names
      · rw [List.filter_append, List.filter_append, h.names]
  shownParts := by
    rw [Contributions.shownParts, Contributions.shownParts, Contributions.add, Contributions.add,
      Attributes.get?_update, Attributes.get?_update]
    by_cases hd : name = d.attributeName
    · subst hd
      have hparts := h.shownParts
      rw [Contributions.shownParts, Contributions.shownParts] at hparts
      rw [if_pos rfl, if_pos rfl, Option.getD_some, Option.getD_some]
      split
      · rw [List.filter_append, List.filter_append, hparts]
      · rfl
    · rw [if_neg hd, if_neg hd]
      exact h.shownParts
  mem_names hmem := by
    rw [Contributions.add, ← Attributes.get?_isSome_iff, Attributes.get?_update] at hmem ⊢
    split
    · rfl
    · next hd =>
      rw [if_neg hd, Attributes.get?_isSome_iff] at hmem
      exact (Attributes.get?_isSome_iff _ _).mpr (h.mem_names hmem)

/-- Collections stay alike when a decoration is left out. -/
theorem Padded.leaveOut (h : Padded name padded collected) (d : Decoration) :
    Padded name (padded.leaveOut d) (collected.leaveOut d) := by
  rw [Contributions.leaveOut, Contributions.leaveOut]
  split
  · exact h
  · refine ⟨fun other hother ↦ ?_, ?_, ?_, fun hmem ↦ ?_⟩
    · rw [Attributes.get?_erase, Attributes.get?_erase, h.get? other hother]
    · have hcomm : ∀ names : List Text,
          (names.filter (· ≠ d.attributeName)).filter (· ≠ name) =
            (names.filter (· ≠ name)).filter (· ≠ d.attributeName) := fun names ↦ by
        rw [List.filter_filter, List.filter_filter]
        simp only [Bool.and_comm]
      rw [Attributes.names_erase, Attributes.names_erase, hcomm, h.names, hcomm]
    · rw [Contributions.shownParts, Contributions.shownParts, Attributes.get?_erase,
        Attributes.get?_erase]
      split
      · rfl
      · exact h.shownParts
    · rw [Attributes.names_erase, List.mem_filter] at hmem ⊢
      exact ⟨h.mem_names hmem.1, hmem.2⟩

/-! ### What markup shows -/

/-- The attributes of an element with the contributions that have been collected. -/
def values (collected : Contributions) : Attributes AttributeValue := collected.joined.map .ofText

/-- Joining contributions keeps the attributes that are set, and their order. -/
@[simp] theorem names_values (collected : Contributions) :
    collected.values.names = collected.names := by
  rw [values, joined, Attributes.names_map, Attributes.names_map]

/-- An attribute has the value that is joined from its parts. -/
theorem get?_values (collected : Contributions) (name : Text) :
    collected.values.get? name =
      (collected.get? name).map fun _ ↦
        .ofText ([' '].intercalate (collected.shownParts name)) := by
  rw [values, joined, Attributes.get?_map, Attributes.get?_map, shownParts]
  cases collected.get? name <;> rfl

namespace Padded

private theorem get?_values_eq (h : Padded name padded collected)
    (hset : name ∈ padded.names → name ∈ collected.names) (other : Text) :
    padded.values.get? other = collected.values.get? other := by
  rw [get?_values, get?_values]
  by_cases hother : other = name
  · subst hother
    have hsome : (padded.get? other).isSome = (collected.get? other).isSome := by
      rw [Bool.eq_iff_iff, Attributes.get?_isSome_iff, Attributes.get?_isSome_iff]
      exact ⟨hset, h.mem_names⟩
    rw [h.shownParts]
    cases hpadded : padded.get? other <;> cases hcollected : collected.get? other <;>
      simp_all
  · rw [Contributions.shownParts, Contributions.shownParts, h.get? other hother]

private theorem get?_values_of_not_mem (h : Padded name padded collected)
    (hnot : name ∉ collected.names) (hpadded : name ∈ padded.names) :
    padded.values.get? name = some (.ofText []) := by
  have hnone : collected.get? name = none := by
    rw [← Option.not_isSome_iff_eq_none, Attributes.get?_isSome_iff]
    exact hnot
  obtain ⟨parts, hparts⟩ :=
    Option.isSome_iff_exists.mp ((Attributes.get?_isSome_iff _ _).mpr hpadded)
  rw [get?_values, h.shownParts, hparts, Contributions.shownParts, hnone]
  rfl

private theorem names_unranked (h : Padded name padded collected) {policy : Policy}
    (hranked : name ∈ policy.attributeOrder) :
    padded.names.filter (· ∉ policy.attributeOrder) =
      collected.names.filter (· ∉ policy.attributeOrder) := by
  have hothers : ∀ names : List Text, names.filter (· ∉ policy.attributeOrder) =
      (names.filter (· ≠ name)).filter (· ∉ policy.attributeOrder) := by
    intro names
    rw [List.filter_filter]
    apply List.filter_congr
    intro n _
    by_cases hn : n = name
    · simp [hn, hranked]
    · simp [hn]
  rw [hothers, h.names, ← hothers]

end Padded

private theorem appearances_of_hidden {policy : Policy} {attributes : Attributes AttributeValue}
    (hclass : ∀ value, attributes.get? className = some value → value = .ofText []) :
    policy.appearances attributes =
      (policy.inOrder Prod.fst (attributes.entries.filter (·.1 ≠ className))).filterMap fun entry ↦
        (Appearance.of? entry.1 entry.2).map (entry.1, ·) := by
  rw [Policy.appearances, ← Policy.filter_inOrder, List.filterMap_filter]
  apply List.filterMap_congr
  rintro ⟨n, value⟩ hentry
  by_cases hn : n = className
  · subst hn
    have hmem := (policy.inOrder_perm Prod.fst _).mem_iff.mp hentry
    obtain rfl := hclass value (Attributes.get?_of_mem hmem)
    simp [Appearance.of?, AttributeValue.ofText]
  · simp [hn]

private theorem Padded.attributeText_of_hidden {policy : Policy}
    (h : Padded className padded collected) (hnot : className ∉ collected.names)
    (hpadded : className ∈ padded.names) :
    policy.attributeText padded.values = policy.attributeText collected.values := by
  have hentries : padded.values.entries.filter (·.1 ≠ className) =
      collected.values.entries.filter (·.1 ≠ className) := by
    apply Attributes.filter_entries_congr (· ≠ className)
    · intro n hn
      rw [get?_values, get?_values, Contributions.shownParts, Contributions.shownParts,
        h.get? n (by simpa using hn)]
    · rw [names_values, names_values, h.names]
  have hempty : ∀ value, padded.values.get? className = some value → value = .ofText [] := by
    intro value hvalue
    rw [h.get?_values_of_not_mem hnot hpadded] at hvalue
    exact (Option.some.inj hvalue).symm
  have hnone : ∀ value, collected.values.get? className = some value → value = .ofText [] := by
    intro value hvalue
    have hmem := (Attributes.get?_isSome_iff collected.values className).mp (by rw [hvalue]; rfl)
    rw [names_values] at hmem
    exact absurd hmem hnot
  rw [Policy.attributeText, appearances_of_hidden hempty, hentries, ← appearances_of_hidden hnone]
  rfl

/-- Markup does not tell whether there are empty contributions to an attribute if they do not set
it, unless it is the class, and if it is ranked, or the names stand in the same order, or it is not
set otherwise. -/
theorem Padded.attributeText_eq {policy : Policy} (h : Padded name padded collected)
    (hset : name ∈ padded.names → name ∈ collected.names ∨ name = className)
    (hplace : name ∈ policy.attributeOrder ∨ padded.names = collected.names ∨
      name ∉ collected.names) :
    policy.attributeText padded.values = policy.attributeText collected.values := by
  by_cases hhidden : name ∈ padded.names ∧ name ∉ collected.names
  · obtain rfl := (hset hhidden.1).resolve_left hhidden.2
    exact h.attributeText_of_hidden hhidden.2 hhidden.1
  · have hmem : name ∈ padded.names → name ∈ collected.names := fun hpadded ↦
      Decidable.not_not.mp fun hnot ↦ hhidden ⟨hpadded, hnot⟩
    have hunranked : padded.values.names.filter (· ∉ policy.attributeOrder) =
        collected.values.names.filter (· ∉ policy.attributeOrder) := by
      rw [names_values, names_values]
      rcases hplace with hranked | hnames | hnot
      · exact h.names_unranked hranked
      · rw [hnames]
      · -- Neither collection sets the attribute, so that they have the same names.
        have hall : ∀ names : List Text, name ∉ names → names.filter (· ≠ name) = names :=
          fun names hname ↦ List.filter_eq_self.mpr fun n hn ↦ by
            simpa using fun heq : n = name ↦ hname (heq ▸ hn)
        rw [← hall padded.names fun hpadded ↦ hnot (hmem hpadded), h.names, hall _ hnot]
    rw [Policy.attributeText, Policy.appearances,
      Attributes.inOrder_entries_congr (h.get?_values_eq hmem) hunranked]
    rfl

end Contributions
end Shorthand
