import Shorthand.Text.Basic

/-!
# Attribute maps

Maps from names to values that remember the order in which names were first set. Setting a
present name keeps its place, erasing a name forgets it. The main statements give the names
and the value of every name after each operation.
-/

namespace Shorthand

/-- A map from names to values in insertion order. No name stands twice. -/
structure Attributes (α : Type) where
  entries : List (Text × α)
  nodup : (entries.map Prod.fst).Nodup

namespace Attributes

variable {α β : Type}

/-- Equality compares the entries, in their order. -/
instance [DecidableEq α] : DecidableEq (Attributes α) := fun a b ↦
  decidable_of_iff (a.entries = b.entries) ⟨fun h ↦ by cases a; cases b; cases h; rfl,
    congrArg entries⟩

/-- Attribute maps with the same entries are equal. -/
@[ext] theorem ext {a b : Attributes α} (h : a.entries = b.entries) : a = b := by
  cases a; cases b; cases h; rfl

/-- The names in insertion order. -/
def names (a : Attributes α) : List Text := a.entries.map Prod.fst

/-- The value of the first entry under a name. -/
def lookup (name : Text) : List (Text × α) → Option α
  | [] => none
  | (n, v) :: rest => if n = name then some v else lookup name rest

/-- The value of a name, if it is set. -/
def get? (a : Attributes α) (name : Text) : Option α := lookup name a.entries

/-- The map without names. -/
def empty : Attributes α := ⟨[], List.nodup_nil⟩

/-- The empty map is the default one. -/
instance : Inhabited (Attributes α) := ⟨empty⟩

/-- Change the entry under a name in place, or append one. -/
def updateEntries (name : Text) (f : Option α → α) : List (Text × α) → List (Text × α)
  | [] => [(name, f none)]
  | (n, v) :: rest =>
    if n = name then (n, f (some v)) :: rest else (n, v) :: updateEntries name f rest

/-- Updating appends the name if no entry has it. -/
theorem map_fst_updateEntries (name : Text) (f : Option α → α) (entries : List (Text × α)) :
    (updateEntries name f entries).map Prod.fst =
      if name ∈ entries.map Prod.fst then entries.map Prod.fst
      else entries.map Prod.fst ++ [name] := by
  induction entries with
  | nil => simp [updateEntries]
  | cons entry rest ih =>
    obtain ⟨n, v⟩ := entry
    by_cases h : n = name
    · subst h; simp [updateEntries]
    · by_cases hmem : name ∈ rest.map Prod.fst <;>
        simp_all [updateEntries, Ne.symm h]

/-- The value of a name becomes `f` of its value so far. -/
def update (a : Attributes α) (name : Text) (f : Option α → α) : Attributes α where
  entries := updateEntries name f a.entries
  nodup := by
    rw [map_fst_updateEntries]
    split
    · exact a.nodup
    · next h =>
      rw [List.nodup_append]
      refine ⟨a.nodup, by simp, ?_⟩
      intro n hn m hm
      obtain rfl : m = name := by simpa using hm
      intro hnm
      exact h (hnm ▸ hn)

/-- The map with a value under a name, in place if the name is set and else at the end. -/
def set (a : Attributes α) (name : Text) (value : α) : Attributes α :=
  a.update name fun _ ↦ value

/-- The map without a name. -/
def erase (a : Attributes α) (name : Text) : Attributes α where
  entries := a.entries.filter fun entry ↦ entry.1 ≠ name
  nodup := a.nodup.sublist (List.filter_sublist.map _)

/-- The map of a list of pairs; a repeated name keeps its first place and last value. -/
def ofList (pairs : List (Text × α)) : Attributes α :=
  pairs.foldl (fun a pair ↦ a.set pair.1 pair.2) empty

/-- The map with every value changed. -/
def map (f : α → β) (a : Attributes α) : Attributes β where
  entries := a.entries.map fun entry ↦ (entry.1, f entry.2)
  nodup := by simpa [Function.comp_def] using a.nodup

/-- Whether two maps give every name the same value, in whatever order. -/
def sameBindings [DecidableEq α] (a b : Attributes α) : Bool :=
  (a.names ++ b.names).all fun name ↦ a.get? name = b.get? name

/-- The empty map has no names. -/
@[simp] theorem names_empty : (empty : Attributes α).names = [] := rfl

/-- The empty map gives no name a value. -/
@[simp] theorem get?_empty (name : Text) : (empty : Attributes α).get? name = none := rfl

/-- An update keeps the order of names and appends a new one. -/
theorem names_update (a : Attributes α) (name : Text) (f : Option α → α) :
    (a.update name f).names = if name ∈ a.names then a.names else a.names ++ [name] :=
  map_fst_updateEntries name f a.entries

private theorem lookup_updateEntries (name other : Text) (f : Option α → α)
    (entries : List (Text × α)) :
    lookup other (updateEntries name f entries) =
      if other = name then some (f (lookup name entries)) else lookup other entries := by
  induction entries with
  | nil => by_cases h : other = name <;> simp [updateEntries, lookup, h, Ne.symm]
  | cons entry rest ih =>
    obtain ⟨n, v⟩ := entry
    by_cases hn : n = name
    · subst hn
      by_cases ho : other = n
      · subst ho; simp [updateEntries, lookup]
      · simp [updateEntries, lookup, ho, Ne.symm ho]
    · by_cases ho : other = name
      · subst ho; simpa [updateEntries, lookup, hn] using ih
      · by_cases hno : n = other <;> simp_all [updateEntries, lookup]

/-- An update changes the value of its name and of no other. -/
theorem get?_update (a : Attributes α) (name other : Text) (f : Option α → α) :
    (a.update name f).get? other =
      if other = name then some (f (a.get? name)) else a.get? other :=
  lookup_updateEntries name other f a.entries

/-- Erasing keeps the other names in their order. -/
theorem names_erase (a : Attributes α) (name : Text) :
    (a.erase name).names = a.names.filter fun n ↦ n ≠ name := by
  simp [names, erase, List.filter_map, Function.comp_def]

/-- Erasing a name takes its value and leaves the others. -/
theorem get?_erase (a : Attributes α) (name other : Text) :
    (a.erase name).get? other = if other = name then none else a.get? other := by
  simp only [get?, erase]
  induction a.entries with
  | nil => simp [lookup]
  | cons entry rest ih =>
    obtain ⟨n, v⟩ := entry
    by_cases hn : n = name
    · subst hn
      by_cases ho : other = n
      · subst ho; simpa using ih
      · simpa [lookup, ho, Ne.symm ho] using ih
    · by_cases hno : n = other
      · subst hno; simp [lookup, hn]
      · simpa [lookup, hn, hno] using ih

/-- Erasing a name that is not set changes nothing. -/
theorem erase_of_not_mem {a : Attributes α} {name : Text} (h : name ∉ a.names) :
    a.erase name = a := by
  apply ext
  refine List.filter_eq_self.mpr fun entry hentry ↦ ?_
  have hne : entry.1 ≠ name := fun heq ↦ h (heq ▸ List.mem_map_of_mem hentry)
  simpa using hne

/-- Changing the values keeps the names. -/
@[simp] theorem names_map (f : α → β) (a : Attributes α) : (a.map f).names = a.names := by
  simp [names, map, Function.comp_def]

/-- The value of a name is changed like every other. -/
@[simp] theorem get?_map (f : α → β) (a : Attributes α) (name : Text) :
    (a.map f).get? name = (a.get? name).map f := by
  simp only [get?, map]
  induction a.entries with
  | nil => rfl
  | cons entry rest ih =>
    obtain ⟨n, v⟩ := entry
    by_cases h : n = name <;> simp [lookup, h, ih]

private theorem lookup_isSome_iff (name : Text) (entries : List (Text × α)) :
    (lookup name entries).isSome = true ↔ name ∈ entries.map Prod.fst := by
  induction entries with
  | nil => simp [lookup]
  | cons entry rest ih =>
    obtain ⟨n, v⟩ := entry
    by_cases h : n = name
    · simp [lookup, h]
    · simpa [lookup, h, Ne.symm h] using ih

/-- Exactly the names of a map have a value. -/
theorem get?_isSome_iff (a : Attributes α) (name : Text) :
    (a.get? name).isSome = true ↔ name ∈ a.names :=
  lookup_isSome_iff name a.entries

/-- Maps have the same bindings exactly if they agree on every name. -/
theorem sameBindings_iff [DecidableEq α] (a b : Attributes α) :
    a.sameBindings b = true ↔ ∀ name, a.get? name = b.get? name := by
  simp only [sameBindings, List.all_eq_true, decide_eq_true_eq, List.mem_append]
  constructor
  · intro h name
    by_cases hmem : name ∈ a.names ∨ name ∈ b.names
    · exact h name hmem
    · rw [← get?_isSome_iff, ← get?_isSome_iff] at hmem
      cases ha : a.get? name <;> cases hb : b.get? name <;> simp_all
  · intro h name _
    exact h name

end Attributes
end Shorthand
