import Shorthand.Attributes.Contributions

/-!
# Collected attributes

What decorations amount to. The main statements say that decorations for different attributes give
these attributes in the order of the decorations, and that every value is joined from contributions
of the decorations to that attribute.
-/

namespace Shorthand

namespace Attributes

variable {α : Type} {a : Attributes α} {name : Text}

private theorem updateEntries_of_not_mem {entries : List (Text × α)} (f : Option α → α)
    (h : name ∉ entries.map Prod.fst) :
    updateEntries name f entries = entries ++ [(name, f none)] := by
  induction entries with
  | nil => rfl
  | cons entry rest ih =>
    obtain ⟨n, v⟩ := entry
    rw [List.map_cons, List.mem_cons, not_or] at h
    rw [updateEntries, if_neg (Ne.symm h.1), ih h.2]
    rfl

/-- An update of a name that is not set appends an entry. -/
theorem entries_update_of_not_mem (f : Option α → α) (h : name ∉ a.names) :
    (a.update name f).entries = a.entries ++ [(name, f none)] :=
  updateEntries_of_not_mem f h

private theorem lookup_of_mem {entries : List (Text × α)} {value : α}
    (h : (name, value) ∈ entries) (hnodup : (entries.map Prod.fst).Nodup) :
    lookup name entries = some value := by
  induction entries with
  | nil => exact absurd h List.not_mem_nil
  | cons entry rest ih =>
    obtain ⟨n, v⟩ := entry
    rw [List.map_cons, List.nodup_cons] at hnodup
    rcases List.mem_cons.mp h with heq | hrest
    · obtain ⟨rfl, rfl⟩ := Prod.mk.inj heq
      exact if_pos rfl
    · have hmem : name ∈ rest.map Prod.fst := List.mem_map_of_mem hrest
      have hne : n ≠ name := by
        rintro rfl
        exact hnodup.1 hmem
      rw [lookup, if_neg hne, ih hrest hnodup.2]

/-- An entry gives the value of its name. -/
theorem get?_of_mem {value : α} (h : (name, value) ∈ a.entries) : a.get? name = some value :=
  lookup_of_mem h a.nodup

private theorem mem_of_lookup {entries : List (Text × α)} {value : α}
    (h : lookup name entries = some value) : (name, value) ∈ entries := by
  induction entries with
  | nil => exact absurd h (by simp [lookup])
  | cons entry rest ih =>
    obtain ⟨n, v⟩ := entry
    rw [lookup] at h
    split at h
    · next hn =>
      obtain rfl := hn
      obtain rfl := Option.some.inj h
      exact List.mem_cons_self ..
    · exact List.mem_cons_of_mem _ (ih h)

/-- The value of a name has an entry. -/
theorem mem_of_get? {value : α} (h : a.get? name = some value) : (name, value) ∈ a.entries :=
  mem_of_lookup h

end Attributes

namespace Contributions

variable {collected : Contributions} {ds : List Decoration} {d : Decoration}

/-! ### Decorations for different attributes -/

/-- A decoration for an attribute that is not set appends its contribution. -/
theorem entries_add_of_not_mem (h : d.attributeName ∉ collected.names) :
    (collected.add d).entries = collected.entries ++ [(d.attributeName, [d.contribution])] := by
  rw [add, Attributes.entries_update_of_not_mem _ h]
  cases d.target.collects <;> rfl

private theorem entries_foldl_add (h : (collected.names ++ ds.map Decoration.attributeName).Nodup) :
    (ds.foldl add collected).entries =
      collected.entries ++ ds.map fun d ↦ (d.attributeName, [d.contribution]) := by
  induction ds generalizing collected with
  | nil => exact (List.append_nil _).symm
  | cons d ds ih =>
    have hnew : d.attributeName ∉ collected.names := by
      intro hmem
      exact (List.nodup_append.mp h).2.2 _ hmem _ (List.mem_cons_self ..) rfl
    have hentries := entries_add_of_not_mem hnew
    have hnames : (collected.add d).names = collected.names ++ [d.attributeName] := by
      rw [Attributes.names, hentries, List.map_append]
      rfl
    have hothers := @ih (collected.add d) (by
      rw [hnames, List.append_assoc]
      exact h)
    rw [List.foldl_cons, hothers, hentries, List.append_assoc]
    rfl

/-- Decorations for different attributes give one entry each, in their order. -/
theorem entries_ofDecorations (h : (ds.map Decoration.attributeName).Nodup) :
    (ofDecorations ds).entries = ds.map fun d ↦ (d.attributeName, d.contribution) := by
  have hentries := @entries_foldl_add Attributes.empty ds h
  show (ds.foldl add .empty).entries.map (fun entry ↦ (entry.1, joinParts entry.2)) = _
  rw [hentries]
  simp [Attributes.empty]

/-! ### Where values come from -/

/-- Whether every attribute has contributions of given decorations, and none but those. -/
def ComeFrom (ds : List Decoration) (collected : Contributions) : Prop :=
  ∀ name parts, collected.get? name = some parts →
    parts ≠ [] ∧ ∀ part ∈ parts, ∃ d ∈ ds, d.attributeName = name ∧ d.contribution = part

private theorem ComeFrom.add (h : ComeFrom ds collected) (hd : d ∈ ds) :
    ComeFrom ds (collected.add d) := by
  intro name parts hparts
  rw [Contributions.add, Attributes.get?_update] at hparts
  split at hparts
  · next hname =>
    have hhere : ∃ d' ∈ ds, d'.attributeName = name ∧ d'.contribution = d.contribution :=
      ⟨d, hd, hname.symm, rfl⟩
    obtain rfl := Option.some.inj hparts
    split
    · refine ⟨by simp, fun part hpart ↦ ?_⟩
      rcases List.mem_append.mp hpart with hearlier | hnew
      · cases hget : collected.get? d.attributeName with
        | none => exact absurd hearlier (by simp [hget])
        | some earlier =>
          rw [hget] at hearlier
          exact (h name earlier (by rw [hname, hget])).2 part hearlier
      · rwa [List.mem_singleton.mp hnew]
    · refine ⟨List.cons_ne_nil _ _, fun part hpart ↦ ?_⟩
      rwa [List.mem_singleton.mp hpart]
  · exact h name parts hparts

/-- The value of an attribute is joined from contributions of the decorations to it, of which there
is one at least. -/
theorem exists_parts {name value : Text} (h : (ofDecorations ds).get? name = some value) :
    ∃ parts, parts ≠ [] ∧ value = joinParts parts ∧
      ∀ part ∈ parts, ∃ d ∈ ds, d.attributeName = name ∧ d.contribution = part := by
  have hcome : ComeFrom ds (ds.foldl add .empty) :=
    List.foldlRecOn ds _ (by simp [ComeFrom]) fun _ hcollected _ hd ↦ hcollected.add hd
  rw [ofDecorations, joined, Attributes.get?_map] at h
  obtain ⟨parts, hparts, rfl⟩ := Option.map_eq_some_iff.mp h
  obtain ⟨hne, hfrom⟩ := hcome name parts hparts
  exact ⟨parts, hne, rfl, hfrom⟩

/-! ### Joining -/

/-- A contribution that is not empty stands in front of a space and the others. -/
theorem joinParts_cons {part : Text} {parts : List Text} (hpart : part ≠ [])
    (hparts : parts.filter (· ≠ []) ≠ []) :
    joinParts (part :: parts) = part ++ ' ' :: joinParts parts := by
  rw [joinParts, List.filter_cons_of_pos (by simpa using hpart),
    List.intercalate_cons_of_ne_nil hparts, List.append_assoc]
  rfl

/-- A joined text holds no other characters than its contributions and spaces. -/
theorem mem_joinParts {c : Char} {parts : List Text} (h : c ∈ joinParts parts) :
    c = ' ' ∨ ∃ part ∈ parts, c ∈ part := by
  have hsome : ∀ texts : List Text, c ∈ [' '].intercalate texts →
      c = ' ' ∨ ∃ part ∈ texts, c ∈ part := by
    intro texts hc
    induction texts with
    | nil => exact absurd hc (by simp)
    | cons text texts ih =>
      cases texts with
      | nil =>
        rw [List.intercalate_singleton] at hc
        exact .inr ⟨text, List.mem_cons_self .., hc⟩
      | cons next texts =>
        rw [List.intercalate_cons_cons, List.mem_append, List.mem_append,
          List.mem_singleton] at hc
        rcases hc with (htext | hspace) | hothers
        · exact .inr ⟨text, List.mem_cons_self .., htext⟩
        · exact .inl hspace
        · exact (ih hothers).imp_right fun ⟨part, hpart, hmem⟩ ↦
            ⟨part, List.mem_cons_of_mem _ hpart, hmem⟩
  exact (hsome _ h).imp_right fun ⟨part, hpart, hmem⟩ ↦ ⟨part, (List.mem_filter.mp hpart).1, hmem⟩

end Contributions
end Shorthand
