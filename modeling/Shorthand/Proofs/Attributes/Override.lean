import Shorthand.Attributes.Override

/-!
# Overridden attributes

What becomes of each name when attributes are overridden. Overrides come in one after the other,
but no name stands twice among them, so each override meets the computed value of its name. The
main statements give the names in their order and the value of every name.
-/

namespace Shorthand.Attributes

variable {computed : Attributes AttributeValue} {entries : List (Text × AttributeValue)}

private def overrideWith (computed : Attributes AttributeValue)
    (entries : List (Text × AttributeValue)) : Attributes AttributeValue :=
  entries.foldl (fun a entry ↦ a.update entry.1 (overridden entry.1 entry.2)) computed

private theorem names_overrideWith (h : (entries.map Prod.fst).Nodup) :
    (overrideWith computed entries).names =
      computed.names ++ (entries.map Prod.fst).filter (· ∉ computed.names) := by
  induction entries generalizing computed with
  | nil => exact (List.append_nil _).symm
  | cons entry entries ih =>
    obtain ⟨hnew, hothers⟩ := List.nodup_cons.mp h
    have hnames := @ih (computed.update entry.1 (overridden entry.1 entry.2)) hothers
    rw [names_update] at hnames
    rw [overrideWith, List.foldl_cons, ← overrideWith, hnames, List.map_cons]
    split
    · next hmem =>
      rw [List.filter_cons_of_neg (by simpa using hmem)]
    · next hmem =>
      have hfilter : (entries.map Prod.fst).filter (· ∉ computed.names ++ [entry.1]) =
          (entries.map Prod.fst).filter (· ∉ computed.names) := by
        apply List.filter_congr
        intro name hname
        have hne : name ≠ entry.1 := fun heq ↦ hnew (heq ▸ hname)
        simp [hne]
      rw [List.filter_cons_of_pos (by simpa using hmem), hfilter, List.append_assoc]
      rfl

private theorem get?_overrideWith (h : (entries.map Prod.fst).Nodup) (name : Text) :
    (overrideWith computed entries).get? name =
      match lookup name entries with
      | some value => some (overridden name value (computed.get? name))
      | none => computed.get? name := by
  induction entries generalizing computed with
  | nil => rfl
  | cons entry entries ih =>
    obtain ⟨n, value⟩ := entry
    obtain ⟨hnew, hothers⟩ := List.nodup_cons.mp h
    have hget := @ih (computed.update n (overridden n value)) hothers
    rw [overrideWith, List.foldl_cons, ← overrideWith, hget, get?_update, lookup]
    by_cases hname : n = name
    · subst hname
      have hnone : lookup n entries = none := by
        rw [← Option.not_isSome_iff_eq_none]
        exact fun hsome ↦ hnew ((get?_isSome_iff ⟨entries, hothers⟩ n).mp hsome)
      simp [hnone]
    · simp [hname, Ne.symm hname]

/-- The computed names come first, and behind them the new ones in the order of the overrides. -/
theorem names_override (computed overrides : Attributes AttributeValue) :
    (computed.override overrides).names =
      computed.names ++ overrides.names.filter (· ∉ computed.names) :=
  names_overrideWith overrides.nodup

/-- A name that is overridden has its override on top of its computed value, and every other name
has its computed value. -/
theorem get?_override (computed overrides : Attributes AttributeValue) (name : Text) :
    (computed.override overrides).get? name =
      match overrides.get? name with
      | some value => some (overridden name value (computed.get? name))
      | none => computed.get? name :=
  get?_overrideWith overrides.nodup name

end Shorthand.Attributes
