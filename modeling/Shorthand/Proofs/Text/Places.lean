import Shorthand.Text.Basic

/-!
# Places in a text

Where one text stands inside another one. The main statements say that places add up: what stands
in a text that itself stands in a larger one stands in the larger one too.
-/

namespace Shorthand.Text

/-- Whether a text stands in `whole` behind its first `place` characters. -/
def StandsAt (whole : Text) (place : Nat) (s : Text) : Prop := s <+: whole.drop place

/-- The text is compared with what the whole holds from the place on. -/
instance (whole : Text) (place : Nat) (s : Text) : Decidable (StandsAt whole place s) :=
  inferInstanceAs (Decidable (s <+: whole.drop place))

variable {whole s t : Text} {place distance : Nat} {c : Char}

/-- The character behind a text is the first one of what follows it. -/
theorem getElem?_length_append (front t : Text) : (front ++ t)[front.length]? = t.head? := by
  rw [List.getElem?_append_right (Nat.le_refl _), Nat.sub_self, List.head?_eq_getElem?]

/-- A beginning of what follows a text stands behind it. -/
theorem standsAt_append (front : Text) (h : s <+: t) : StandsAt (front ++ t) front.length s := by
  rwa [StandsAt, List.drop_left]

/-- What stands in a text that stands in a larger one stands in the larger one. -/
theorem StandsAt.trans (ht : StandsAt whole place t) (hs : StandsAt t distance s) :
    StandsAt whole (place + distance) s := by
  obtain ⟨rest, hrest⟩ := ht
  rw [StandsAt, ← List.drop_drop, ← hrest, List.drop_append]
  exact List.IsPrefix.trans hs (List.prefix_append ..)

/-- A character of a text that stands in a larger one stands in the larger one. -/
theorem StandsAt.getElem? (ht : StandsAt whole place t) (hc : t[distance]? = some c) :
    whole[place + distance]? = some c := by
  obtain ⟨rest, hrest⟩ := ht
  rw [← List.getElem?_drop, ← hrest, List.getElem?_append_left, hc]
  exact (List.getElem?_eq_some_iff.mp hc).1

/-- What stands in a text ends in it. -/
theorem StandsAt.add_length_le (h : StandsAt whole place s) (hne : s ≠ []) :
    place + s.length ≤ whole.length := by
  have hle := List.IsPrefix.length_le h
  have hpos := List.length_pos_iff.mpr hne
  rw [List.length_drop] at hle
  omega

end Shorthand.Text
