import Shorthand.Attributes.Basic
import Shorthand.Decoration

/-!
# Contributions

The decorations of one element add up to its attributes. Ids and classes collect their
contributions in order; an attribute in brackets replaces what its name had before. When
everything is collected the non-empty contributions of a name are joined by spaces.
-/

namespace Shorthand

/-- The contributions to each attribute, in order. -/
abbrev Contributions := Attributes (List Text)

namespace Contributions

/-- Take a decoration in. -/
def add (collected : Contributions) (d : Decoration) : Contributions :=
  collected.update d.attributeName fun earlier ↦
    if d.target.collects then earlier.getD [] ++ [d.contribution] else [d.contribution]

/-- Take note that a decoration contributes nothing. An attribute that would have replaced the
earlier value is removed; collected contributions stay. -/
def leaveOut (collected : Contributions) (d : Decoration) : Contributions :=
  if d.target.collects then collected else collected.erase d.attributeName

/-- The non-empty contributions joined by single spaces. -/
def joinParts (parts : List Text) : Text := [' '].intercalate (parts.filter (· ≠ []))

/-- The attributes that the contributions amount to. -/
def joined (collected : Contributions) : Attributes Text := collected.map joinParts

/-- The attributes of an element with the given decorations. -/
def ofDecorations (decorations : List Decoration) : Attributes Text :=
  (decorations.foldl add Attributes.empty).joined

/-- What would have replaced nothing is left out without a trace. -/
theorem leaveOut_eq_self {collected : Contributions} {d : Decoration}
    (h : d.target.collects = true ∨ d.attributeName ∉ collected.names) :
    collected.leaveOut d = collected := by
  rw [leaveOut]
  split
  · rfl
  · next hcollects => exact Attributes.erase_of_not_mem (h.resolve_left hcollects)

/-- A single contribution is joined to itself. -/
@[simp] theorem joinParts_singleton (part : Text) : joinParts [part] = part := by
  by_cases h : part = [] <;> simp [joinParts, h]

end Contributions
end Shorthand
