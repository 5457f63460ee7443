import Shorthand.Text.Lowercase

/-!
# Rendering policies

A policy says which elements are void, which attributes come first, and which tag an
element has that names none. Ranked attributes stand in the order of the policy, all others
behind them in the order in which they were set.
-/

namespace Shorthand

open Text

/-- The choices that rendering leaves open. -/
structure Policy where
  voidElements : List Text
  attributeOrder : List Text
  defaultTag : Text
  deriving DecidableEq, Repr

namespace Policy

/-- The elements of the markup language that never have content or a closing tag. -/
def standardVoidElements : List Text :=
  ["area", "base", "br", "col", "command", "embed", "hr", "img", "input", "keygen", "link",
    "meta", "param", "source", "track", "wbr"].map String.toList

/-- The attributes that come first unless a policy says otherwise. -/
def standardAttributeOrder : List Text :=
  ["type", "id", "class", "name", "value", "href", "src", "srcset", "form", "action", "method",
    "selected", "checked", "readonly", "disabled", "multiple", "size", "maxlength", "width",
    "height", "rows", "cols", "alt", "title", "rel", "media"].map String.toList

/-- The policy for callers that have none of their own. -/
def standard : Policy where
  voidElements := standardVoidElements
  attributeOrder := standardAttributeOrder
  defaultTag := "div".toList

/-- The policy of a fresh expander is the default one. -/
instance : Inhabited Policy := ⟨standard⟩

/-- Whether an element is void. Letter case does not matter in its name, but it does in the
names that the policy lists. -/
def isVoid (policy : Policy) (tag : Text) : Bool := policy.voidElements.contains (lowercase tag)

/-- Put a text into an increasing list, unless it is there already. -/
def insertDistinct (t : Text) : List Text → List Text
  | [] => [t]
  | u :: rest =>
    if t < u then t :: u :: rest else if t = u then u :: rest else u :: insertDistinct t rest

/-- The void elements in the order of their code points, each once. -/
def voidElementsInOrder (policy : Policy) : List Text :=
  policy.voidElements.foldr insertDistinct []

/-- The first place of a name in the attribute order, or the length of the order. -/
def rank (policy : Policy) (name : Text) : Nat := policy.attributeOrder.findIdx (· == name)

/-- A ranked name precedes the length of the order, every other name has it as its rank. -/
theorem rank_lt_iff (policy : Policy) (name : Text) :
    policy.rank name < policy.attributeOrder.length ↔ name ∈ policy.attributeOrder := by
  simp [rank, List.findIdx_lt_length]

section Order

variable {α : Type} (policy : Policy) (nameOf : α → Text)

/-- Put an item in front of the first one that has at least its rank. -/
def insertByRank (item : α) : List α → List α
  | [] => [item]
  | next :: rest =>
    if policy.rank (nameOf item) ≤ policy.rank (nameOf next) then item :: next :: rest
    else next :: insertByRank item rest

/-- The items in order of rank; items of one rank keep their order. -/
def inOrder : List α → List α
  | [] => []
  | item :: rest => insertByRank policy nameOf item (inOrder rest)

/-- Insertion adds the item and nothing else. -/
theorem insertByRank_perm (item : α) (items : List α) :
    (insertByRank policy nameOf item items).Perm (item :: items) := by
  induction items with
  | nil => exact List.Perm.refl _
  | cons next rest ih =>
    rw [insertByRank]
    split
    · exact List.Perm.refl _
    · exact (ih.cons next).trans (List.Perm.swap item next rest)

/-- Ordering drops nothing and adds nothing. -/
theorem inOrder_perm (items : List α) : (inOrder policy nameOf items).Perm items := by
  induction items with
  | nil => exact List.Perm.refl _
  | cons item rest ih =>
    exact (insertByRank_perm policy nameOf item _).trans (ih.cons item)

private theorem map_insertByRank (item : α) (items : List α) :
    (insertByRank policy nameOf item items).map nameOf =
      insertByRank policy id (nameOf item) (items.map nameOf) := by
  induction items with
  | nil => rfl
  | cons next rest ih =>
    simp only [insertByRank, List.map_cons, id]
    split <;> simp [ih]

/-- Items are ordered as their names are. -/
theorem map_inOrder (items : List α) :
    (inOrder policy nameOf items).map nameOf = inOrder policy id (items.map nameOf) := by
  induction items with
  | nil => rfl
  | cons item rest ih => simp [inOrder, map_insertByRank, ih]

end Order
end Policy
end Shorthand
