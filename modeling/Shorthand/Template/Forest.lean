import Shorthand.Segment.Basic

/-!
# Template forests

A parsed template is a row of items side by side. Each item is a segment, possibly with a
placeholder for its content or with a row of items inside it. The row is built like a list,
so that functions on it recurse on what is inside an item and on what follows it.
-/

namespace Shorthand.Template

/-- A row of items. An item has a group of items inside it, or nothing, or a content
placeholder. -/
inductive Forest where
  | nil
  | leaf (segment : Segment) (hasHole : Bool) (next : Forest)
  | group (segment : Segment) (children next : Forest)
  deriving DecidableEq, Repr

/-- What stands behind the decorations of an item. -/
inductive Content where
  | empty
  | hole
  | group (children : Forest)
  deriving DecidableEq, Repr

namespace Forest

/-- An item with its content in front of a row. -/
def item (segment : Segment) (content : Content) (next : Forest) : Forest :=
  match content with
  | .empty => leaf segment false next
  | .hole => leaf segment true next
  | .group children => group segment children next

/-- The items of a row, each with its content. -/
def items : Forest → List (Segment × Content)
  | nil => []
  | leaf segment hasHole next => (segment, if hasHole then .hole else .empty) :: next.items
  | group segment children next => (segment, .group children) :: next.items

/-- One row behind another. -/
def append : Forest → Forest → Forest
  | nil, other => other
  | leaf segment hasHole next, other => leaf segment hasHole (next.append other)
  | group segment children next, other => group segment children (next.append other)

/-- Rows of items are put one behind the other. -/
instance : Append Forest := ⟨append⟩

/-- The row made of an item and a row has the item first. -/
@[simp] theorem items_item (segment : Segment) (content : Content) (next : Forest) :
    (item segment content next).items = (segment, content) :: next.items := by
  cases content <;> rfl

/-- An item stays in front when another row follows. -/
theorem item_append (segment : Segment) (content : Content) (next other : Forest) :
    item segment content next ++ other = item segment content (next ++ other) := by
  cases content <;> rfl

end Forest

/-- Whether an item stands for its argument itself: a placeholder without tag, decorations or
children. -/
def isSplice (segment : Segment) (content : Content) : Bool :=
  segment.tag? = none && segment.decorations.isEmpty && content = .hole

end Shorthand.Template
