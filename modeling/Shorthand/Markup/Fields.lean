import Shorthand.Markup.Element

/-!
# Elements from loose fields

An element may be put together from fields of which some are absent or of the wrong kind.
Only the tag is required. Every unusable field is reported, in the order of their names.
-/

namespace Shorthand

/-- A field as it was handed in. -/
inductive Field (α : Type) where
  | absent
  | unusable
  | given (value : α)
  deriving Repr

/-- The fields of an element. -/
inductive ElementField where
  | attributes
  | content
  | tag
  deriving DecidableEq, Repr

/-- What is wrong with a field. -/
inductive FieldFault where
  | missing
  | notText
  | notMap
  deriving DecidableEq, Repr

/-- The value of a field with a default, or the fault of an unusable one. -/
def Field.getD {α : Type} (field : Field α) (default : α) (fault : FieldFault) :
    Except FieldFault α :=
  match field with
  | .absent => .ok default
  | .unusable => .error fault
  | .given value => .ok value

/-- The value of a required field, or its fault. -/
def Field.require {α : Type} (field : Field α) (fault : FieldFault) : Except FieldFault α :=
  match field with
  | .absent => .error .missing
  | .unusable => .error fault
  | .given value => .ok value

/-- The report on a field: nothing if it is in order. -/
def ElementField.report {α : Type} (name : ElementField) :
    Except FieldFault α → List (ElementField × FieldFault)
  | .ok _ => []
  | .error fault => [(name, fault)]

/-- The element that the fields describe, or all faults in them. -/
def Element.ofFields (tag : Field Text) (attributes : Field (Attributes AttributeValue))
    (content : Field Text) : Except (List (ElementField × FieldFault)) Element :=
  let attributes := attributes.getD .empty .notMap
  let content := content.getD [] .notText
  let tag := tag.require .notText
  match attributes, content, tag with
  | .ok attributes, .ok content, .ok tag => .ok ⟨tag, attributes, content⟩
  | attributes, content, tag =>
    .error (ElementField.attributes.report attributes ++ ElementField.content.report content ++
      ElementField.tag.report tag)

end Shorthand
