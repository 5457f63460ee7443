import Shorthand.Marker

/-!
# Decorations

What the shorthand attaches to a tag: ids, classes and attributes in brackets, each with a
value, without one, or with a placeholder that an argument fills later.
-/

namespace Shorthand

/-- The attribute that holds ids. -/
def idName : Text := "id".toList

/-- The attribute that holds classes. -/
def className : Text := "class".toList

/-- What a decoration contributes to: the ids, the classes, or an attribute written in
brackets under its own name. -/
inductive Target where
  | ids
  | classes
  | attribute (name : Text)
  deriving DecidableEq, Repr

namespace Target

/-- The name of the attribute that the target ends up in. -/
def attributeName : Target → Text
  | .ids => idName
  | .classes => className
  | .attribute name => name

/-- Whether contributions to the target are collected. An attribute in brackets replaces what
came before, unless it is the class attribute. -/
def collects : Target → Bool
  | .attribute name => name = className
  | _ => true

end Target

/-- The target of the decorations that a marker begins. -/
def Marker.target : Marker → Target
  | .hash => .ids
  | .dot => .classes

/-- One id, class or attribute attached to a tag. -/
structure Decoration where
  target : Target
  value? : Option Text
  isPlaceholder : Bool
  deriving DecidableEq, Repr

namespace Decoration

/-- The name of the attribute that the decoration ends up in. -/
def attributeName (d : Decoration) : Text := d.target.attributeName

/-- The value that the decoration contributes; an attribute without value has its own name. -/
def contribution (d : Decoration) : Text := d.value?.getD d.attributeName

/-- The decoration with a value, or without one, in place of a placeholder. -/
def withValue (d : Decoration) (value? : Option Text) : Decoration :=
  { d with value? := value?, isPlaceholder := false }

end Decoration
end Shorthand
