import Shorthand.Attributes.Contributions
import Shorthand.Value

/-!
# Overrides

Attribute values as callers give them, and the overriding of computed attributes by them.
An overriding class is added to the computed one; every other override replaces the
computed value or is appended.
-/

namespace Shorthand

/-- An attribute value as a caller gives it: one value or several, as a rule several classes. -/
inductive AttributeValue where
  | one (v : Value)
  | several (vs : List Value)
  deriving DecidableEq, Repr

namespace AttributeValue

/-- The text of an attribute value by itself, which lists several values. -/
def toText : AttributeValue → Text
  | .one v => v.toText
  | .several vs => Value.listText vs

/-- The text of an attribute value as a class; of several values those that count as present are
joined by spaces. -/
def classText : AttributeValue → Text
  | .one v => v.toText
  | .several vs => [' '].intercalate ((vs.filter Value.isTruthy).map Value.toText)

/-- The text of an attribute value under a name. -/
def textUnder (name : Text) (value : AttributeValue) : Text :=
  if name = className then value.classText else value.toText

/-- A single value has the same text under every name. -/
@[simp] theorem textUnder_one (name : Text) (v : Value) : (one v).textUnder name = v.toText :=
  ite_self _

/-- Whether an attribute value counts as present. -/
def isTruthy : AttributeValue → Bool
  | .one v => v.isTruthy
  | .several vs => !vs.isEmpty

/-- A text as an attribute value. -/
def ofText (t : Text) : AttributeValue := .one (.text t)

end AttributeValue

namespace Attributes

/-- The value of a name once it is overridden. A class is added to a computed class that is
not empty, provided there is something to add. -/
def overridden (name : Text) (value : AttributeValue) (computed? : Option AttributeValue) :
    AttributeValue :=
  match computed? with
  | some computed =>
    if name = className ∧ computed.isTruthy ∧ value.isTruthy then
      .ofText (computed.toText ++ ' ' :: value.toText)
    else value
  | none => value

/-- Attributes with the overrides of a caller, which come in their order. -/
def override (computed overrides : Attributes AttributeValue) : Attributes AttributeValue :=
  overrides.entries.foldl (fun a entry ↦ a.update entry.1 (overridden entry.1 entry.2)) computed

/-- Without overrides the attributes stand as they are. -/
@[simp] theorem override_empty (computed : Attributes AttributeValue) :
    computed.override empty = computed := rfl

end Attributes
end Shorthand
