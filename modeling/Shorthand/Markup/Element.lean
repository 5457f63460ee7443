import Shorthand.Attributes.Override
import Shorthand.Markup.Escape
import Shorthand.Markup.Policy

/-!
# Elements

An element is written as its opening tag, its content and its closing tag, or as the opening
tag alone if it is void. This is the only place where anything is escaped: attribute values
are, content is markup already.
-/

namespace Shorthand

open Markup

/-- How an attribute appears in an opening tag: by its bare name or with a quoted value. -/
inductive Appearance where
  | bare
  | quoted (text : Text)
  deriving DecidableEq, Repr

namespace Appearance

/-- How a value makes its attribute appear. Missing and false values hide it, a true value
leaves the bare name, and a class that is empty is hidden too. -/
def of? (name : Text) : AttributeValue → Option Appearance
  | .one .null => none
  | .one (.boolean false) => none
  | .one (.boolean true) => some .bare
  | value =>
    if name = className ∧ value.textUnder name = [] then none
    else some (.quoted (value.textUnder name))

/-- The text of an attribute in an opening tag, led by a space. -/
def text (name : Text) : Appearance → Text
  | .bare => ' ' :: name
  | .quoted value => ' ' :: name ++ "=\"".toList ++ escape value ++ "\"".toList

end Appearance

namespace Policy

/-- The attributes that appear in an opening tag, in their order. -/
def appearances (policy : Policy) (attributes : Attributes AttributeValue) :
    List (Text × Appearance) :=
  (policy.inOrder Prod.fst attributes.entries).filterMap fun entry ↦
    (Appearance.of? entry.1 entry.2).map (entry.1, ·)

/-- The part of an opening tag behind the element's name. -/
def attributeText (policy : Policy) (attributes : Attributes AttributeValue) : Text :=
  (policy.appearances attributes).flatMap fun entry ↦ entry.2.text entry.1

/-- The name of an element, which is the default tag if it has none of its own. -/
def elementName (policy : Policy) (tag : Text) : Text :=
  if tag = [] then policy.defaultTag else tag

/-- The opening tag of an element. -/
def openTag (policy : Policy) (tag : Text) (attributes : Attributes AttributeValue) : Text :=
  '<' :: policy.elementName tag ++ policy.attributeText attributes ++ ">".toList

/-- The closing tag of an element. -/
def closeTag (policy : Policy) (tag : Text) : Text :=
  "</".toList ++ policy.elementName tag ++ ">".toList

end Policy

/-- An element ready to be written. Its content is markup. -/
structure Element where
  tag : Text
  attributes : Attributes AttributeValue
  content : Text
  deriving DecidableEq

namespace Element

/-- The markup of an element. -/
def markup (policy : Policy) (element : Element) : Text :=
  policy.openTag element.tag element.attributes ++
    if policy.isVoid (policy.elementName element.tag) then []
    else element.content ++ policy.closeTag element.tag

/-- A void element is its opening tag. -/
theorem markup_of_isVoid {policy : Policy} {element : Element}
    (h : policy.isVoid (policy.elementName element.tag) = true) :
    element.markup policy = policy.openTag element.tag element.attributes := by
  simp [markup, h]

/-- Any other element has its content between its tags. -/
theorem markup_of_not_isVoid {policy : Policy} {element : Element}
    (h : policy.isVoid (policy.elementName element.tag) = false) :
    element.markup policy =
      policy.openTag element.tag element.attributes ++ element.content ++
        policy.closeTag element.tag := by
  simp [markup, h]

/-- The markup of a single element under the standard policy, around the text of a value. -/
def single (tag : Text) (content : Value) (attributes : Attributes AttributeValue) : Text :=
  markup .standard ⟨tag, attributes, content.toText⟩

/-- A list item. -/
def listItem (content : Value) (attributes : Attributes AttributeValue) : Text :=
  single "li".toList content attributes

/-- A paragraph. -/
def paragraph (content : Value) (attributes : Attributes AttributeValue) : Text :=
  single "p".toList content attributes

/-- A line break. -/
def lineBreak : Text := single "br".toList (.text []) .empty

end Element
end Shorthand
