import Shorthand.Markup.Element
import Shorthand.Template.Reader

/-!
# Filling templates

Placeholders take arguments in the order in which they stand in the text: those of an item's
decorations first, then those of its content, then those of the items behind it. A missing
value leaves an attribute out and is no content. Filling has no result if the arguments do
not suffice.
-/

namespace Shorthand.Template

/-- Take the first of the arguments that are left. -/
def takeArgument : List Value → Option (Value × List Value)
  | [] => none
  | value :: rest => some (value, rest)

/-- Whether an argument leaves out the decoration that it was meant for. -/
def leavesOut (value : Value) : Bool := value = .null

/-- Take one decoration in, with an argument if it is a placeholder. -/
def fillDecoration (collected : Contributions) (d : Decoration) (arguments : List Value) :
    Option (Contributions × List Value) :=
  if d.isPlaceholder then do
    let (value, rest) ← takeArgument arguments
    return (if leavesOut value then collected.leaveOut d
      else collected.add (d.withValue (some value.toText)), rest)
  else some (collected.add d, arguments)

/-- Take decorations in from left to right. -/
def fillDecorations : Contributions → List Decoration → List Value →
    Option (Contributions × List Value)
  | collected, [], arguments => some (collected, arguments)
  | collected, d :: rest, arguments => do
    let (collected, arguments) ← fillDecoration collected d arguments
    fillDecorations collected rest arguments

/-- The markup of an item whose decorations and content are filled. -/
def itemMarkup (policy : Policy) (segment : Segment) (collected : Contributions)
    (content : Text) : Text :=
  Element.markup policy
    ⟨segment.tag policy.defaultTag, collected.joined.map .ofText, content⟩

/-- The markup of a row of items, and the arguments that are left. -/
def fill (policy : Policy) : Forest → List Value → Option (Text × List Value)
  | .nil, arguments => some ([], arguments)
  | .leaf segment hasHole next, arguments => do
    let (collected, arguments) ← fillDecorations .empty segment.decorations arguments
    if hasHole then
      let (value, arguments) ← takeArgument arguments
      let (others, arguments) ← fill policy next arguments
      let content := value.contentText
      let here :=
        if isSplice segment .hole then content else itemMarkup policy segment collected content
      return (here ++ others, arguments)
    else
      let (others, arguments) ← fill policy next arguments
      return (itemMarkup policy segment collected [] ++ others, arguments)
  | .group segment children next, arguments => do
    let (collected, arguments) ← fillDecorations .empty segment.decorations arguments
    let (inside, arguments) ← fill policy children arguments
    let (others, arguments) ← fill policy next arguments
    return (itemMarkup policy segment collected inside ++ others, arguments)

end Shorthand.Template
