import Shorthand.Attributes.Basic
import Shorthand.Segment.Bracket
import Shorthand.Segment.Basic

/-!
# Writing selectors

The shorthand of a tag with attributes: ids and classes behind their markers, every other
attribute in brackets, and a value that repeats the attribute's name left out.
-/

namespace Shorthand.Segment

/-- The shorthand of one attribute. -/
def attributeShorthand (name value : Text) : Text :=
  if name = idName then Marker.hash.char :: value
  else if name = className then Marker.dot.char :: value
  else if value = name then bracketed name
  else bracketed (name ++ '=' :: value)

/-- The shorthand of a tag with attributes. -/
def shorthand (tag : Text) (attributes : Attributes Text) : Text :=
  tag ++ attributes.entries.flatMap fun entry ↦ attributeShorthand entry.1 entry.2

end Shorthand.Segment
