import Shorthand.Decoration

/-!
# Segments

A segment is the shorthand for one element: an optional tag and the decorations behind it.
-/

namespace Shorthand

/-- One element in shorthand. A segment without a tag takes the default one. -/
structure Segment where
  raw : Text
  tag? : Option Text
  decorations : List Decoration
  deriving DecidableEq, Repr

namespace Segment

/-- The tag of a segment where untagged segments have the tag `default`. -/
def tag (segment : Segment) (default : Text) : Text := segment.tag?.getD default

/-- The tag that stands for the content built so far instead of an element. -/
def spliceTag : Text := [placeholderMark]

end Segment
end Shorthand
