import Shorthand.Markup.Element
import Shorthand.Path.Basic

/-!
# The markup of paths

The content goes into the last segment of the innermost group, the markup of each group into
the last segment of the group around it. A splice segment stands for that content instead of
an element. Overrides change the last segment of the outermost group.
-/

namespace Shorthand

namespace Segment

/-- The computed attributes of a segment. -/
def attributes (segment : Segment) : Attributes AttributeValue :=
  (Contributions.ofDecorations segment.decorations).map .ofText

/-- Whether a segment stands for the content built so far. -/
def isSplice (policy : Policy) (segment : Segment) : Bool :=
  segment.tag policy.defaultTag = spliceTag

/-- The element that a segment describes, around `content`. -/
def element (policy : Policy) (overrides : Attributes AttributeValue) (content : Text)
    (segment : Segment) : Element :=
  ⟨segment.tag policy.defaultTag, segment.attributes.override overrides, content⟩

/-- The markup of a segment: of a splice the `spliced` content, of any other its element around
its own content. -/
def markup (policy : Policy) (overrides : Attributes AttributeValue) (spliced content : Text)
    (segment : Segment) : Text :=
  if segment.isSplice policy then spliced
  else (segment.element policy overrides content).markup policy

end Segment

namespace Path

/-- The markup of a group around `content`, which every splice repeats and the last segment
holds. -/
def groupMarkup (policy : Policy) (overrides : Attributes AttributeValue) (content : Text) :
    List Segment → Text
  | [] => []
  | [last] => last.markup policy overrides content content
  | segment :: rest =>
    segment.markup policy .empty content [] ++ groupMarkup policy overrides content rest

/-- The last segment of a group is written behind those in front of it, which no overrides reach. -/
theorem groupMarkup_concat (policy : Policy) (overrides : Attributes AttributeValue)
    (content : Text) (front : List Segment) (last : Segment) :
    groupMarkup policy overrides content (front ++ [last]) =
      front.flatMap (·.markup policy .empty content []) ++
        last.markup policy overrides content content := by
  induction front with
  | nil => rfl
  | cons segment front ih =>
    have hne : front ++ [last] ≠ [] := List.append_ne_nil_of_right_ne_nil _ (List.cons_ne_nil _ _)
    obtain ⟨next, rest, hrest⟩ := List.exists_cons_of_ne_nil hne
    rw [List.cons_append, List.flatMap_cons, List.append_assoc, ← ih, hrest, groupMarkup]
    exact List.cons_ne_nil _ _

/-- The markup of groups inside each other around `content`. -/
def nestMarkup (policy : Policy) (content : Text) (groups : List (List Segment)) : Text :=
  groups.foldr (fun group inner ↦ groupMarkup policy .empty inner group) content

/-- The markup of a path around `content`. A path without groups has none. -/
def markup (policy : Policy) (overrides : Attributes AttributeValue) (content : Text)
    (path : Path) : Text :=
  match path.groups with
  | [] => []
  | outermost :: inner =>
    groupMarkup policy overrides (nestMarkup policy content inner) outermost

/-- Expand a path around a value. -/
def expand (policy : Policy) (path : Text) (content : Value)
    (overrides : Attributes AttributeValue) : Except Malformed Text :=
  (read path).map (markup policy overrides content.contentText)

end Path
end Shorthand
