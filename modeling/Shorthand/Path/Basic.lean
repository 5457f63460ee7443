import Shorthand.Path.Cut
import Shorthand.Segment.Reader

/-!
# Paths

A path is a chain of groups: each group stands inside the last segment of the group to its
left, and the segments of one group stand side by side. Faults are reported for the
rightmost group that has one, and in it for the leftmost segment.
-/

namespace Shorthand

/-- The groups of a path from the outermost to the innermost, each with its segments. -/
structure Path where
  groups : List (List Segment)
  deriving DecidableEq, Repr

namespace Path

/-- The mark between a group and the group inside it. -/
def nestSeparator : Char := '/'

/-- The mark between segments side by side. -/
def siblingSeparator : Char := '+'

/-- The parts of a path: its groups, and their segments. -/
def parts (path : Text) : List (List Part) :=
  (Part.cut (· == nestSeparator) 0 path).map fun group ↦
    Part.cut (· == siblingSeparator) group.offset group.text

/-- Read the segments of a group from left to right. -/
def readGroup (path : Text) : List Part → Except Malformed (List Segment)
  | [] => .ok []
  | part :: rest => do
    let segment ← Segment.read (some path) (some part.offset) part.text
    let others ← readGroup path rest
    return segment :: others

/-- Read groups from the innermost to the outermost. -/
def readGroups (path : Text) : List (List Part) → Except Malformed (List (List Segment))
  | [] => .ok []
  | group :: inner => do
    let innerGroups ← readGroups path inner
    let segments ← readGroup path group
    return segments :: innerGroups

/-- Read a path. -/
def read (path : Text) : Except Malformed Path := do
  let groups ← readGroups path (parts path)
  return ⟨groups⟩

end Path
end Shorthand
