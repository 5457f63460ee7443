import Shorthand.Segment.Basic
import Shorthand.Segment.Bracket
import Shorthand.Segment.Piece

/-!
# Reading segments

A segment is read from its pieces. The loose characters in front of the first decoration
are the tag, loose characters elsewhere are ignored unless they are brackets. Faults are
reported in this order: attribute names from left to right, the first loose bracket, the
tag.
-/

namespace Shorthand

open Text

/-- The position `distance` characters behind a position, as far as it is known. -/
def positionBehind (offset? : Option Int) (distance : Nat) : Option Int :=
  offset?.map (· + (distance : Int))

namespace Piece

/-- The decoration that a piece contributes, if any: a run of spaces contributes nothing. -/
def decoration? (selector? : Option Text) (offset? : Option Int) :
    Piece → Except Malformed (Option Decoration)
  | .run marker value =>
    .ok (if trim value = [] then none else some ⟨marker.target, some (trim value), false⟩)
  | .bracket body => do
    let (name, value?) ← readBracket selector? offset? body
    return some ⟨.attribute name, value?, false⟩
  | .loose _ => .ok none

/-- The decorations of pieces of which the first stands at `offset?`. -/
def decorations (selector? : Option Text) :
    Option Int → List Piece → Except Malformed (List Decoration)
  | _, [] => .ok []
  | offset?, piece :: rest => do
    let here ← piece.decoration? selector? offset?
    let others ← decorations selector? (positionBehind offset? piece.text.length) rest
    return here.toList ++ others

/-- The first loose bracket among pieces, and how many characters stand in front of it. -/
def looseBracket? : List Piece → Option (Nat × Char)
  | [] => none
  | piece :: rest =>
    match piece.loose? with
    | some c =>
      if c = openBracket ∨ c = closeBracket then some (0, c)
      else (looseBracket? rest).map fun found ↦ (found.1 + 1, found.2)
    | none => (looseBracket? rest).map fun found ↦ (found.1 + piece.text.length, found.2)

/-- The loose characters in front of the first decoration. -/
def leading : List Piece → Text
  | .loose c :: rest => c :: leading rest
  | _ => []

end Piece

namespace Segment

/-- Why a bracket that belongs to no attribute is a fault. -/
def looseBracketReason (c : Char) : Reason :=
  if c = openBracket then .unterminatedBracket else .unexpected c

/-- Read the tag of a segment from the text in front of its decorations. Besides names the
splice tag is allowed. -/
def readTag (selector : Text) (offset? : Option Int) (raw leading : Text) :
    Except Malformed (Option Text) :=
  let tag := trim leading
  if tag = [] then .ok none
  else if tag = spliceTag then .ok (some tag)
  else (checkName .tag tag selector raw offset?).map some

/-- Read a segment that stands at `offset?` in the selector. Without a selector the segment
itself is reported in its place. -/
def read (selector? : Option Text) (offset? : Option Int) (raw : Text) :
    Except Malformed Segment := do
  let pieces := Piece.scan raw
  let selector := selector?.getD raw
  let decorations ← Piece.decorations selector? offset? pieces
  match Piece.looseBracket? pieces with
  | some (distance, c) =>
    .error ⟨selector, looseBracketReason c,
      some ⟨some selector, some raw, positionBehind offset? distance⟩⟩
  | none => do
    let tag? ← readTag selector offset? raw (Piece.leading pieces)
    return ⟨raw, tag?, decorations⟩

end Segment
end Shorthand
