import Shorthand.Marker
import Shorthand.Number.Decimal

/-!
# Faults

What can go wrong: a selector that does not follow the rules, and a template that asks for
more arguments than there are. A fault holds its cause as data; the wording is in
`Reason.text`, `Malformed.message` and `Exhausted.message` alone.
-/

namespace Shorthand

open Number

/-- What a checked name stands for. -/
inductive NameRole where
  | tag
  | attribute
  | custom (label : Text)
  deriving DecidableEq, Repr

/-- The word for the role in a fault. -/
def NameRole.label : NameRole → Text
  | .tag => "tag".toList
  | .attribute => "attribute".toList
  | .custom label => label

/-- Why a selector or template is malformed. The last case is for faults that a caller
finds by checks of its own. -/
inductive Reason where
  | emptyAttributeName
  | invalidName (role : NameRole) (name : Text)
  | unterminatedBracket
  | unexpected (c : Char)
  | bareMarker (marker : Marker)
  | unclosedGroup
  | emptySegment
  | custom (text : Text)
  deriving DecidableEq, Repr

/-- The wording of a reason. -/
def Reason.text : Reason → Text
  | .emptyAttributeName => "attribute name is empty".toList
  | .invalidName role name =>
    "invalid ".toList ++ role.label ++ " name '".toList ++ name ++ "'".toList
  | .unterminatedBracket => "unterminated attribute bracket".toList
  | .unexpected c => "unexpected '".toList ++ [c] ++ "'".toList
  | .bareMarker marker =>
    "'".toList ++ [marker.char] ++ "' must be followed by a name or '%'".toList
  | .unclosedGroup => "unbalanced '('".toList
  | .emptySegment => "empty segment".toList
  | .custom text => text

/-- How much of a location is shown. -/
inductive Detail where
  | user
  | developer
  deriving DecidableEq, Repr

/-- The name of a level of detail. -/
def Detail.name : Detail → Text
  | .user => "user".toList
  | .developer => "developer".toList

/-- Every level of detail, the least detailed first. -/
def Detail.all : List Detail := [.user, .developer]

/-- Where a fault was found: the selector, the segment of it and the position in it, as far
as they are known. -/
structure Location where
  selector? : Option Text
  segment? : Option Text
  offset? : Option Int
  deriving DecidableEq, Repr

namespace Location

/-- The words in front of the selector in a location. -/
def selectorLabel : Text := "  selector: ".toList

/-- A caret that stands `offset` characters to the right of the selector's first one. -/
def caretLine (offset : Int) : Text :=
  List.replicate (selectorLabel.length + offset).toNat ' ' ++ ['^']

/-- The lines of a location: the segment, and for developers the selector with a caret under
the position. -/
def lines (location : Location) (detail : Detail) : List Text :=
  let segment := location.segment?.map fun s ↦ "  in segment '".toList ++ s ++ "'".toList
  let selector := match detail, location.selector? with
    | .developer, some s =>
      (selectorLabel ++ s) :: (location.offset?.map caretLine).toList
    | _, _ => []
  segment.toList ++ selector

/-- The text of a location, one line below the other. -/
def text (location : Location) (detail : Detail) : Text :=
  ['\n'].intercalate (location.lines detail)

end Location

/-- A selector or template that does not follow the rules. -/
structure Malformed where
  selector : Text
  reason : Reason
  location? : Option Location
  deriving DecidableEq, Repr

/-- The message of a malformed selector, with its location on lines of its own. -/
def Malformed.message (fault : Malformed) (detail : Detail) : Text :=
  let location := match fault.location? with
    | some location => location.text detail
    | none => []
  "Malformed selector '".toList ++ fault.selector ++ "': ".toList ++ fault.reason.text ++
    (if location = [] then [] else '\n' :: location)

/-- A template that asks for more arguments than the `supplied` ones. -/
structure Exhausted where
  template? : Option Text
  supplied : Int
  deriving DecidableEq, Repr

/-- The message of an exhausted template. -/
def Exhausted.message (fault : Exhausted) : Text :=
  let subject := match fault.template? with
    | some template => "template '".toList ++ template ++ "'".toList
    | none => "template".toList
  "Not enough arguments for ".toList ++ subject ++ ": placeholder ".toList ++
    integerText (fault.supplied + 1) ++ " requested but only ".toList ++
    integerText fault.supplied ++ " supplied".toList

/-- Why an expansion has no result. -/
inductive Failure where
  | malformed (fault : Malformed)
  | exhausted (fault : Exhausted)
  deriving DecidableEq, Repr

end Shorthand
