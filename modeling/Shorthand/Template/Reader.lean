import Shorthand.Segment.Bracket
import Shorthand.Template.Forest

/-!
# Reading templates

A template is a group: items with a plus sign between them. An item is a stretch without
marks, which holds the tag, then decorations, then a placeholder or a group in parentheses.
Readers take the text that is left and give back what remains of it; a fault tells where it
was found and how far reading had come as such remainders.
-/

namespace Shorthand.Template

open Text

/-- A fault in a template. The first remainder begins where the fault is, the second where
reading stopped. A fault in a bracket tells the bracket. -/
structure Fault where
  reason : Reason
  place : Text
  reached : Text
  segment? : Option Text
  deriving DecidableEq, Repr

/-- A fault found where reading stopped. -/
def Fault.here (reason : Reason) (place : Text) : Fault := ⟨reason, place, place, none⟩

/-- Whether a character ends the stretch in front of the decorations of an item. -/
def isStop (c : Char) : Bool := "#.[]()+%".toList.contains c

/-- The parts of an item in front of its content: the tag and the decorations. -/
structure Head where
  tag? : Option Text
  decorations : List Decoration
  deriving DecidableEq, Repr

/-- A decoration from an attribute in brackets. A value that is a percent sign between blanks
is a placeholder. -/
def attributeDecoration (name : Text) (value? : Option Text) : Decoration :=
  if value?.map trim = some [placeholderMark] then ⟨.attribute name, none, true⟩
  else ⟨.attribute name, value?, false⟩

/-- Read an attribute in brackets, where `rest` follows the opening bracket. The bracket has to
be closed before another one opens. -/
def readAttribute (rest : Text) : Except Fault (Decoration × Text) :=
  match bracketBody? rest with
  | none => .error (.here .unterminatedBracket (openBracket :: rest))
  | some body =>
    let after := rest.drop (body.length + 1)
    match attributeParts body with
    | .ok (name, value?) => .ok (attributeDecoration name value?, after)
    | .error reason => .error ⟨reason, openBracket :: rest, after, some (bracketed body)⟩

/-- Read the value of an id or class, where `rest` follows the marker: a placeholder, or the
longest run. -/
def readMarked (marker : Marker) (rest : Text) : Except Fault (Decoration × Text) :=
  match rest with
  | '%' :: after => .ok (⟨marker.target, some [placeholderMark], true⟩, after)
  | _ =>
    match rest.takeWhile isRunChar with
    | [] => .error (.here (.bareMarker marker) (marker.char :: rest))
    | value => .ok (⟨marker.target, some (trim value), false⟩, rest.dropWhile isRunChar)

/-- Read the decoration that a text begins with, if it begins with one. -/
def readDecoration (s : Text) : Except Fault (Option (Decoration × Text)) :=
  match s with
  | [] => .ok none
  | c :: rest =>
    match Marker.ofChar? c with
    | some marker => (readMarked marker rest).map some
    | none => if c = openBracket then (readAttribute rest).map some else .ok none

/-- Read the decorations that a text begins with, at most `bound` of them. The length of the
text is always bound enough. -/
def readDecorations : Nat → Text → Except Fault (List Decoration × Text)
  | 0, s => .ok ([], s)
  | bound + 1, s => do
    match ← readDecoration s with
    | none => return ([], s)
    | some (decoration, rest) =>
      let (others, rest) ← readDecorations bound rest
      return (decoration :: others, rest)

/-- Read the head of an item. -/
def readHead (s : Text) : Except Fault (Head × Text) := do
  let start := trimStart s
  let tag := trim (start.takeWhile (!isStop ·))
  if tag ≠ [] ∧ !isName tag then .error (.here (.invalidName .tag tag) start)
  else do
    let rest := start.dropWhile (!isStop ·)
    let (decorations, rest) ← readDecorations rest.length rest
    return (⟨if tag = [] then none else some tag, decorations⟩, rest)

/-- Read the content of an item by the given reader of groups. -/
def readContent (readGroup : Text → Except Fault (Forest × Text)) (s : Text) :
    Except Fault (Content × Text) :=
  match s with
  | '%' :: rest => .ok (.hole, rest)
  | '(' :: inside => do
    match ← readGroup inside with
    | (children, ')' :: rest) => return (.group children, rest)
    | (_, rest) => .error (.here .unclosedGroup rest)
  | _ => .ok (.empty, s)

/-- Read an item by the given reader of groups, up to the mark behind it. -/
def readItem (readGroup : Text → Except Fault (Forest × Text)) (s : Text) :
    Except Fault ((Segment × Content) × Text) := do
  let (head, afterHead) ← readHead s
  let (content, afterContent) ← readContent readGroup afterHead
  let rest := trimStart afterContent
  let raw := trim (before s rest)
  if raw = [] then .error (.here .emptySegment rest)
  else return ((⟨raw, head.tag?, head.decorations⟩, content), rest)

/-- Read a group of items, nested or side by side at most `bound` deep. The length of the text
is always bound enough. -/
def readGroup : Nat → Text → Except Fault (Forest × Text)
  | 0, s => .error (.here .emptySegment s)
  | bound + 1, s => do
    let ((segment, content), rest) ← readItem (readGroup bound) s
    match rest with
    | '+' :: following =>
      let (next, rest) ← readGroup bound following
      return (.item segment content next, rest)
    | _ => return (.item segment content .nil, rest)

/-- Read a text to its end. What is left is what has not been read: all of a blank text, which has
no items. -/
def readForest (s : Text) : Except Fault (Forest × Text) :=
  if isBlankText s then .ok (.nil, s)
  else do
    let (forest, rest) ← readGroup s.length s
    match rest with
    | [] => return (forest, rest)
    | c :: _ => .error (.here (.unexpected c) rest)

/-- A fault as a malformed template, with positions counted from its beginning. -/
def Fault.malformed (template : Text) (fault : Fault) : Malformed where
  selector := template
  reason := fault.reason
  location? := some
    { selector? := some template
      segment? := fault.segment?
      offset? := some (template.length - fault.place.length) }

/-- A reader of one template, of which the characters in front of the position have been read. It
may be run any number of times. -/
structure Reader where
  template : Text
  position : Nat
  deriving DecidableEq, Repr

namespace Reader

/-- A reader that has not been run. -/
def ofTemplate (template : Text) : Reader := ⟨template, 0⟩

/-- What has not been read yet. -/
def remaining (reader : Reader) : Text := reader.template.drop reader.position

/-- The reader when only `rest` has not been read. -/
def leaving (reader : Reader) (rest : Text) : Reader :=
  { reader with position := reader.template.length - rest.length }

/-- The reader with everything still to be read. -/
def reset (reader : Reader) : Reader := { reader with position := 0 }

/-- Read on from where the reader stands, up to the end or to where a fault stops it. -/
def readOn (reader : Reader) : Except Malformed Forest × Reader :=
  match readForest reader.remaining with
  | .ok (forest, rest) => (.ok forest, reader.leaving rest)
  | .error fault => (.error (fault.malformed reader.template), reader.leaving fault.reached)

/-- Run the reader from the beginning of its template, wherever it stands. -/
def run (reader : Reader) : Except Malformed Forest × Reader := reader.reset.readOn

end Reader

/-- The forest that a template stands for. -/
def parse (template : Text) : Except Malformed Forest := (Reader.ofTemplate template).run.1

namespace Reader

/-- A run reads the whole template. -/
theorem run_eq (reader : Reader) :
    reader.run = match readForest reader.template with
      | .ok (forest, rest) => (.ok forest, reader.leaving rest)
      | .error fault => (.error (fault.malformed reader.template), reader.leaving fault.reached) :=
  rfl

/-- A run ends with a reader of the same template. -/
theorem template_run (reader : Reader) : reader.run.2.template = reader.template := by
  rw [run_eq]
  split <;> rfl

/-- A run does what a reader of the same template does that has not been run. -/
theorem run_eq_run_ofTemplate (reader : Reader) :
    reader.run = (ofTemplate reader.template).run := rfl

end Reader

/-- A template stands for the forest that it is read as. -/
theorem parse_eq_ok_iff_exists {template : Text} {forest : Forest} :
    parse template = .ok forest ↔ ∃ rest, readForest template = .ok (forest, rest) := by
  rw [parse, Reader.run_eq, Reader.ofTemplate]
  cases readForest template with
  | error fault => simp
  | ok found => simp [Prod.ext_iff]

/-- A template is malformed by the fault that reading it fails with. -/
theorem parse_eq_error_iff_exists {template : Text} {malformed : Malformed} :
    parse template = .error malformed ↔
      ∃ fault, readForest template = .error fault ∧ malformed = fault.malformed template := by
  rw [parse, Reader.run_eq, Reader.ofTemplate]
  cases readForest template with
  | error fault => simp [eq_comm]
  | ok found => simp

end Shorthand.Template
