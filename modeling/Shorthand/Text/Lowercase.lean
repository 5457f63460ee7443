import Shorthand.Text.CaseRanges

/-!
# Lowercasing

The full lowercase form of a text. Every letter is mapped by itself, with two exceptions:
the dotted capital I becomes two characters, and a capital sigma at the end of a word
takes its final form. A sigma ends a word if a cased character stands before it and none
after it, ignorable characters skipped on both sides.
-/

namespace Shorthand.Text

/-- Whether the run holds the code point. -/
def CaseRun.contains (run : CaseRun) (point : Nat) : Bool :=
  run.first ≤ point && point ≤ run.last && (point - run.first) % run.step == 0

/-- The lowercase form of a character whose form is a single character. -/
def lowerChar (c : Char) : Char :=
  if c.toNat < 0x80 then c.toLower
  else match caseRuns.find? (·.contains c.toNat) with
    | some run => Char.ofNat (c.toNat + run.shift).toNat
    | none => c

/-- Whether the first character of the text that counts for letter case is cased. -/
def startsCased (s : Text) : Bool :=
  match s.dropWhile caseIgnorableRanges.contains with
  | c :: _ => casedRanges.contains c
  | [] => false

/-- Lowercase form of a text that follows a cased character if `afterCased` holds. -/
def lowercaseAfter (afterCased : Bool) : Text → Text
  | [] => []
  | c :: rest =>
    let form :=
      if c = 'Σ' then [if afterCased && !startsCased rest then 'ς' else 'σ']
      else if c = 'İ' then ['i', '\u0307']
      else [lowerChar c]
    let nowCased := if caseIgnorableRanges.contains c then afterCased else casedRanges.contains c
    form ++ lowercaseAfter nowCased rest

/-- The lowercase form of a text. -/
def lowercase (s : Text) : Text := lowercaseAfter false s

end Shorthand.Text
