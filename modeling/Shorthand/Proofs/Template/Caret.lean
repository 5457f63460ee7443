import Shorthand.Proofs.Template.Faults
import Shorthand.Proofs.Text.Lines

/-!
# The caret under a fault

For developers a fault is shown with the template and a caret on a line below it, which is meant to
stand under the character that is complained about. The main statement says for which templates it
does: for all of a single line, while in any other the caret counts the characters of all lines but
stands under the last one.
-/

namespace Shorthand

namespace Text

/-- Whether the last line of a text is a caret behind spaces, under a character of the line above
it. -/
def HasCaretUnder (s : Text) (c : Char) : Prop :=
  ∃ front above column, lines s = front ++ [above, List.replicate column ' ' ++ ['^']] ∧
    above[column]? = some c

/-- Which character a caret stands under is seen from the last two lines. -/
theorem hasCaretUnder_iff {s : Text} {front : List Text} {above : Text} {column : Nat} {c : Char}
    (h : lines s = front ++ [above, List.replicate column ' ' ++ ['^']]) :
    HasCaretUnder s c ↔ above[column]? = some c := by
  constructor
  · rintro ⟨front', above', column', h', hc⟩
    obtain ⟨-, hlast⟩ := List.append_inj' (h.symm.trans h') rfl
    obtain ⟨rfl, hcaret⟩ := List.cons.inj hlast
    have hlength := congrArg List.length (List.cons.inj hcaret).1
    simp only [List.length_append, List.length_replicate, Nat.add_right_cancel_iff] at hlength
    rwa [hlength]
  · exact fun hc ↦ ⟨front, above, column, h, hc⟩

end Text

open Text

namespace Location

variable {location : Location} {selector : Text} {place : Nat}

/-- For developers a location ends with the last line of the selector and a caret below it. -/
theorem exists_lines_text (hselector : location.selector? = some selector)
    (hoffset : location.offset? = some (place : Int)) :
    ∃ front, Text.lines (location.text .developer) =
      front ++ [lastLine (selectorLabel ++ selector),
        List.replicate (selectorLabel.length + place) ' ' ++ ['^']] := by
  obtain ⟨_, segment?, _⟩ := location
  obtain rfl := hselector
  obtain rfl := hoffset
  have hcaret : '\n' ∉ caretLine place := by simp [caretLine]
  have hcolumn : caretLine place = List.replicate (selectorLabel.length + place) ' ' ++ ['^'] := rfl
  obtain ⟨front, hfront⟩ := exists_lines_eq (selectorLabel ++ selector)
  let segment := segment?.map fun s ↦ "  in segment '".toList ++ s ++ "'".toList
  have hlines : Location.lines ⟨some selector, segment?, some place⟩ .developer =
      segment.toList ++ [selectorLabel ++ selector, caretLine place] := rfl
  refine ⟨segment.toList.flatMap Text.lines ++ front, ?_⟩
  rw [text, hlines, lines_intercalate (by simp), List.flatMap_append, List.flatMap_cons,
    List.flatMap_singleton, lines_of_not_mem hcaret, hfront, hcolumn]
  simp only [List.append_assoc, List.cons_append, List.nil_append]

end Location

namespace Template

variable {template : Text} {fault : Malformed}

/-- The fault of a template is shown to developers with a caret behind spaces as the last line. The
caret stands under the character that is complained about if the template is a single line. In any
other template the line above is the last line of the template, so that the caret stands under that
character only if the same one happens to stand there. -/
theorem hasCaretUnder_iff_of_parse_eq_error (h : parse template = .error fault) :
    ∃ (location : Location) (place : Nat), fault.location? = some location ∧
      location.offset? = some (place : Int) ∧ place ≤ template.length ∧
      (∃ front, Text.lines (location.text .developer) =
        front ++ [if '\n' ∈ template then lastLine template else Location.selectorLabel ++ template,
          List.replicate (Location.selectorLabel.length + place) ' ' ++ ['^']]) ∧
      ∀ c, template[place]? = some c →
        (HasCaretUnder (location.text .developer) c ↔
          '\n' ∉ template ∨
            (lastLine template)[Location.selectorLabel.length + place]? = some c) := by
  obtain ⟨-, place, segment?, hle, hlocation, -⟩ := exists_pointsAt_of_parse_eq_error h
  let location : Location := ⟨some template, segment?, some place⟩
  have hlast : lastLine (Location.selectorLabel ++ template) =
      if '\n' ∈ template then lastLine template else Location.selectorLabel ++ template := by
    split
    · next hbreak => exact lastLine_append _ hbreak
    · next hbreak =>
      have hlabel : '\n' ∉ Location.selectorLabel := by decide
      exact lastLine_of_not_mem fun hmem ↦ (List.mem_append.mp hmem).elim hlabel hbreak
  obtain ⟨front, hlines⟩ := location.exists_lines_text rfl rfl
  rw [hlast] at hlines
  refine ⟨location, place, hlocation, rfl, hle, ⟨front, hlines⟩, fun c hc ↦ ?_⟩
  rw [hasCaretUnder_iff hlines]
  split
  · next hbreak => simp [hbreak]
  · next hbreak =>
    rw [List.getElem?_append_right (Nat.le_add_right ..), Nat.add_sub_cancel_left]
    simp [hbreak, hc]

/-- In a template of one line the caret stands under the bracket that is not closed. -/
theorem hasCaretUnder_iff_of_parse_eq_error_line :
    ∃ fault location, parse "a(b+ [c=(]+d[e".toList = .error fault ∧
      fault.location? = some location ∧ location.offset? = some 12 ∧
      HasCaretUnder (location.text .developer) '[' := by
  have hparse : parse "a(b+ [c=(]+d[e".toList = .error ⟨"a(b+ [c=(]+d[e".toList,
      .unterminatedBracket, some ⟨some "a(b+ [c=(]+d[e".toList, none, some 12⟩⟩ :=
    eq_error_of_fault? (by decide +kernel)
  obtain ⟨location, place, hlocation, hoffset, -, -, hcaret⟩ :=
    hasCaretUnder_iff_of_parse_eq_error hparse
  obtain rfl := Option.some.inj hlocation
  obtain rfl : 12 = place := Int.ofNat.inj (Option.some.inj hoffset)
  exact ⟨_, _, hparse, rfl, rfl, (hcaret '[' (by decide)).mpr (.inl (by decide))⟩

/-- In a template of two lines nothing stands above the caret. -/
theorem not_hasCaretUnder_of_lineBreak :
    ∃ fault location, parse "p\n+[x".toList = .error fault ∧
      fault.location? = some location ∧ location.offset? = some 3 ∧
      "p\n+[x".toList[3]? = some '[' ∧ ¬HasCaretUnder (location.text .developer) '[' := by
  have hparse : parse "p\n+[x".toList = .error ⟨"p\n+[x".toList, .unterminatedBracket,
      some ⟨some "p\n+[x".toList, none, some 3⟩⟩ := eq_error_of_fault? (by decide +kernel)
  have hlines : Text.lines (Location.text ⟨some "p\n+[x".toList, none, some 3⟩ .developer) =
      ["  selector: p".toList] ++ ["+[x".toList, List.replicate 15 ' ' ++ ['^']] := by
    decide +kernel
  refine ⟨_, _, hparse, rfl, rfl, by decide, ?_⟩
  rw [hasCaretUnder_iff hlines]
  decide

end Template
end Shorthand
