import Shorthand.Proofs.Segment.Faults

/-!
# Faults in segments that stand alone

A segment may be read without the selector that it belongs to. A fault then tells another text in
place of the selector: the segment, or for an attribute name the bracket that it stands in. The main
statement says that the offset of the fault is a place in that text where what it complains about
begins, except for an attribute name whose bracket does not stand at the front of the segment: there
the offset still counts the characters of the segment.
-/

namespace Shorthand

open Text

/-- Whether a bracket is out of place in a text: those in front of it alternate, and it closes none
of them, or it opens and is not closed before another one opens. -/
def IsStray (s : Text) (place : Nat) (c : Char) : Prop :=
  (∃ o, Outline.of? (s.take place) = some o) ∧ s[place]? = some c ∧
    (c = closeBracket ∨ c = openBracket ∧ bracketBody? (s.drop (place + 1)) = none)

namespace Piece

variable {s : Text} {pieces front back : List Piece} {place : Nat} {c : Char}

/-- The last pieces of a text are those of what stands behind the others. -/
theorem scan_eq_append (h : scan s = front ++ back) : scan (back.flatMap text) = back := by
  induction front generalizing s with
  | nil => rw [← show scan s = back from h, flatMap_text_scan]
  | cons piece front ih =>
    cases s with
    | nil => exact absurd h (by simp)
    | cons c rest =>
      rw [scan_cons] at h
      exact ih (List.cons.inj h).2

/-- A loose bracket is out of place if it is the first one. -/
theorem isStray_of_looseBracket?_eq_some (h : looseBracket? (scan s) = some (place, c)) :
    IsStray s place c := by
  obtain ⟨front, back, hscan, hfront, rfl, hc⟩ := exists_pieces_of_looseBracket?_eq_some h
  have hs : s = front.flatMap text ++ c :: back.flatMap text := by
    rw [← flatMap_text_scan s, hscan, List.flatMap_append]
    rfl
  have hmem : ∀ piece ∈ front, piece ∈ scan s := fun piece hpiece ↦ by
    rw [hscan]
    exact List.mem_append_left _ hpiece
  have hplace : (front.flatMap text ++ c :: back.flatMap text)[(front.flatMap text).length]? =
      some c := getElem?_length_append ..
  refine ⟨⟨front.flatMap outline, ?_⟩, by rwa [hs], ?_⟩
  · rw [hs, List.take_left]
    exact Outline.of?_eq_some_iff.mpr
      ⟨wellFormed_outline hmem hfront, text_flatMap_outline front⟩
  · refine hc.symm.imp_right fun hopen ↦ ⟨hopen, ?_⟩
    -- Were the bracket closed before another one opens, it would be scanned with its body.
    have hbehind : scan (c :: back.flatMap text) = .loose c :: back := scan_eq_append hscan
    have hfirst := (List.cons.inj ((scan_cons c _).symm.trans hbehind)).1
    rw [hs, ← List.singleton_append, ← List.append_assoc, ← List.length_singleton (a := c),
      ← List.length_append, List.drop_left]
    cases hbody : bracketBody? (back.flatMap text) with
    | none => rfl
    | some body =>
      have hmarker : Marker.ofChar? openBracket = none := by decide
      rw [hopen, first, hmarker] at hfirst
      simp [hbody] at hfirst

end Piece

namespace Segment

/-- Whether a fault points at what it complains about, where it tells a text as the selector, a
place in it and a segment: at a bracket out of place, at a bracket that holds no attribute, or at
the front of a segment whose tag is none. -/
def PointsAt (selector : Text) (place : Nat) (segment? : Option Text) : Reason → Prop
  | .unterminatedBracket => IsStray selector place openBracket
  | .unexpected c => c = closeBracket ∧ IsStray selector place c
  | .emptyAttributeName =>
    ∃ bracket, segment? = some bracket ∧
      IsFaultyBracket selector place bracket .emptyAttributeName
  | .invalidName .attribute name =>
    ∃ bracket, segment? = some bracket ∧
      IsFaultyBracket selector place bracket (.invalidName .attribute name)
  | .invalidName .tag name =>
    isTag name = false ∧ ∃ segment, segment? = some segment ∧ StandsAt selector place segment
  | _ => False

/-- Whether a fault found somewhere for a reason points at what it complains about, if it tells both
a selector and an offset: the offset is a place in the selector, and the right one. -/
def IsLocated (location : Location) (reason : Reason) : Prop :=
  ∀ selector offset, location.selector? = some selector → location.offset? = some offset →
    ∃ place : Nat, offset = place ∧ place < selector.length ∧
      PointsAt selector place location.segment? reason

/-- A faulty bracket that is told in place of the selector is located in it only at its front. -/
theorem isLocated_bracket_iff {raw bracket name : Text} {place : Nat}
    (h : IsFaultyBracket raw place bracket (.invalidName .attribute name)) :
    IsLocated ⟨some bracket, some bracket, some place⟩ (.invalidName .attribute name) ↔
      place = 0 := by
  obtain ⟨body, hbody, rfl, hparts, -⟩ := h
  have hne : bracketed body ≠ [] := List.cons_ne_nil _ _
  constructor
  · intro hlocated
    obtain ⟨found, hplace, -, bracket, hbracket, -, -, -, -, hstands⟩ := hlocated _ _ rfl rfl
    obtain rfl := Option.some.inj hbracket
    have hle := hstands.add_length_le hne
    omega
  · rintro rfl selector offset hselector hoffset
    obtain rfl := Option.some.inj hselector
    obtain rfl := Option.some.inj hoffset
    exact ⟨0, rfl, List.length_pos_iff.mpr hne, _, rfl, body, hbody, rfl, hparts,
      List.prefix_refl _⟩

/-- A fault that tells the segment as the selector is located, if it points at something in it. -/
theorem isLocated_of_pointsAt {raw : Text} {place : Nat} {reason : Reason}
    (hplace : place < raw.length) (h : PointsAt raw place (some raw) reason) :
    IsLocated ⟨some raw, some raw, some place⟩ reason := by
  intro selector offset hselector hoffset
  obtain rfl := Option.some.inj hselector
  obtain rfl := Option.some.inj hoffset
  exact ⟨place, rfl, hplace, h⟩

/-- A bracket out of place is located. -/
theorem isLocated_of_isStray {raw : Text} {place : Nat} {c : Char} (h : IsStray raw place c) :
    IsLocated ⟨some raw, some raw, some place⟩ (looseBracketReason c) := by
  have hplace := (List.getElem?_eq_some_iff.mp h.2.1).1
  refine isLocated_of_pointsAt hplace ?_
  rcases h.2.2 with rfl | ⟨rfl, -⟩
  · exact ⟨rfl, h⟩
  · exact h

/-- A bracket without an attribute is told in place of the selector if its name is none, and no
selector is told if its name is empty. -/
theorem location?_bracketFault {body : Text} {place : Nat} {reason : Reason}
    (h : attributeParts body = .error reason) :
    reason = .emptyAttributeName ∧ (bracketFault none (some place) body reason).location? =
        some ⟨none, some (bracketed body), some place⟩ ∨
      ∃ name, reason = .invalidName .attribute name ∧
        (bracketFault none (some place) body reason).location? =
          some ⟨some (bracketed body), some (bracketed body), some place⟩ := by
  rcases reason_of_attributeParts_eq_error h with rfl | ⟨name, rfl⟩
  · exact .inl ⟨rfl, rfl⟩
  · exact .inr ⟨name, rfl, by simp [bracketFault]⟩

variable {raw : Text} {fault : Malformed}

/-- The fault of a segment that is read without a selector points at what it complains about, except
for an attribute name behind the front of the segment. There the bracket is told in place of the
selector, and the offset is the place of the bracket in the segment. -/
theorem isLocated_iff_of_read_eq_error (h : read none (some 0) raw = .error fault) :
    ∃ location, fault.location? = some location ∧
      (IsLocated location fault.reason ↔
        ∀ name, fault.reason = .invalidName .attribute name → location.offset? = some 0) ∧
      ∀ name, fault.reason = .invalidName .attribute name →
        ∃ (place : Nat) (bracket : Text), location = ⟨some bracket, some bracket, some place⟩ ∧
          IsFaultyBracket raw place bracket fault.reason := by
  have hbehind : ∀ place : Nat, positionBehind (some 0) place = some (place : Int) := by
    simp [positionBehind]
  rcases read_eq_error_cases h with hdecorations | ⟨place, c, hloose, rfl⟩ | ⟨name, hname, rfl⟩
  · obtain ⟨place, body, reason, hmem, hparts, hstands, rfl⟩ :=
      Piece.exists_bracket_of_decorations_eq_error hdecorations
    rw [Piece.flatMap_text_scan] at hstands
    rw [hbehind]
    have hfaulty : IsFaultyBracket raw place (bracketed body) reason :=
      ⟨body, Piece.wellFormed_of_bracket_mem_scan hmem, rfl, hparts, hstands⟩
    rcases @location?_bracketFault body place reason hparts with ⟨rfl, hlocation⟩ |
      ⟨name, rfl, hlocation⟩
    · have hreason : ∀ name, Reason.emptyAttributeName ≠ .invalidName .attribute name := by simp
      refine ⟨_, hlocation, ⟨fun _ name hname ↦ absurd hname (hreason name), ?_⟩,
        fun name hname ↦ absurd hname (hreason name)⟩
      exact fun _ selector _ hselector ↦ absurd hselector.symm (Option.some_ne_none selector)
    · refine ⟨_, hlocation, (isLocated_bracket_iff hfaulty).trans ?_,
        fun other _ ↦ ⟨place, bracketed body, rfl, hfaulty⟩⟩
      simp [bracketFault]
  · have hlocated := isLocated_of_isStray (Piece.isStray_of_looseBracket?_eq_some hloose)
    have hreason : ∀ name, looseBracketReason c ≠ .invalidName .attribute name := by
      intro name
      rw [looseBracketReason]
      split <;> simp
    rw [Option.getD_none, hbehind]
    exact ⟨_, rfl, ⟨fun _ name hname ↦ absurd hname (hreason name), fun _ ↦ hlocated⟩,
      fun name hname ↦ absurd hname (hreason name)⟩
  · have hne : raw ≠ [] := by
      rintro rfl
      have hok : read none (some 0) [] = .ok ⟨[], none, []⟩ := rfl
      exact ok_ne_error (hok.symm.trans h)
    have hpoints : PointsAt raw 0 (some raw) (.invalidName .tag name) :=
      ⟨hname, raw, rfl, List.prefix_refl raw⟩
    have hreason : ∀ other, Reason.invalidName .tag name ≠ .invalidName .attribute other := by simp
    exact ⟨_, rfl, ⟨fun _ other hother ↦ absurd hother (hreason other),
      fun _ ↦ isLocated_of_pointsAt (List.length_pos_iff.mpr hne) hpoints⟩,
      fun other hother ↦ absurd hother (hreason other)⟩

/-- Behind brackets that alternate, the first one out of place is pointed at. -/
theorem isLocated_iff_of_read_eq_error_stray :
    read none (some 0) "p[a=1].b]c[".toList = .error ⟨"p[a=1].b]c[".toList, .unexpected ']',
        some ⟨some "p[a=1].b]c[".toList, some "p[a=1].b]c[".toList, some 8⟩⟩ ∧
      IsLocated ⟨some "p[a=1].b]c[".toList, some "p[a=1].b]c[".toList, some 8⟩
        (.unexpected ']') := by
  have hread : read none (some 0) "p[a=1].b]c[".toList =
      .error ⟨"p[a=1].b]c[".toList, .unexpected ']',
        some ⟨some "p[a=1].b]c[".toList, some "p[a=1].b]c[".toList, some 8⟩⟩ :=
    eq_error_of_fault? (by decide +kernel)
  obtain ⟨location, hlocation, hlocated, -⟩ := isLocated_iff_of_read_eq_error hread
  obtain rfl := Option.some.inj hlocation
  exact ⟨hread, hlocated.mpr fun name hname ↦ absurd hname (by simp)⟩

/-- The bracket of an attribute name that is none is told in place of the segment, with an offset
that is no place in it. -/
theorem not_isLocated_of_bracket_behind :
    ∃ fault location, read none (some 0) "table[b c]".toList = .error fault ∧
      fault.location? = some location ∧ location.selector? = some "[b c]".toList ∧
      location.offset? = some 5 ∧ ¬IsLocated location fault.reason := by
  refine ⟨⟨"[b c]".toList, .invalidName .attribute "b c".toList,
    some ⟨some "[b c]".toList, some "[b c]".toList, some 5⟩⟩, _,
      eq_error_of_fault? (by decide +kernel), rfl, rfl, rfl, fun hlocated ↦ ?_⟩
  obtain ⟨place, hplace, hlt, -⟩ := hlocated _ _ rfl rfl
  obtain rfl : 5 = place := Int.ofNat.inj hplace
  exact absurd hlt (by decide)

end Segment
end Shorthand
