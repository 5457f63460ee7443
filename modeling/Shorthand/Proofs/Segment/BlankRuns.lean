import Shorthand.Proofs.Segment.Language

/-!
# Blank runs in segments

A marker with nothing but spaces behind it means nothing in a segment. The main statement is that a
segment without the marker and the spaces is read as with them, if a decoration or nothing follows.
-/

namespace Shorthand

open Text

namespace Piece

/-- A text without brackets out of place is scanned apart from what is behind it, if this does not
go on with a run. -/
theorem scan_append {a b : Text} (hplaced : ∀ piece ∈ scan a, piece.IsPlaced)
    (hbehind : ∀ c ∈ b.head?, isRunChar c = false) : scan (a ++ b) = scan a ++ scan b := by
  induction a using scan_induction with
  | nil => rfl
  | cons c rest ih =>
    rw [scan_cons] at hplaced
    have hothers := ih fun piece hpiece ↦ hplaced piece (List.mem_cons_of_mem _ hpiece)
    have hhere := hplaced _ (List.mem_cons_self ..)
    rw [scan_cons c rest, List.cons_append, List.cons_append, ← hothers]
    rcases first_cases c rest with ⟨marker, value, after, hfirst, rfl, hne, rfl, hstretch⟩ |
      ⟨body, after, hfirst, rfl, hbody, rfl⟩ | ⟨hfirst, hmarker⟩
    · have hrun : IsStretch isRunChar value (after ++ b) := by
        refine ⟨hstretch.1, fun d hd ↦ ?_⟩
        cases after with
        | nil => exact hbehind d hd
        | cons e after => exact hstretch.2 d hd
      have hscan : scan (marker.char :: value ++ (after ++ b)) = _ := scan_run hne hrun
      rw [hfirst]
      simpa [text] using hscan
    · have hscan := scan_bracket (after ++ b) hbody.1 hbody.2
      rw [hfirst]
      simpa [text, bracketed] using hscan
    · rw [hfirst] at hhere ⊢
      refine scan_text_append (.loose c) (rest ++ b) rfl ?_
      cases hc : Marker.ofChar? c with
      | none => simp [first, hc, hhere.1]
      | some marker =>
        have hrest := hmarker marker (Marker.ofChar?_eq_some_iff.mp hc)
        have hnone : (rest ++ b).takeWhile isRunChar = [] := by
          cases rest with
          | nil =>
            have hstretch : IsStretch isRunChar [] b := ⟨by simp, hbehind⟩
            exact hstretch.takeWhile_eq
          | cons d rest => simpa [List.takeWhile_cons] using hrest
        simp [first, hc, hnone]

/-- Pieces in front of others are led by the same characters, if nothing leads the others. -/
theorem leading_append {pieces others : List Piece} (h : leading others = []) :
    leading (pieces ++ others) = leading pieces := by
  induction pieces with
  | nil => exact h
  | cons piece pieces ih =>
    cases piece with
    | loose c => exact congrArg (c :: ·) ih
    | run marker value => rfl
    | bracket body => rfl

end Piece

namespace Segment

variable {raw front back spaces : Text} {marker : Marker}

/-- A segment that names a tag is not blank. -/
theorem isBlankText_of_tag (h : (ofText raw).tag? ≠ none) : isBlankText raw = false := by
  rw [← Bool.not_eq_true, ← trim_eq_nil_iff]
  intro hblank
  apply h
  have hloose : ∀ c ∈ raw, Marker.ofChar? c = none ∧ c ≠ openBracket := by
    intro c hc
    have hblank : isBlank c = true := List.all_eq_true.mp ((trim_eq_nil_iff raw).mp hblank) c hc
    have hne : ∀ m, isBlank m = false → c ≠ m := by
      rintro m hm rfl
      rw [hm] at hblank
      exact absurd hblank Bool.false_ne_true
    exact ⟨Marker.ofChar?_eq_none_iff.mpr ⟨hne '#' (by decide), hne '.' (by decide)⟩,
      hne openBracket (by decide)⟩
  have hscan := Piece.scan_loose_append [] hloose
  have hleading := Piece.leading_loose_append raw []
  rw [List.append_nil, Piece.scan_nil, List.append_nil] at hscan
  rw [Piece.leading_nil, List.append_nil, List.append_nil] at hleading
  rw [ofText, hscan, hleading]
  exact if_pos hblank

/-- What begins with a decoration has nothing in front of it and goes on with no run. -/
theorem leading_of_beginsDecoration (h : beginsDecoration back = true)
    (hplaced : ∀ piece ∈ Piece.scan back, piece.IsPlaced) :
    Piece.leading (Piece.scan back) = [] ∧ ∀ c ∈ back.head?, isRunChar c = false := by
  cases back with
  | nil => exact absurd h Bool.false_ne_true
  | cons c back =>
    refine ⟨by rw [leading_scan hplaced, front, if_pos h], fun d hd ↦ ?_⟩
    obtain rfl : c = d := by simpa using hd
    have hc : c = openBracket ∨ c = '#' ∨ c = '.' := by
      simp only [beginsDecoration, Bool.or_eq_true, Bool.and_eq_true, decide_eq_true_eq]
        at h
      exact h.imp id And.left
    rcases hc with rfl | rfl | rfl <;> decide +kernel

/-- A segment without a marker and the spaces behind it can be read exactly if it can be read with
them, and has the same tag and decorations, if nothing or a decoration follows. -/
theorem blankRun_deleted (hfront : ∃ o, Outline.of? front = some o)
    (hback : ∃ o, Outline.of? back = some o) (hne : spaces ≠ []) (hspaces : ∀ c ∈ spaces, c = ' ')
    (hbehind : back = [] ∨ beginsDecoration back = true) :
    (Readable (front ++ (marker.char :: spaces ++ back)) ↔ Readable (front ++ back)) ∧
      (ofText (front ++ (marker.char :: spaces ++ back))).tag? = (ofText (front ++ back)).tag? ∧
      (ofText (front ++ (marker.char :: spaces ++ back))).decorations =
        (ofText (front ++ back)).decorations := by
  obtain ⟨o, ho⟩ := hfront
  obtain ⟨o', ho'⟩ := hback
  have hplaced := (Piece.of?_eq_some_iff_isPlaced.mp ho).1
  obtain ⟨hleading, hhead⟩ : Piece.leading (Piece.scan back) = [] ∧
      ∀ c ∈ back.head?, isRunChar c = false := by
    rcases hbehind with rfl | hbegins
    · exact ⟨rfl, by simp⟩
    · exact leading_of_beginsDecoration hbegins (Piece.of?_eq_some_iff_isPlaced.mp ho').1
  have hrun : IsStretch isRunChar spaces back :=
    ⟨fun c hc ↦ by rw [hspaces c hc]; decide +kernel, hhead⟩
  have hmarker : isRunChar marker.char = false := by cases marker <;> decide +kernel
  have hwith : Piece.scan (front ++ (marker.char :: spaces ++ back)) =
      Piece.scan front ++ .run marker spaces :: Piece.scan back := by
    rw [Piece.scan_append hplaced, Piece.scan_run hne hrun]
    simpa using hmarker
  have hwithout : Piece.scan (front ++ back) = Piece.scan front ++ Piece.scan back :=
    Piece.scan_append hplaced hhead
  have hlead : Piece.leading (Piece.scan front ++ .run marker spaces :: Piece.scan back) =
      Piece.leading (Piece.scan front ++ Piece.scan back) := by
    rw [Piece.leading_append rfl, Piece.leading_append hleading]
  refine ⟨?_, ?_, ?_⟩
  · have hreadable : ∀ raw, Readable raw ↔ (∀ piece ∈ Piece.scan raw, piece.HasName) ∧
        (∀ piece ∈ Piece.scan raw, piece.IsPlaced) ∧
          isTag (trim (Piece.leading (Piece.scan raw))) = true :=
      fun raw ↦ ⟨fun h ↦ ⟨h.hasName, h.isPlaced, h.isTag⟩, fun h ↦ ⟨h.1, h.2.1, h.2.2⟩⟩
    rw [hreadable, hreadable, hwith, hwithout, hlead]
    simp only [List.forall_mem_append, List.forall_mem_cons, Piece.HasName, Piece.IsPlaced,
      true_and]
  · rw [ofText, ofText, hwith, hwithout, hlead]
  · have hnone : Piece.meaning (.run marker spaces) = none :=
      if_pos (trim_of_spaces hspaces)
    rw [ofText, ofText, hwith, hwithout, List.filterMap_append, List.filterMap_append,
      List.filterMap_cons_none hnone]

end Segment
end Shorthand
