import Shorthand.Proofs.Text.Stretch
import Shorthand.Segment.Reader

/-!
# Reading segments

What scanning makes of the parts of a segment, and what reading makes of its pieces. The main
statement is that a segment is read if its brackets have names and its tag is one, and gives the
tag and the decorations that the pieces mean.
-/

namespace Shorthand

open Text

namespace Piece

/-! ### Scanning -/

/-- A first piece is followed by the pieces of the text behind it. -/
theorem scan_text_append (piece : Piece) {c : Char} {tail : Text} (rest : Text)
    (htext : piece.text = c :: tail) (hfirst : first c (tail ++ rest) = piece) :
    scan (piece.text ++ rest) = piece :: scan rest := by
  have hdrop : (tail ++ rest).drop (piece.text.length - 1) = rest := by
    rw [htext, List.length_cons, Nat.add_sub_cancel, List.drop_left]
  rw [htext, List.cons_append, scan_cons, hfirst, hdrop]

/-- A character that begins no decoration is loose. -/
theorem scan_loose {c : Char} (rest : Text) (hmarker : Marker.ofChar? c = none)
    (hopen : c ≠ openBracket) : scan (c :: rest) = .loose c :: scan rest := by
  apply scan_text_append (.loose c) rest rfl
  simp [first, hmarker, hopen]

/-- A marker takes the whole run behind it. -/
theorem scan_run {marker : Marker} {value rest : Text} (hne : value ≠ [])
    (h : IsStretch isRunChar value rest) :
    scan (marker.char :: value ++ rest) = .run marker value :: scan rest := by
  have hmarker : Marker.ofChar? marker.char = some marker := Marker.ofChar?_eq_some_iff.mpr rfl
  apply scan_text_append (.run marker value) rest rfl
  rw [first, hmarker]
  simp only [h.takeWhile_eq]

/-- A bracket that holds no other bracket is a piece. -/
theorem scan_bracket {body : Text} (rest : Text) (hopen : openBracket ∉ body)
    (hclose : closeBracket ∉ body) :
    scan (bracketed body ++ rest) = .bracket body :: scan rest := by
  have hmarker : Marker.ofChar? openBracket = none := by decide
  have hbody : bracketBody? (body ++ closeBracket :: rest) = some body :=
    bracketBody?_eq_some_iff.mpr ⟨hopen, hclose, rest, rfl⟩
  apply scan_text_append (.bracket body) rest rfl
  simp [first, hmarker, hbody]

/-- Characters that begin no decoration are loose one by one. -/
theorem scan_loose_append {s : Text} (rest : Text)
    (h : ∀ c ∈ s, Marker.ofChar? c = none ∧ c ≠ openBracket) :
    scan (s ++ rest) = s.map .loose ++ scan rest := by
  induction s with
  | nil => rfl
  | cons c s ih =>
    obtain ⟨hmarker, hopen⟩ := h c (List.mem_cons_self ..)
    have hothers := ih fun d hd ↦ h d (List.mem_cons_of_mem _ hd)
    rw [List.cons_append, scan_loose _ hmarker hopen, hothers]
    rfl

/-! ### What pieces mean -/

/-- The decoration that a piece stands for. A run of spaces stands for none. -/
def meaning : Piece → Option Decoration
  | run marker value =>
    if trim value = [] then none else some ⟨marker.target, some (trim value), false⟩
  | bracket body => some ⟨.attribute (trim (cutAt '=' body).1), (cutAt '=' body).2, false⟩
  | loose _ => none

/-- Whether a piece that is a bracket has a name in it. -/
def HasName : Piece → Prop
  | bracket body => isName (trim (cutAt '=' body).1) = true
  | _ => True

/-- Whether a piece is no bracket out of place. -/
def IsPlaced : Piece → Prop
  | loose c => c ≠ openBracket ∧ c ≠ closeBracket
  | _ => True

/-- A piece whose bracket has a name contributes what it means. -/
theorem decoration?_eq_ok {piece : Piece} (selector? : Option Text) (offset? : Option Int)
    (h : piece.HasName) : piece.decoration? selector? offset? = .ok piece.meaning := by
  cases piece with
  | run marker value => rfl
  | bracket body =>
    have hname : isName (trim (cutAt '=' body).1) = true := h
    have hne : trim (cutAt '=' body).1 ≠ [] := (isName_iff.mp hname).1
    have hparts : attributeParts body = .ok (trim (cutAt '=' body).1, (cutAt '=' body).2) := by
      simp [attributeParts, hne, hname]
    rw [decoration?, readBracket, hparts]
    rfl
  | loose c => rfl

/-- Pieces contribute what they mean, wherever they stand. -/
theorem decorations_eq_ok {pieces : List Piece} (selector? : Option Text) (offset? : Option Int)
    (h : ∀ piece ∈ pieces, piece.HasName) :
    decorations selector? offset? pieces = .ok (pieces.filterMap meaning) := by
  induction pieces generalizing offset? with
  | nil => rfl
  | cons piece pieces ih =>
    have hpiece := decoration?_eq_ok selector? offset? (h piece (List.mem_cons_self ..))
    have hothers := fun offset? ↦ ih offset? fun p hp ↦ h p (List.mem_cons_of_mem _ hp)
    rw [decorations, hpiece]
    simp only [bind, Except.bind, hothers, pure, Except.pure, List.filterMap_cons]
    cases piece.meaning <;> rfl

/-- No bracket is found where none is out of place. -/
theorem looseBracket?_eq_none {pieces : List Piece} (h : ∀ piece ∈ pieces, piece.IsPlaced) :
    looseBracket? pieces = none := by
  induction pieces with
  | nil => rfl
  | cons piece pieces ih =>
    have hothers := ih fun p hp ↦ h p (List.mem_cons_of_mem _ hp)
    have hpiece := h piece (List.mem_cons_self ..)
    rw [looseBracket?, hothers]
    cases piece with
    | run marker value => rfl
    | bracket body => rfl
    | loose c => simp [loose?, hpiece.1, hpiece.2]

/-- No loose characters lead an empty list of pieces. -/
@[simp] theorem leading_nil : leading [] = [] := rfl

/-- Loose characters lead the pieces behind them. -/
theorem leading_loose_append (s : Text) (pieces : List Piece) :
    leading (s.map .loose ++ pieces) = s ++ leading pieces := by
  induction s with
  | nil => rfl
  | cons c s ih => exact congrArg (c :: ·) ih

end Piece

namespace Segment

/-- A segment is read from its pieces if every bracket is in place and has a name, and what leads
the pieces is blank or a name between blanks. -/
theorem read_eq_ok {raw : Text} {pieces : List Piece} (selector? : Option Text)
    (offset? : Option Int) (hscan : Piece.scan raw = pieces)
    (hnames : ∀ piece ∈ pieces, piece.HasName) (hplaced : ∀ piece ∈ pieces, piece.IsPlaced)
    (htag : trim (Piece.leading pieces) = [] ∨ isName (trim (Piece.leading pieces)) = true) :
    read selector? offset? raw =
      .ok ⟨raw, if trim (Piece.leading pieces) = [] then none
        else some (trim (Piece.leading pieces)), pieces.filterMap Piece.meaning⟩ := by
  have htag' : readTag (selector?.getD raw) offset? raw (Piece.leading pieces) =
      .ok (if trim (Piece.leading pieces) = [] then none
        else some (trim (Piece.leading pieces))) := by
    rcases htag with hempty | hname
    · simp [readTag, hempty]
    · have hne : trim (Piece.leading pieces) ≠ [] := (isName_iff.mp hname).1
      have hsplice : trim (Piece.leading pieces) ≠ spliceTag := by
        intro heq
        rw [heq] at hname
        exact absurd hname (by decide +kernel)
      simp [readTag, hne, hsplice, checkName_of_isName, hname, Except.map]
  simp only [read, hscan, Piece.decorations_eq_ok _ _ hnames, Piece.looseBracket?_eq_none hplaced,
    bind, Except.bind, htag', pure, Except.pure]

end Segment
end Shorthand
