import Shorthand.Proofs.Segment.Reading
import Shorthand.Proofs.Template.Grammar

/-!
# Segments in both dialects

An item of a template that has no content is a segment of a path as well. The main statement is
that it is read alike in both dialects, if its decorations mean the same in both: a run that is
blank would be dropped in a path, and a bracket with a percent sign as its value would be no
placeholder there.
-/

namespace Shorthand.Template.Grammar

open Text

/-- Whether a decoration means the same in both dialects: it is a run that is not blank, or a
bracket that is no placeholder. -/
def Mark.IsShared : Mark → Prop
  | hole _ => False
  | run _ value => trim value ≠ []
  | bracket body => (Lexeme.bracket body).isHole = false

/-- Whether an item is a segment of a path as well: it has no content, and decorations that mean
the same in both dialects. -/
structure Item.IsSegment (item : Item) : Prop where
  wellFormed : item.WellFormed
  inner : item.inner = .nothing
  marks : ∀ mark ∈ item.marks, mark.IsShared

/-- The segment that an item is read as in a path. -/
def Item.pathSegment (item : Item) : Segment :=
  ⟨item.text, item.tag?, item.marks.map Mark.decoration⟩

/-- The piece of a segment that a decoration is. -/
def Mark.piece : Mark → Piece
  | hole marker => .loose marker.char
  | run marker value => .run marker value
  | bracket body => .bracket body

/-- A shared decoration is no placeholder. -/
theorem Mark.IsShared.isPlaceholder {mark : Mark} (h : mark.IsShared) :
    mark.decoration.isPlaceholder = false := by
  cases mark with
  | hole marker => exact h.elim
  | run marker value => rfl
  | bracket body =>
    have hhole : (Lexeme.bracket body).isHole = false := h
    rw [Mark.decoration, if_neg (by rw [hhole]; exact Bool.false_ne_true)]

/-- A shared decoration means as a piece what it means in a template. -/
theorem Mark.IsShared.meaning_piece {mark : Mark} (h : mark.IsShared) :
    mark.piece.meaning = some mark.decoration := by
  cases mark with
  | hole marker => exact h.elim
  | run marker value => exact if_neg h
  | bracket body =>
    have hhole : (Lexeme.bracket body).isHole = false := h
    rw [Mark.decoration, if_neg (by rw [hhole]; exact Bool.false_ne_true)]
    rfl

/-- Shared decorations mean as pieces what they mean in a template. -/
theorem meaning_map_piece {marks : List Mark} (h : ∀ mark ∈ marks, mark.IsShared) :
    (marks.map Mark.piece).filterMap Piece.meaning = marks.map Mark.decoration := by
  induction marks with
  | nil => rfl
  | cons mark marks ih =>
    have hmark := (h mark (List.mem_cons_self ..)).meaning_piece
    have hothers := ih fun m hm ↦ h m (List.mem_cons_of_mem _ hm)
    rw [List.map_cons, List.filterMap_cons, hmark, hothers]
    rfl

/-- Decorations are scanned one by one. -/
theorem scan_marksText {marks : List Mark} {rest : Text} (hfit : MarksFit rest marks)
    (h : ∀ mark ∈ marks, mark.IsShared) :
    Piece.scan (marksText marks ++ rest) = marks.map Mark.piece ++ Piece.scan rest := by
  induction marks with
  | nil => rfl
  | cons mark marks ih =>
    obtain ⟨hmark, hmarks⟩ := hfit
    have hshared := h mark (List.mem_cons_self ..)
    have hothers := ih hmarks fun m hm ↦ h m (List.mem_cons_of_mem _ hm)
    rw [marksText_cons, List.append_assoc]
    cases mark with
    | hole marker => exact hshared.elim
    | run marker value =>
      rw [Mark.text, Piece.scan_run hmark.1 hmark.2, hothers]
      rfl
    | bracket body =>
      rw [Mark.text, Piece.scan_bracket _ hmark.1 hmark.2.1, hothers]
      rfl

/-- The pieces of an item without content. -/
def Item.pieces (item : Item) : List Piece :=
  item.run.map .loose ++ (item.marks.map Mark.piece ++ item.blanks.map .loose)

section Pieces

variable {item : Item}

private theorem Item.IsSegment.loose (h : item.IsSegment) {c : Char}
    (hc : c ∈ item.run ∨ c ∈ item.blanks) :
    Marker.ofChar? c = none ∧ c ≠ openBracket ∧ c ≠ closeBracket := by
  obtain ⟨run, marks, inner, blanks⟩ := item
  obtain ⟨hfit, -, hblanks, -⟩ := h.wellFormed
  apply loose_of_isStop
  rcases hc with hc | hc
  · exact hfit.isStop_eq_false c hc
  · exact isStop_of_blanks hblanks c hc

private theorem Item.IsSegment.marksFit (h : item.IsSegment) :
    MarksFit item.blanks item.marks := by
  obtain ⟨run, marks, inner, blanks⟩ := item
  obtain ⟨⟨-, -, hmarks⟩, -, -, -⟩ := h.wellFormed
  obtain rfl : inner = .nothing := h.inner
  exact hmarks

private theorem Item.IsSegment.scan_text (h : item.IsSegment) :
    Piece.scan item.text = item.pieces := by
  have hrun := Piece.scan_loose_append (marksText item.marks ++ item.blanks) fun c hc ↦
    ⟨(h.loose (.inl hc)).1, (h.loose (.inl hc)).2.1⟩
  have hblanks := Piece.scan_loose_append [] fun c hc ↦
    ⟨(h.loose (.inr hc)).1, (h.loose (.inr hc)).2.1⟩
  have htext : item.text = item.run ++ (marksText item.marks ++ item.blanks) := by
    obtain ⟨run, marks, inner, blanks⟩ := item
    obtain rfl : inner = .nothing := h.inner
    simp [Item.text, Inner.text]
  rw [List.append_nil, Piece.scan_nil, List.append_nil] at hblanks
  rw [htext, hrun, scan_marksText h.marksFit h.marks, hblanks, Item.pieces]

private theorem Item.IsSegment.trim_leading (h : item.IsSegment) :
    trim (Piece.leading item.pieces) = trim item.run := by
  obtain ⟨run, marks, inner, blanks⟩ := item
  have hblanks : ∀ c ∈ blanks, isBlank c = true := h.wellFormed.2.2.1
  rw [Item.pieces, Piece.leading_loose_append]
  cases marks with
  | nil =>
    have hlast := Piece.leading_loose_append blanks []
    rw [List.append_nil] at hlast
    rw [List.map_nil, List.nil_append, hlast, Piece.leading_nil, List.append_nil]
    exact trim_append_right run hblanks
  | cons mark marks =>
    have hmark := h.marks mark (List.mem_cons_self ..)
    cases mark with
    | hole marker => exact hmark.elim
    | run marker value => exact congrArg trim (List.append_nil run)
    | bracket body => exact congrArg trim (List.append_nil run)

private theorem Item.IsSegment.meaning (h : item.IsSegment) :
    item.pieces.filterMap Piece.meaning = item.marks.map Mark.decoration := by
  have hloose : ∀ s : Text, (s.map Piece.loose).filterMap Piece.meaning = [] := by
    intro s
    rw [List.filterMap_map]
    exact List.filterMap_eq_nil_iff.mpr fun c hc ↦ rfl
  rw [Item.pieces, List.filterMap_append, List.filterMap_append, hloose, hloose,
    meaning_map_piece h.marks, List.append_nil, List.nil_append]

private theorem Item.IsSegment.pieces_fit (h : item.IsSegment) :
    ∀ piece ∈ item.pieces, piece.HasName ∧ piece.IsPlaced := by
  have hloose : ∀ c, c ∈ item.run ∨ c ∈ item.blanks → (Piece.loose c).HasName ∧
      (Piece.loose c).IsPlaced := fun c hc ↦ ⟨trivial, (h.loose hc).2⟩
  intro piece hpiece
  rw [Item.pieces, List.mem_append, List.mem_append, List.mem_map, List.mem_map, List.mem_map]
    at hpiece
  rcases hpiece with ⟨c, hc, rfl⟩ | ⟨mark, hmark, rfl⟩ | ⟨c, hc, rfl⟩
  · exact hloose c (.inl hc)
  · have hshared := h.marks mark hmark
    obtain ⟨after, hfits⟩ := h.marksFit.fits_of_mem hmark
    cases mark with
    | hole marker => exact hshared.elim
    | run marker value => exact ⟨trivial, trivial⟩
    | bracket body => exact ⟨hfits.2.2, trivial⟩
  · exact hloose c (.inr hc)

/-- An item without content is read alike in both dialects. -/
theorem Item.IsSegment.read (h : item.IsSegment) (selector? : Option Text)
    (offset? : Option Int) :
    Segment.read selector? offset? item.text = .ok item.pathSegment := by
  have hname : trim item.run = [] ∨ isName (trim item.run) = true := by
    obtain ⟨run, marks, inner, blanks⟩ := item
    exact h.wellFormed.1.2.1
  have hread := Segment.read_eq_ok selector? offset? h.scan_text
    (fun piece hpiece ↦ (h.pieces_fit piece hpiece).1)
    (fun piece hpiece ↦ (h.pieces_fit piece hpiece).2) (by rwa [h.trim_leading])
  rw [hread, h.trim_leading, h.meaning]
  rfl

end Pieces

end Shorthand.Template.Grammar
