import Shorthand.Proofs.Segment.BlankRuns
import Shorthand.Proofs.Segment.Faults
import Shorthand.Proofs.Template.Grammar

/-!
# The layout of segments

A segment as it is written, with everything that reading forgets: the text in front of its
decorations, the decorations, and the text that is skipped behind each of them. The main statement
says that a segment that can be read has one layout only, and that its tag and its decorations are
those of the layout.
-/

namespace Shorthand

open Text

namespace Decoration

/-- The id or the class that a decoration adds, or the name of its attribute. -/
def label? (d : Decoration) : Option Text :=
  match d.target with
  | .attribute name => some name
  | _ => d.value?

end Decoration

namespace Segment

/-- A decoration as it is written in a segment: a marker with a run behind it, or a bracket. -/
inductive Mark where
  | run (marker : Marker) (value : Text)
  | bracket (body : Text)
  deriving DecidableEq, Repr

namespace Mark

/-- The text of a written decoration. -/
def text : Mark → Text
  | run marker value => marker.char :: value
  | bracket body => bracketed body

/-- Whether a decoration is well formed in front of a text: the run behind a marker is not empty
and as long as it can be, and a bracket holds no other bracket. -/
def Fits (after : Text) : Mark → Prop
  | run _ value => value ≠ [] ∧ IsStretch isRunChar value after
  | bracket body => openBracket ∉ body ∧ closeBracket ∉ body

/-- The body of a bracket is searched for brackets, and the end of a run is looked for in `after`.
-/
instance (after : Text) : (mark : Mark) → Decidable (mark.Fits after)
  | run _ value => inferInstanceAs (Decidable (value ≠ [] ∧ IsStretch isRunChar value after))
  | bracket body => inferInstanceAs (Decidable (openBracket ∉ body ∧ closeBracket ∉ body))

/-- Whether a decoration is a marker with nothing but spaces behind it. -/
def isBlankRun : Mark → Bool
  | run _ value => value.all (· = ' ')
  | bracket _ => false

/-- The decoration that is meant. -/
def decoration : Mark → Decoration
  | run marker value => ⟨marker.target, some (trim value), false⟩
  | bracket body => ⟨.attribute (trim (cutAt '=' body).1), (cutAt '=' body).2, false⟩

/-- The piece that a decoration is scanned as. -/
def piece : Mark → Piece
  | run marker value => .run marker value
  | bracket body => .bracket body

/-- The piece that a decoration is scanned as has its text. -/
@[simp] theorem text_piece (mark : Mark) : mark.piece.text = mark.text := by
  cases mark <;> rfl

/-- Every decoration begins with a character that goes on with no run. -/
theorem exists_text_eq_cons (mark : Mark) :
    ∃ c tail, mark.text = c :: tail ∧ isRunChar c = false := by
  rcases mark with ⟨marker | marker, value⟩ | body
  all_goals exact ⟨_, _, rfl, by decide +kernel⟩

/-- A decoration is scanned as one piece, if it is well formed in front of what follows. -/
theorem Fits.scan {mark : Mark} {after : Text} (h : mark.Fits after) :
    Piece.scan (mark.text ++ after) = mark.piece :: Piece.scan after := by
  cases mark with
  | run marker value => exact Piece.scan_run h.1 h.2
  | bracket body => exact Piece.scan_bracket after h.1 h.2

/-- Nothing is left of a run once it is trimmed exactly if it holds nothing but spaces. -/
theorem isBlankRun_run_iff {marker : Marker} {value : Text}
    (h : ∀ c ∈ value, isRunChar c = true) :
    (run marker value).isBlankRun = true ↔ trim value = [] := by
  rw [isBlankRun, trim_eq_nil_iff, isBlankText, List.all_eq_true, List.all_eq_true]
  refine forall₂_congr fun c hc ↦ ?_
  rw [decide_eq_true_eq]
  by_cases hspace : c = ' '
  · simp [hspace, isBlank_space]
  · simp [hspace, Template.Grammar.isBlank_of_isRunChar (h c hc) hspace]

/-- What a decoration is scanned as means the decoration, unless it is a blank run. -/
theorem Fits.meaning {mark : Mark} {after : Text} (h : mark.Fits after) :
    mark.piece.meaning = if mark.isBlankRun then none else some mark.decoration := by
  cases mark with
  | bracket body => rfl
  | run marker value =>
    have hblank := @isBlankRun_run_iff marker value h.2.1
    rw [piece, Piece.meaning, decoration]
    by_cases htrim : trim value = []
    · rw [if_pos htrim, if_pos (hblank.mpr htrim)]
    · rw [if_neg htrim, if_neg (mt hblank.mp htrim)]

end Mark

/-- Whether a text is skipped: it holds no bracket, and no marker with a character of a run directly
behind it. -/
def IsSkipped (s : Text) : Prop :=
  closeBracket ∉ s ∧ ∀ t, t <:+ s → beginsDecoration t = false

/-- The empty text is skipped. -/
@[simp] theorem isSkipped_nil : IsSkipped [] := by
  simp [IsSkipped, beginsDecoration]

/-- A text is skipped exactly if its first character is no closing bracket and begins no decoration,
and the rest is skipped. -/
@[simp] theorem isSkipped_cons {c : Char} {s : Text} :
    IsSkipped (c :: s) ↔
      c ≠ closeBracket ∧ beginsDecoration (c :: s) = false ∧ IsSkipped s := by
  simp only [IsSkipped, List.mem_cons, not_or, List.suffix_cons_iff, forall_eq_or_imp]
  constructor
  · exact fun ⟨⟨hc, hclose⟩, hbegins, hothers⟩ ↦ ⟨Ne.symm hc, hbegins, hclose, hothers⟩
  · exact fun ⟨hc, hbegins, hclose, hothers⟩ ↦ ⟨⟨Ne.symm hc, hclose⟩, hbegins, hothers⟩

/-- A text is checked character by character. -/
instance decidableIsSkipped : (s : Text) → Decidable (IsSkipped s)
  | [] => .isTrue isSkipped_nil
  | _ :: s =>
    have := decidableIsSkipped s
    decidable_of_iff _ isSkipped_cons.symm

/-- The text of decorations, each with what is skipped behind it. -/
def partsText (parts : List (Mark × Text)) : Text := parts.flatMap fun part ↦ part.1.text ++ part.2

/-- Whether decorations are well formed, and nothing but skipped text stands behind each. -/
def PartsFit : List (Mark × Text) → Prop
  | [] => True
  | (mark, skipped) :: parts =>
    mark.Fits (skipped ++ partsText parts) ∧ IsSkipped skipped ∧ PartsFit parts

/-- Decorations are checked one by one, each with the text behind it. -/
instance decidablePartsFit : (parts : List (Mark × Text)) → Decidable (PartsFit parts)
  | [] => .isTrue trivial
  | (mark, skipped) :: parts =>
    have := decidablePartsFit parts
    inferInstanceAs (Decidable
      (mark.Fits (skipped ++ partsText parts) ∧ IsSkipped skipped ∧ PartsFit parts))

/-- The layout of a segment: the text in front of its decorations, and each decoration with the
text that is skipped behind it. -/
structure Layout where
  lead : Text
  parts : List (Mark × Text)
  deriving DecidableEq, Repr

namespace Layout

/-- The text of a layout. -/
def text (layout : Layout) : Text := layout.lead ++ partsText layout.parts

/-- Whether a layout shows every decoration that its text holds. -/
def WellFormed (layout : Layout) : Prop := IsSkipped layout.lead ∧ PartsFit layout.parts

/-- A layout is checked in front of its decorations, and then among them. -/
instance (layout : Layout) : Decidable layout.WellFormed :=
  inferInstanceAs (Decidable (IsSkipped layout.lead ∧ PartsFit layout.parts))

/-- The decorations that are meant: those in the layout, apart from blank runs. -/
def decorations (layout : Layout) : List Decoration :=
  ((layout.parts.map Prod.fst).filter (!·.isBlankRun)).map Mark.decoration

/-- The pieces that a layout is scanned as. -/
def pieces (layout : Layout) : List Piece :=
  layout.lead.map .loose ++
    layout.parts.flatMap fun part ↦ part.1.piece :: part.2.map .loose

/-- The layout that pieces make up. -/
def ofPieces : List Piece → Layout
  | [] => ⟨[], []⟩
  | .loose c :: pieces => ⟨c :: (ofPieces pieces).lead, (ofPieces pieces).parts⟩
  | .run marker value :: pieces =>
    ⟨[], (.run marker value, (ofPieces pieces).lead) :: (ofPieces pieces).parts⟩
  | .bracket body :: pieces =>
    ⟨[], (.bracket body, (ofPieces pieces).lead) :: (ofPieces pieces).parts⟩

/-! ### Layouts and pieces -/

/-- A decoration among pieces begins a part of its own. -/
theorem ofPieces_piece (mark : Mark) (pieces : List Piece) :
    ofPieces (mark.piece :: pieces) =
      ⟨[], (mark, (ofPieces pieces).lead) :: (ofPieces pieces).parts⟩ := by
  cases mark <;> rfl

/-- Loose characters are put in front of the layout of the pieces behind them. -/
theorem ofPieces_loose_append (s : Text) (pieces : List Piece) :
    ofPieces (s.map .loose ++ pieces) = ⟨s ++ (ofPieces pieces).lead, (ofPieces pieces).parts⟩ := by
  induction s with
  | nil => rfl
  | cons c s ih => rw [List.map_cons, List.cons_append, ofPieces, ih]; rfl

/-- A layout is made up by its pieces. -/
theorem ofPieces_pieces (layout : Layout) : ofPieces layout.pieces = layout := by
  obtain ⟨lead, parts⟩ := layout
  have hparts : ofPieces (parts.flatMap fun part ↦ part.1.piece :: part.2.map .loose) =
      ⟨[], parts⟩ := by
    induction parts with
    | nil => rfl
    | cons part parts ih =>
      rw [List.flatMap_cons, List.cons_append, ofPieces_piece, ofPieces_loose_append, ih,
        List.append_nil]
  rw [pieces, ofPieces_loose_append, hparts, List.append_nil]

/-- Pieces are those of the layout that they make up. -/
theorem pieces_ofPieces (pieces : List Piece) : (ofPieces pieces).pieces = pieces := by
  induction pieces with
  | nil => rfl
  | cons piece pieces ih =>
    cases piece with
    | loose c => exact congrArg (.loose c :: ·) ih
    | run marker value => exact congrArg (.run marker value :: ·) ih
    | bracket body => exact congrArg (.bracket body :: ·) ih

/-- The pieces of a layout put together are its text. -/
theorem flatMap_text_pieces (layout : Layout) : layout.pieces.flatMap Piece.text = layout.text := by
  have hloose : ∀ s : Text, (s.map Piece.loose).flatMap Piece.text = s := by
    intro s
    rw [List.flatMap_map]
    exact List.flatMap_singleton' s
  rw [pieces, List.flatMap_append, hloose, text, partsText, List.flatMap_assoc]
  simp only [List.flatMap_cons, Mark.text_piece, hloose]

/-! ### Scanning a layout -/

variable {s rest : Text} {layout : Layout}

/-- Skipped text is scanned character by character. -/
theorem scan_of_isSkipped (h : IsSkipped s) : Piece.scan s = s.map .loose := by
  induction s with
  | nil => rfl
  | cons c s ih =>
    obtain ⟨-, hbegins, hothers⟩ := isSkipped_cons.mp h
    have hfirst := (beginsDecoration_eq_false_iff.mp hbegins).1
    exact (Piece.scan_text_append (.loose c) s rfl hfirst).trans (congrArg _ (ih hothers))

/-- No bracket in skipped text is out of place. -/
theorem isPlaced_of_isSkipped (h : IsSkipped s) : ∀ piece ∈ s.map Piece.loose, piece.IsPlaced := by
  intro piece hpiece
  obtain ⟨c, hc, rfl⟩ := List.mem_map.mp hpiece
  refine ⟨fun hopen ↦ ?_, fun hclose ↦ h.1 (hclose ▸ hc)⟩
  obtain ⟨front, back, rfl⟩ := List.append_of_mem hc
  have hbegins := h.2 (c :: back) (List.suffix_append ..)
  exact (beginsDecoration_eq_false_iff.mp hbegins).2 hopen

/-- The text of parts goes on with no run. -/
theorem isRunChar_head_partsText (parts : List (Mark × Text)) :
    ∀ c ∈ (partsText parts).head?, isRunChar c = false := by
  cases parts with
  | nil => exact fun c hc ↦ absurd hc (Option.not_mem_none c)
  | cons part parts =>
    obtain ⟨c, tail, htext, hc⟩ := part.1.exists_text_eq_cons
    intro d hd
    rw [partsText, List.flatMap_cons, htext] at hd
    exact Option.some.inj hd ▸ hc

/-- Skipped text in front of parts is scanned apart from them. -/
theorem scan_skipped_append (h : IsSkipped s) (parts : List (Mark × Text)) :
    Piece.scan (s ++ partsText parts) = s.map .loose ++ Piece.scan (partsText parts) := by
  have hscan := scan_of_isSkipped h
  have hplaced := isPlaced_of_isSkipped h
  rw [← hscan] at hplaced ⊢
  exact Piece.scan_append hplaced (isRunChar_head_partsText parts)

/-- The text of a well-formed layout is scanned as the pieces of the layout. -/
theorem WellFormed.scan_text (h : layout.WellFormed) : Piece.scan layout.text = layout.pieces := by
  obtain ⟨lead, parts⟩ := layout
  obtain ⟨hlead, hparts⟩ := h
  have hscan : Piece.scan (partsText parts) =
      parts.flatMap fun part ↦ part.1.piece :: part.2.map .loose := by
    clear hlead
    induction parts with
    | nil => rfl
    | cons part parts ih =>
      obtain ⟨mark, skipped⟩ := part
      obtain ⟨hmark, hskipped, hothers⟩ := hparts
      rw [partsText, List.flatMap_cons, ← partsText, List.append_assoc, hmark.scan,
        scan_skipped_append hskipped, ih hothers, List.flatMap_cons]
      rfl
  rw [text, scan_skipped_append hlead, hscan, pieces]

/-- No bracket in the text of a well-formed layout is out of place. -/
theorem WellFormed.isPlaced (h : layout.WellFormed) :
    ∀ piece ∈ Piece.scan layout.text, piece.IsPlaced := by
  rw [h.scan_text]
  obtain ⟨lead, parts⟩ := layout
  obtain ⟨hlead, hparts⟩ := h
  refine List.forall_mem_append.mpr ⟨isPlaced_of_isSkipped hlead, ?_⟩
  clear hlead
  induction parts with
  | nil => exact fun piece hpiece ↦ absurd hpiece List.not_mem_nil
  | cons part parts ih =>
    obtain ⟨mark, skipped⟩ := part
    obtain ⟨-, hskipped, hothers⟩ := hparts
    have hmark : mark.piece.IsPlaced := by cases mark <;> trivial
    rw [List.flatMap_cons]
    exact List.forall_mem_append.mpr
      ⟨List.forall_mem_cons.mpr ⟨hmark, isPlaced_of_isSkipped hskipped⟩, ih hothers⟩

/-- The text of the layout of scanned pieces is what was scanned. -/
theorem text_ofPieces_scan (s : Text) : (ofPieces (Piece.scan s)).text = s := by
  rw [← flatMap_text_pieces, pieces_ofPieces, Piece.flatMap_text_scan]

/-- Pieces that were scanned make up a well-formed layout, if no bracket among them is out of
place. -/
theorem wellFormed_ofPieces (h : ∀ piece ∈ Piece.scan s, piece.IsPlaced) :
    (ofPieces (Piece.scan s)).WellFormed := by
  induction s using Piece.scan_induction with
  | nil => exact ⟨isSkipped_nil, trivial⟩
  | cons c rest ih =>
    rw [Piece.scan_cons] at h ⊢
    obtain ⟨hlead, hparts⟩ := ih fun piece hpiece ↦ h piece (List.mem_cons_of_mem _ hpiece)
    have htext := text_ofPieces_scan (rest.drop ((Piece.first c rest).text.length - 1))
    rcases Piece.first_cases c rest with ⟨marker, value, after, hfirst, rfl, hne, rfl, hvalue⟩ |
      ⟨body, after, hfirst, rfl, hbody, rfl⟩ | ⟨hfirst, hmarker⟩
    · rw [hfirst] at hlead hparts htext ⊢
      have hbehind : (value ++ after).drop ((Piece.run marker value).text.length - 1) = after := by
        simp [Piece.text]
      rw [hbehind] at hlead hparts htext ⊢
      rw [text] at htext
      exact ⟨isSkipped_nil, ⟨hne, by rwa [htext]⟩, hlead, hparts⟩
    · rw [hfirst] at hlead hparts ⊢
      exact ⟨isSkipped_nil, hbody, hlead, hparts⟩
    · have hplaced := h (Piece.first c rest) (List.mem_cons_self ..)
      rw [hfirst] at hlead hparts htext hplaced ⊢
      have hbehind : rest.drop ((Piece.loose c).text.length - 1) = rest := rfl
      rw [hbehind] at hlead hparts htext ⊢
      refine ⟨isSkipped_cons.mpr ⟨hplaced.2, ?_, hlead⟩, hparts⟩
      -- What leads the rest is a beginning of it, so a run that begins there begins the rest.
      have hbegins := beginsDecoration_eq_false_iff.mpr ⟨hfirst, hplaced.1⟩
      rw [← htext, text] at hbegins
      cases hs : (ofPieces (Piece.scan rest)).lead with
      | nil => simp [beginsDecoration, hplaced.1]
      | cons d lead => simpa [hs, beginsDecoration] using hbegins

/-- A text whose brackets are in place has exactly one layout. -/
theorem wellFormed_and_text_eq_iff (h : ∀ piece ∈ Piece.scan s, piece.IsPlaced) :
    layout.WellFormed ∧ layout.text = s ↔ layout = ofPieces (Piece.scan s) := by
  constructor
  · rintro ⟨hwf, rfl⟩
    rw [hwf.scan_text, ofPieces_pieces]
  · rintro rfl
    exact ⟨wellFormed_ofPieces h, text_ofPieces_scan s⟩

/-! ### What a layout means -/

/-- What leads the pieces of a layout leads the layout. -/
theorem leading_pieces (layout : Layout) : Piece.leading layout.pieces = layout.lead := by
  obtain ⟨lead, parts⟩ := layout
  rw [pieces, Piece.leading_loose_append]
  rcases parts with _ | ⟨⟨marker, value⟩ | body, skipped⟩
  all_goals exact List.append_nil lead

/-- Only the decorations in a layout mean anything. -/
theorem filterMap_meaning_pieces (layout : Layout) :
    layout.pieces.filterMap Piece.meaning =
      layout.parts.filterMap fun part ↦ part.1.piece.meaning := by
  obtain ⟨lead, parts⟩ := layout
  have hloose : ∀ s : Text, (s.map Piece.loose).filterMap Piece.meaning = [] := by
    intro s
    simp [List.filterMap_map, Piece.meaning]
  rw [pieces, List.filterMap_append, hloose, List.nil_append]
  induction parts with
  | nil => rfl
  | cons part parts ih =>
    rw [List.flatMap_cons, List.filterMap_append, ih, List.filterMap_cons, hloose,
      List.filterMap_cons]
    cases part.1.piece.meaning <;> rfl

/-- The marks of a well-formed layout mean its decorations. -/
theorem WellFormed.filterMap_meaning (h : layout.WellFormed) :
    (layout.parts.filterMap fun part ↦ part.1.piece.meaning) = layout.decorations := by
  obtain ⟨lead, parts⟩ := layout
  rw [decorations]
  obtain ⟨-, hparts⟩ := h
  induction parts with
  | nil => rfl
  | cons part parts ih =>
    obtain ⟨mark, skipped⟩ := part
    obtain ⟨hmark, -, hothers⟩ := hparts
    rw [List.filterMap_cons, hmark.meaning, ih hothers, List.map_cons, List.filter_cons]
    cases mark.isBlankRun <;> rfl

/-- The segment that the text of a well-formed layout means. -/
theorem WellFormed.ofText_text (h : layout.WellFormed) :
    ofText layout.text = ⟨layout.text, tagOf? layout.lead, layout.decorations⟩ := by
  rw [ofText, h.scan_text, leading_pieces, filterMap_meaning_pieces, h.filterMap_meaning]

/-- The pieces of a layout have names exactly if its decorations do. -/
theorem forall_hasName_pieces_iff (layout : Layout) :
    (∀ piece ∈ layout.pieces, piece.HasName) ↔ ∀ part ∈ layout.parts, part.1.piece.HasName := by
  have hloose : ∀ s : Text, ∀ piece ∈ s.map Piece.loose, piece.HasName := by
    intro s piece hpiece
    obtain ⟨c, -, rfl⟩ := List.mem_map.mp hpiece
    trivial
  rw [pieces, List.forall_mem_append]
  constructor
  · rintro ⟨-, hparts⟩ part hpart
    exact hparts _ (List.mem_flatMap.mpr ⟨part, hpart, List.mem_cons_self ..⟩)
  · refine fun hparts ↦ ⟨hloose layout.lead, fun piece hpiece ↦ ?_⟩
    obtain ⟨part, hpart, hpiece⟩ := List.mem_flatMap.mp hpiece
    rcases List.mem_cons.mp hpiece with rfl | hpiece
    · exact hparts part hpart
    · exact hloose part.2 piece hpiece

/-- The text of a well-formed layout can be read exactly if every bracket in it has a name, and what
leads it is a tag between blanks. -/
theorem WellFormed.readable_iff (h : layout.WellFormed) :
    Readable layout.text ↔
      (∀ part ∈ layout.parts, part.1.piece.HasName) ∧ isTag (trim layout.lead) = true := by
  rw [← forall_hasName_pieces_iff, ← leading_pieces layout, ← h.scan_text]
  exact ⟨fun hread ↦ ⟨hread.hasName, hread.isTag⟩, fun ⟨hname, htag⟩ ↦ ⟨hname, h.isPlaced, htag⟩⟩

end Layout

/-- Every decoration that a piece means has a label, which is not empty and is trimmed. -/
theorem exists_label_of_meaning {piece : Piece} {d : Decoration} (h : piece.HasName)
    (hd : piece.meaning = some d) : ∃ s, d.label? = some (trim s) ∧ trim s ≠ [] := by
  cases piece with
  | loose c => exact absurd hd.symm (Option.some_ne_none d)
  | run marker value =>
    rw [Piece.meaning] at hd
    split at hd
    · exact absurd hd.symm (Option.some_ne_none d)
    · next hne =>
      obtain rfl := Option.some.inj hd
      cases marker <;> exact ⟨value, rfl, hne⟩
  | bracket body =>
    obtain rfl := Option.some.inj hd
    exact ⟨_, rfl, (isName_iff.mp h).1⟩

/-- A text that can be read has exactly one layout. -/
theorem Readable.exists_layout {raw : Text} (h : Readable raw) :
    ∃ layout : Layout, ∀ other : Layout, other.WellFormed ∧ other.text = raw ↔ other = layout :=
  ⟨_, fun _ ↦ Layout.wellFormed_and_text_eq_iff h.isPlaced⟩

/-- A segment that can be read has exactly one layout. Its tag is what leads the layout, once that
is trimmed, or the default one if nothing is left, and its decorations are those of the layout.
Every id, class and attribute name among them is not empty and has no blank at either end. -/
theorem read_layout {selector? : Option Text} {offset? : Option Int} {raw : Text}
    {segment : Segment} (h : read selector? offset? raw = .ok segment) :
    ∃ layout : Layout, (∀ other : Layout, other.WellFormed ∧ other.text = raw ↔ other = layout) ∧
      (∀ default, segment.tag default =
        if trim layout.lead = [] then default else trim layout.lead) ∧
      segment.decorations = layout.decorations ∧
      ∀ d ∈ segment.decorations, ∃ label, d.label? = some label ∧ label ≠ [] ∧
        (∀ c ∈ label.head?, isBlank c = false) ∧ ∀ c ∈ label.getLast?, isBlank c = false := by
  obtain ⟨hreadable, rfl⟩ := read_eq_ok_iff.mp h
  obtain ⟨layout, honly⟩ := hreadable.exists_layout
  obtain ⟨hwf, rfl⟩ := (honly layout).mpr rfl
  have hmeaning := hwf.ofText_text
  refine ⟨layout, honly, fun default ↦ ?_, by rw [hmeaning], fun d hd ↦ ?_⟩
  · rw [hmeaning, Segment.tag, tagOf?]
    split <;> rfl
  · obtain ⟨piece, hpiece, hd⟩ := List.mem_filterMap.mp hd
    obtain ⟨s, hlabel, hne⟩ := exists_label_of_meaning (hreadable.hasName piece hpiece) hd
    exact ⟨trim s, hlabel, hne, head?_trim s, getLast?_trim s⟩

/-- Markers in a bracket and among skipped text begin no decoration, and a blank run means none. -/
theorem read_layout_skipped :
    ∃ segment, read none (some 0) "p# .b c[href=#x.y]!.# d[on]".toList = .ok segment ∧
      (∀ other : Layout, other.WellFormed ∧ other.text = "p# .b c[href=#x.y]!.# d[on]".toList ↔
        other = ⟨"p".toList, [(.run .hash " ".toList, []), (.run .dot "b c".toList, []),
          (.bracket "href=#x.y".toList, "!.".toList), (.run .hash " d".toList, []),
          (.bracket "on".toList, [])]⟩) ∧
      segment.decorations = [⟨.classes, some "b c".toList, false⟩,
        ⟨.attribute "href".toList, some "#x.y".toList, false⟩, ⟨.ids, some "d".toList, false⟩,
        ⟨.attribute "on".toList, none, false⟩] := by
  let segment : Segment := ⟨"p# .b c[href=#x.y]!.# d[on]".toList, some "p".toList,
    [⟨.classes, some "b c".toList, false⟩,
      ⟨.attribute "href".toList, some "#x.y".toList, false⟩, ⟨.ids, some "d".toList, false⟩,
      ⟨.attribute "on".toList, none, false⟩]⟩
  have hread : read none (some 0) segment.raw = .ok segment := eq_ok_of_toOption (by decide +kernel)
  obtain ⟨layout, honly, -, -, -⟩ := read_layout hread
  obtain rfl := (honly ⟨"p".toList, [(.run .hash " ".toList, []), (.run .dot "b c".toList, []),
    (.bracket "href=#x.y".toList, "!.".toList), (.run .hash " d".toList, []),
    (.bracket "on".toList, [])]⟩).mp (by decide +kernel)
  exact ⟨segment, hread, honly, rfl⟩

end Segment
end Shorthand
