import Shorthand.Proofs.Outcome
import Shorthand.Proofs.Outline
import Shorthand.Proofs.Segment.Reading

/-!
# The language of segments

Which texts can be read as segments. The main statements say that reading either fails or gives
what the pieces of the text mean, wherever the segment stands, and that it succeeds exactly if the
brackets of the text alternate and have names, and what stands in front of the decorations is a
tag.
-/

namespace Shorthand

open Text

namespace Piece

/-! ### Reading pieces -/

/-- A piece can be read exactly if it is no bracket without a name, and contributes what it
means. -/
theorem decoration?_eq_ok_iff {selector? : Option Text} {offset? : Option Int} {piece : Piece}
    {d? : Option Decoration} :
    piece.decoration? selector? offset? = .ok d? ↔ piece.HasName ∧ d? = piece.meaning := by
  by_cases h : piece.HasName
  · rw [decoration?_eq_ok selector? offset? h, Except.ok.injEq, eq_comm]
    exact ⟨fun hd ↦ ⟨h, hd⟩, fun hd ↦ hd.2⟩
  · refine ⟨fun hd ↦ ?_, fun hd ↦ absurd hd.1 h⟩
    cases piece with
    | run marker value => exact absurd trivial h
    | loose c => exact absurd trivial h
    | bracket body =>
      have hname : ¬ isName (trim (cutAt '=' body).1) = true := h
      have hparts : ∃ reason, attributeParts body = .error reason := by
        simp only [attributeParts, hname]
        split
        · exact ⟨_, rfl⟩
        · exact ⟨_, rfl⟩
      obtain ⟨reason, hreason⟩ := hparts
      rw [decoration?, readBracket, hreason] at hd
      exact absurd hd.symm ok_ne_error

/-- Pieces can be read exactly if every bracket has a name, and contribute what they mean. -/
theorem decorations_eq_ok_iff {selector? : Option Text} {offset? : Option Int}
    {pieces : List Piece} {ds : List Decoration} :
    decorations selector? offset? pieces = .ok ds ↔
      (∀ piece ∈ pieces, piece.HasName) ∧ ds = pieces.filterMap meaning := by
  refine ⟨fun h ↦ ?_, fun h ↦ h.2 ▸ decorations_eq_ok selector? offset? h.1⟩
  have hnames : ∀ piece ∈ pieces, piece.HasName := by
    induction pieces generalizing offset? ds with
    | nil => exact fun piece hpiece ↦ absurd hpiece List.not_mem_nil
    | cons piece pieces ih =>
      obtain ⟨here, hhere, h⟩ := bind_eq_ok_iff.mp h
      obtain ⟨others, hothers, -⟩ := bind_eq_ok_iff.mp h
      intro p hp
      rcases List.mem_cons.mp hp with rfl | hp
      · exact (decoration?_eq_ok_iff.mp hhere).1
      · exact ih hothers p hp
  rw [decorations_eq_ok _ _ hnames] at h
  exact ⟨hnames, (Except.ok.inj h).symm⟩

/-- No bracket is found exactly if none is out of place. -/
theorem looseBracket?_eq_none_iff {pieces : List Piece} :
    looseBracket? pieces = none ↔ ∀ piece ∈ pieces, piece.IsPlaced := by
  refine ⟨fun h ↦ ?_, looseBracket?_eq_none⟩
  induction pieces with
  | nil => exact fun piece hpiece ↦ absurd hpiece List.not_mem_nil
  | cons piece pieces ih =>
    rw [looseBracket?] at h
    cases piece with
    | run marker value => simpa [IsPlaced, loose?] using ih (by simpa [loose?] using h)
    | bracket body => simpa [IsPlaced, loose?] using ih (by simpa [loose?] using h)
    | loose c =>
      by_cases hc : c = openBracket ∨ c = closeBracket
      · simp [loose?, hc] at h
      · have hothers := ih (by simpa [loose?, hc] using h)
        rw [not_or] at hc
        intro p hp
        rcases List.mem_cons.mp hp with rfl | hp
        · exact hc
        · exact hothers p hp

end Piece

namespace Segment

/-- Whether a text may stand where the tag of a segment does: nothing, the splice tag or a name. -/
def isTag (t : Text) : Bool := t = [] || t = spliceTag || isName t

/-- The tag that a text in front of decorations names, if it names one. -/
def tagOf? (leading : Text) : Option Text :=
  if trim leading = [] then none else some (trim leading)

/-- Whether a text can be read as a segment: no bracket is out of place or without a name, and what
leads the pieces is a tag between blanks. -/
structure Readable (raw : Text) : Prop where
  hasName : ∀ piece ∈ Piece.scan raw, piece.HasName
  isPlaced : ∀ piece ∈ Piece.scan raw, piece.IsPlaced
  isTag : isTag (trim (Piece.leading (Piece.scan raw))) = true

/-- The segment that the pieces of a text mean. -/
def ofText (raw : Text) : Segment :=
  ⟨raw, tagOf? (Piece.leading (Piece.scan raw)), (Piece.scan raw).filterMap Piece.meaning⟩

private theorem readTag_eq_ok_iff {selector raw leading : Text} {offset? : Option Int}
    {tag? : Option Text} :
    readTag selector offset? raw leading = .ok tag? ↔
      isTag (trim leading) = true ∧ tag? = tagOf? leading := by
  rw [readTag, tagOf?, isTag]
  by_cases hempty : trim leading = []
  · simp [hempty, eq_comm]
  · by_cases hsplice : trim leading = spliceTag
    · have hne : spliceTag ≠ [] := by decide
      simp [hsplice, hne, eq_comm]
    · cases hname : isName (trim leading) with
      | true => simp [hempty, hsplice, hname, checkName_of_isName, Except.map, eq_comm]
      | false => simp [hempty, hsplice, hname, checkName_of_not_isName, Except.map]

/-- A segment is read as what its pieces mean, wherever it stands, if it can be read. -/
theorem read_eq_ok_iff {selector? : Option Text} {offset? : Option Int} {raw : Text}
    {segment : Segment} :
    read selector? offset? raw = .ok segment ↔ Readable raw ∧ segment = ofText raw := by
  have htag : ∀ tag?, readTag (selector?.getD raw) offset? raw (Piece.leading (Piece.scan raw)) =
      .ok tag? ↔ isTag (trim (Piece.leading (Piece.scan raw))) = true ∧
        tag? = tagOf? (Piece.leading (Piece.scan raw)) := fun tag? ↦ readTag_eq_ok_iff
  constructor
  · intro h
    obtain ⟨ds, hds, h⟩ := bind_eq_ok_iff.mp h
    obtain ⟨hnames, rfl⟩ := Piece.decorations_eq_ok_iff.mp hds
    cases hloose : Piece.looseBracket? (Piece.scan raw) with
    | some found =>
      rw [hloose] at h
      exact absurd h nofun
    | none =>
      rw [hloose] at h
      obtain ⟨tag?, hread, h⟩ := bind_eq_ok_iff.mp h
      obtain ⟨hisTag, rfl⟩ := (htag tag?).mp hread
      exact ⟨⟨hnames, Piece.looseBracket?_eq_none_iff.mp hloose, hisTag⟩, (Except.ok.inj h).symm⟩
  · rintro ⟨hread, rfl⟩
    have hdecorations := Piece.decorations_eq_ok selector? offset? hread.hasName
    refine bind_eq_ok_iff.mpr ⟨_, hdecorations, ?_⟩
    rw [Piece.looseBracket?_eq_none hread.isPlaced]
    exact bind_eq_ok_iff.mpr ⟨_, (htag _).mpr ⟨hread.isTag, rfl⟩, rfl⟩

end Segment

/-! ### Pieces and outlines -/

namespace Piece

variable {s : Text} {o : Outline}

/-- The outline of a piece. -/
def outline : Piece → Outline
  | run marker value => .plain marker.char :: Outline.plains value
  | bracket body => [.bracket body]
  | loose c => [.plain c]

/-- The outline of a piece stands for its text. -/
theorem text_outline (piece : Piece) : Outline.text piece.outline = piece.text := by
  cases piece <;> simp [outline, text, Lexeme.text]

/-- What holds for a text if it holds for what is behind its first piece holds for every text. -/
@[elab_as_elim]
theorem scan_induction {motive : Text → Prop} (nil : motive [])
    (cons : ∀ c rest, motive (rest.drop ((first c rest).text.length - 1)) → motive (c :: rest))
    (s : Text) : motive s := by
  induction h : s.length using Nat.strongRecOn generalizing s with
  | ind n ih =>
    cases s with
    | nil => exact nil
    | cons c rest =>
      have hshort : (rest.drop ((first c rest).text.length - 1)).length < n := by
        rw [List.length_drop]
        rw [List.length_cons] at h
        omega
      exact cons c rest (ih _ hshort _ rfl)

/-- The outlines of pieces stand for their texts. -/
theorem text_flatMap_outline (pieces : List Piece) :
    Outline.text (pieces.flatMap outline) = pieces.flatMap text := by
  induction pieces with
  | nil => rfl
  | cons piece pieces ih =>
    rw [List.flatMap_cons, List.flatMap_cons, Outline.text_append, text_outline, ih]

/-- No character of a run is a bracket. -/
theorem ne_bracket_of_isRunChar {c : Char} (h : isRunChar c = true) :
    c ≠ openBracket ∧ c ≠ closeBracket := by
  constructor
  · rintro rfl
    exact absurd h (by decide +kernel)
  · rintro rfl
    exact absurd h (by decide +kernel)

/-- A first piece is a marker with the run behind it, a bracket that closes before another one
opens, or a loose character. -/
theorem first_cases (c : Char) (rest : Text) :
    (∃ marker value after, first c rest = .run marker value ∧ c = marker.char ∧ value ≠ [] ∧
        rest = value ++ after ∧ IsStretch isRunChar value after) ∨
      (∃ body after, first c rest = .bracket body ∧ c = openBracket ∧
        Lexeme.WellFormed (.bracket body) ∧ rest = body ++ closeBracket :: after) ∨
      first c rest = .loose c ∧
        ∀ marker, c = Marker.char marker → rest.takeWhile isRunChar = [] := by
  cases hmarker : Marker.ofChar? c with
  | some marker =>
    have hc : c = marker.char := Marker.ofChar?_eq_some_iff.mp hmarker
    cases hvalue : rest.takeWhile isRunChar with
    | nil => exact .inr (.inr ⟨by simp [first, hmarker, hvalue], fun _ _ ↦ rfl⟩)
    | cons d value =>
      have hstretch := isStretch_takeWhile isRunChar rest
      have hrest : d :: value ++ rest.dropWhile isRunChar = rest := by
        rw [← hvalue, List.takeWhile_append_dropWhile]
      rw [hvalue] at hstretch
      exact .inl ⟨marker, d :: value, _, by simp [first, hmarker, hvalue], hc,
        List.cons_ne_nil _ _, hrest.symm, hstretch⟩
  | none =>
    have hnone : ∀ marker, c = Marker.char marker → rest.takeWhile isRunChar = [] := by
      rintro marker rfl
      rw [Marker.ofChar?_eq_some_iff.mpr rfl] at hmarker
      exact absurd hmarker (Option.some_ne_none _)
    by_cases hopen : c = openBracket
    · cases hbody : bracketBody? rest with
      | none => exact .inr (.inr ⟨by simp [first, hmarker, hbody], hnone⟩)
      | some body =>
        obtain ⟨hnoOpen, hnoClose, after, hafter⟩ := bracketBody?_eq_some_iff.mp hbody
        have hfirst : first c rest = .bracket body := by
          rw [first, hmarker]
          simp [hopen, hbody]
        exact .inr (.inl ⟨body, after, hfirst, hopen, ⟨hnoOpen, hnoClose⟩, hafter⟩)
    · exact .inr (.inr ⟨by simp [first, hmarker, hopen], hnone⟩)

/-- What holds of every first piece holds of every scanned piece. -/
theorem forall_mem_scan {p : Piece → Prop} (h : ∀ c rest, p (first c rest)) (s : Text) :
    ∀ piece ∈ scan s, p piece := by
  induction s using scan_induction with
  | nil => exact fun piece hpiece ↦ absurd hpiece List.not_mem_nil
  | cons c rest ih =>
    rw [scan_cons]
    exact List.forall_mem_cons.mpr ⟨h c rest, ih⟩

/-- The run of a scanned piece holds characters of runs only. -/
theorem isRunChar_of_mem_scan {value : Text} {marker : Marker} (h : .run marker value ∈ scan s) :
    ∀ c ∈ value, isRunChar c = true := by
  refine forall_mem_scan (p := fun piece ↦ ∀ marker value, piece = .run marker value →
    ∀ c ∈ value, isRunChar c = true) (fun c rest marker value hpiece ↦ ?_) s _ h marker value rfl
  rcases first_cases c rest with ⟨_, _, _, hrun, -, -, -, hstretch, -⟩ | ⟨_, _, hbracket, -⟩ |
    ⟨hloose, -⟩
  · obtain ⟨-, rfl⟩ := Piece.run.inj (hpiece.symm.trans hrun)
    exact hstretch
  · exact absurd (hpiece.symm.trans hbracket) (by simp)
  · exact absurd (hpiece.symm.trans hloose) (by simp)

/-- A bracket is scanned only if it is complete. -/
theorem wellFormed_of_bracket_mem_scan {body : Text} (h : .bracket body ∈ scan s) :
    Lexeme.WellFormed (.bracket body) := by
  refine forall_mem_scan (p := fun piece ↦ ∀ body, piece = .bracket body →
    Lexeme.WellFormed (.bracket body)) (fun c rest body hpiece ↦ ?_) s _ h body rfl
  rcases first_cases c rest with ⟨_, _, _, hrun, -⟩ | ⟨_, _, hbracket, -, hbody, -⟩ | ⟨hloose, -⟩
  · exact absurd (hpiece.symm.trans hrun) (by simp)
  · obtain rfl := Piece.bracket.inj (hpiece.symm.trans hbracket)
    exact hbody
  · exact absurd (hpiece.symm.trans hloose) (by simp)

/-- Scanned pieces without brackets out of place have a well-formed outline. -/
theorem wellFormed_outline {pieces : List Piece} (h : ∀ piece ∈ pieces, piece ∈ scan s)
    (hplaced : ∀ piece ∈ pieces, piece.IsPlaced) :
    Outline.WellFormed (pieces.flatMap outline) := by
  intro lexeme hlexeme
  obtain ⟨piece, hpiece, hmem⟩ := List.mem_flatMap.mp hlexeme
  have hscan := h piece hpiece
  have hthis := hplaced piece hpiece
  cases piece with
  | run marker value =>
    have hmarker : Lexeme.WellFormed (.plain marker.char) := by cases marker <;> decide
    exact Outline.wellFormed_cons.mpr ⟨hmarker, Outline.wellFormed_plains fun d hd ↦
      ne_bracket_of_isRunChar (isRunChar_of_mem_scan hscan d hd)⟩ lexeme hmem
  | bracket body =>
    obtain rfl := List.mem_singleton.mp hmem
    exact wellFormed_of_bracket_mem_scan hscan
  | loose c =>
    obtain rfl := List.mem_singleton.mp hmem
    exact hthis

private theorem of?_text_append {x : Lexeme} {rest : Text} (hx : x.WellFormed)
    (h : Outline.of? (x.text ++ rest) = some o) :
    ∃ o', o = x :: o' ∧ Outline.of? rest = some o' := by
  obtain ⟨hwf, htext⟩ := Outline.of?_eq_some_iff.mp h
  cases o with
  | nil =>
    have hempty := congrArg List.length htext
    cases x <;> simp [Lexeme.text, bracketed] at hempty
  | cons y o =>
    obtain ⟨hy, ho⟩ := Outline.wellFormed_cons.mp hwf
    obtain ⟨rfl, hrest⟩ := Lexeme.text_append_inj hy hx htext
    exact ⟨o, rfl, Outline.of?_eq_some_iff.mpr ⟨ho, hrest⟩⟩

private theorem exists_outline_of_run {value after : Text}
    (hvalue : ∀ c ∈ value, isRunChar c = true)
    (h : Outline.of? (value ++ after) = some o) : ∃ o', Outline.of? after = some o' := by
  induction value generalizing o with
  | nil => exact ⟨o, h⟩
  | cons c value ih =>
    have hc : Lexeme.WellFormed (.plain c) :=
      ne_bracket_of_isRunChar (hvalue c (List.mem_cons_self ..))
    obtain ⟨o', -, hrest⟩ := of?_text_append hc h
    exact ih (fun d hd ↦ hvalue d (List.mem_cons_of_mem _ hd)) hrest

-- A loose character at the front of a text with an outline is no bracket: it would be one that is
-- closed, and so not loose.
private theorem isPlaced_of_first_loose {c : Char} {rest : Text} (hfirst : first c rest = .loose c)
    (h : Outline.of? (c :: rest) = some o) :
    (loose c).IsPlaced ∧ ∃ o', Outline.of? rest = some o' := by
  obtain ⟨hwf, htext⟩ := Outline.of?_eq_some_iff.mp h
  cases o with
  | nil => exact absurd htext (by simp)
  | cons x o =>
    obtain ⟨hx, ho⟩ := Outline.wellFormed_cons.mp hwf
    cases x with
    | plain d =>
      obtain ⟨rfl, hrest⟩ := List.cons.inj htext
      exact ⟨hx, o, Outline.of?_eq_some_iff.mpr ⟨ho, hrest⟩⟩
    | bracket body =>
      have hsplit : bracketed body ++ Outline.text o = c :: rest := htext
      have hscan := scan_bracket (Outline.text o) hx.1 hx.2
      rw [hsplit, scan_cons, hfirst] at hscan
      exact absurd (List.cons.inj hscan).1 (by simp)

private theorem isPlaced_of_outline (h : Outline.of? s = some o) :
    ∀ piece ∈ scan s, piece.IsPlaced := by
  induction s using scan_induction generalizing o with
  | nil => exact fun piece hpiece ↦ absurd hpiece List.not_mem_nil
  | cons c rest ih =>
    have hfirst : (first c rest).IsPlaced ∧
        ∃ o', Outline.of? (rest.drop ((first c rest).text.length - 1)) = some o' := by
      rcases first_cases c rest with ⟨marker, value, after, hfirst, rfl, -, rfl, hvalue, -⟩ |
        ⟨body, after, hfirst, rfl, hbody, rfl⟩ | ⟨hfirst, -⟩
      · have hmarker : Lexeme.WellFormed (.plain marker.char) := by cases marker <;> decide
        obtain ⟨o', -, hrest⟩ := of?_text_append hmarker h
        rw [hfirst]
        simpa [IsPlaced, text] using exists_outline_of_run hvalue hrest
      · have hsplit : openBracket :: (body ++ closeBracket :: after) =
            Lexeme.text (.bracket body) ++ after := by simp [Lexeme.text, bracketed]
        rw [hsplit] at h
        obtain ⟨o', -, hrest⟩ := of?_text_append hbody h
        rw [hfirst]
        simpa [IsPlaced, text, bracketed] using ⟨o', hrest⟩
      · rw [hfirst]
        exact isPlaced_of_first_loose hfirst h
    rw [scan_cons]
    intro piece hpiece
    rcases List.mem_cons.mp hpiece with rfl | hpiece
    · exact hfirst.1
    · obtain ⟨o', ho'⟩ := hfirst.2
      exact ih ho' piece hpiece

/-- A text has an outline exactly if scanning it leaves no bracket out of place, and then the
outline is that of its pieces. -/
theorem of?_eq_some_iff_isPlaced :
    Outline.of? s = some o ↔
      (∀ piece ∈ scan s, piece.IsPlaced) ∧ o = (scan s).flatMap outline := by
  have hscan : (∀ piece ∈ scan s, piece.IsPlaced) →
      Outline.of? s = some ((scan s).flatMap outline) := fun h ↦
    Outline.of?_eq_some_iff.mpr ⟨wellFormed_outline (fun _ ↦ id) h,
      by rw [text_flatMap_outline, flatMap_text_scan]⟩
  constructor
  · intro h
    have hplaced := isPlaced_of_outline h
    rw [hscan hplaced] at h
    exact ⟨hplaced, (Option.some.inj h).symm⟩
  · rintro ⟨hplaced, rfl⟩
    exact hscan hplaced

/-- The brackets among the pieces are those in their outline. -/
theorem bracket_mem_outline_iff {pieces : List Piece} {body : Text} :
    .bracket body ∈ pieces.flatMap outline ↔ .bracket body ∈ pieces := by
  rw [List.mem_flatMap]
  constructor
  · rintro ⟨piece, hpiece, hmem⟩
    cases piece with
    | run marker value => exact absurd hmem (by simp [outline, Outline.plains])
    | loose c => exact absurd hmem (by simp [outline])
    | bracket other =>
      obtain rfl : body = other := by simpa [outline] using hmem
      exact hpiece
  · intro hpiece
    exact ⟨_, hpiece, List.mem_singleton_self _⟩

end Piece

namespace Segment

/-- Whether a text begins with a decoration, provided its brackets alternate: with a bracket, or
with a marker that a character of a run follows. -/
def beginsDecoration : Text → Bool
  | [] => false
  | c :: rest => c = openBracket || (c = '#' || c = '.') && rest.head?.any isRunChar

/-- The text in front of the first decoration. -/
def front : Text → Text
  | [] => []
  | c :: rest => if beginsDecoration (c :: rest) then [] else c :: front rest

/-- A text does not begin with a decoration exactly if its first character is loose and opens no
bracket. -/
theorem beginsDecoration_eq_false_iff {c : Char} {rest : Text} :
    beginsDecoration (c :: rest) = false ↔ Piece.first c rest = .loose c ∧ c ≠ openBracket := by
  rcases Piece.first_cases c rest with ⟨marker, value, after, hfirst, rfl, hne, rfl, hvalue, -⟩ |
    ⟨body, after, hfirst, rfl, -, -⟩ | ⟨hfirst, hnone⟩
  · obtain ⟨d, value, rfl⟩ := List.exists_cons_of_ne_nil hne
    have hd := hvalue d (List.mem_cons_self ..)
    rw [hfirst]
    cases marker <;> simp [beginsDecoration, Marker.char, hd]
  · simp [beginsDecoration]
  · rw [hfirst]
    cases rest with
    | nil => simp [beginsDecoration]
    | cons d rest =>
      cases hd : isRunChar d with
      | false => simp [beginsDecoration, hd]
      | true =>
        have hmarker : ∀ marker : Marker, c ≠ marker.char := fun marker hc ↦ by
          simpa [hd] using hnone marker hc
        have hhash : c ≠ '#' := hmarker .hash
        have hdot : c ≠ '.' := hmarker .dot
        simp [beginsDecoration, hhash, hdot]

/-- The pieces of a text are led by the characters in front of its first decoration. -/
theorem leading_scan {s : Text} (h : ∀ piece ∈ Piece.scan s, piece.IsPlaced) :
    Piece.leading (Piece.scan s) = front s := by
  induction s using Piece.scan_induction with
  | nil => rfl
  | cons c rest ih =>
    rw [Piece.scan_cons] at h ⊢
    rw [front]
    cases hbegins : beginsDecoration (c :: rest) with
    | false =>
      have hfirst := (beginsDecoration_eq_false_iff.mp hbegins).1
      rw [hfirst] at ih h ⊢
      exact congrArg (c :: ·) (ih fun piece hpiece ↦ h piece (List.mem_cons_of_mem _ hpiece))
    | true =>
      rw [if_pos rfl]
      have hplaced := h (Piece.first c rest) (List.mem_cons_self ..)
      rcases Piece.first_cases c rest with ⟨marker, value, after, hfirst, -⟩ |
        ⟨body, after, hfirst, -⟩ | ⟨hfirst, -⟩
      · rw [hfirst]
        rfl
      · rw [hfirst]
        rfl
      · rw [hfirst] at hplaced
        rw [beginsDecoration_eq_false_iff.mpr ⟨hfirst, hplaced.1⟩] at hbegins
        exact absurd hbegins Bool.false_ne_true

/-- A text can be read as a segment exactly if its brackets alternate and have names, and what is
in front of the first decoration is a tag between blanks. -/
theorem readable_iff {raw : Text} :
    Readable raw ↔ ∃ o, Outline.of? raw = some o ∧
      (∀ body, .bracket body ∈ o → isName (trim (cutAt '=' body).1) = true) ∧
        isTag (trim (front raw)) = true := by
  constructor
  · intro h
    refine ⟨_, Piece.of?_eq_some_iff_isPlaced.mpr ⟨h.isPlaced, rfl⟩, fun body hbody ↦ ?_, ?_⟩
    · exact h.hasName _ (Piece.bracket_mem_outline_iff.mp hbody)
    · rw [← leading_scan h.isPlaced]
      exact h.isTag
  · rintro ⟨o, ho, hnames, htag⟩
    obtain ⟨hplaced, rfl⟩ := Piece.of?_eq_some_iff_isPlaced.mp ho
    refine ⟨fun piece hpiece ↦ ?_, hplaced, by rwa [leading_scan hplaced]⟩
    cases piece with
    | run marker value => trivial
    | loose c => trivial
    | bracket body => exact hnames body (Piece.bracket_mem_outline_iff.mpr hpiece)

/-- The text of an outline can be read as a segment exactly if its brackets have names, and what is
in front of the first decoration is a tag between blanks. -/
theorem readable_text_iff {o : Outline} (hwf : o.WellFormed) :
    Readable (Outline.text o) ↔
      (∀ body, .bracket body ∈ o → isName (trim (cutAt '=' body).1) = true) ∧
        isTag (trim (front (Outline.text o))) = true := by
  rw [readable_iff, Outline.of?_text hwf]
  constructor
  · rintro ⟨o', ho', hrest⟩
    rwa [← Option.some.inj ho'] at hrest
  · exact fun h ↦ ⟨o, rfl, h⟩

end Segment
end Shorthand
