import Shorthand.Proofs.Attributes.Collected
import Shorthand.Proofs.Markup.Names
import Shorthand.Proofs.Template.Grammar
import Shorthand.Segment.Writer

/-!
# Writing selectors and reading them back

The shorthand of a tag with attributes need not be read as these: a value with marks of its own
turns into other decorations. The main statement says for exactly which tags and attributes the
shorthand is read back as what it was written for, and that the order of the attributes is then
kept too.
-/

namespace Shorthand

open Text

namespace Segment

/-- Whether a text can be the value behind a marker: a run that is not empty and has no space at
either end. -/
structure IsRunValue (value : Text) : Prop where
  ne_nil : value ≠ []
  isRunChar : ∀ c ∈ value, isRunChar c = true
  head? : value.head? ≠ some ' '
  getLast? : value.getLast? ≠ some ' '

/-- Whether an attribute can be written in shorthand: an id or a class can stand behind its marker,
and any other attribute has a name and a value without brackets. -/
structure WritableAttribute (name value : Text) : Prop where
  marked : name = idName ∨ name = className → IsRunValue value
  bracketed : name ≠ idName → name ≠ className →
    isName name = true ∧ openBracket ∉ value ∧ closeBracket ∉ value

/-- Whether a tag with attributes can be written in shorthand: the tag is a name or the splice tag,
and every attribute can be written. -/
structure Writable (tag : Text) (attributes : Attributes Text) : Prop where
  tag : tag = spliceTag ∨ isName tag = true
  attributes : ∀ entry ∈ attributes.entries, WritableAttribute entry.1 entry.2

/-! ### Names and runs -/

/-- Neither blanks nor marks stand in a name. -/
theorem classes_of_isNameChar {c : Char} (h : isNameChar c = true) :
    isBlank c = false ∧ c ≠ '=' ∧ c ≠ openBracket ∧ c ≠ closeBracket ∧ Marker.ofChar? c = none := by
  have hne : ∀ m, isNameChar m = false → c ≠ m := by
    rintro m hm rfl
    rw [hm] at h
    exact absurd h Bool.false_ne_true
  refine ⟨?_, hne '=' (by decide +kernel), hne openBracket (by decide +kernel),
    hne closeBracket (by decide +kernel), Marker.ofChar?_eq_none_iff.mpr
      ⟨hne '#' (by decide +kernel), hne '.' (by decide +kernel)⟩⟩
  simp only [isNameChar, Bool.or_eq_true, beq_iff_eq] at h
  rcases h with (hword | rfl) | rfl
  · exact isBlank_of_isWord hword
  · decide
  · decide

/-- A name is trimmed already. -/
theorem trim_of_isName {name : Text} (h : isName name = true) : trim name = name := by
  have hblank : ∀ c ∈ name, isBlank c = false := fun c hc ↦
    (classes_of_isNameChar ((isName_iff.mp h).2 c hc)).1
  exact trim_eq_self (fun c hc ↦ hblank c (List.mem_of_mem_head? hc))
    (fun c hc ↦ hblank c (List.mem_of_mem_getLast? hc))

namespace IsRunValue

variable {value : Text}

/-- The value behind a marker is trimmed already. -/
theorem trim_eq (h : IsRunValue value) : trim value = value := by
  apply trim_eq_self
  · intro c hc
    apply Template.Grammar.isBlank_of_isRunChar (h.isRunChar c (List.mem_of_mem_head? hc))
    rintro rfl
    exact h.head? hc
  · intro c hc
    apply Template.Grammar.isBlank_of_isRunChar (h.isRunChar c (List.mem_of_mem_getLast? hc))
    rintro rfl
    exact h.getLast? hc

/-- A run that is not blank is the value behind a marker once it is trimmed. -/
theorem of_trim {run : Text} (h : ∀ c ∈ run, Shorthand.isRunChar c = true)
    (hne : trim run ≠ []) : IsRunValue (trim run) where
  ne_nil := hne
  isRunChar c hc := h c (mem_of_mem_trim hc)
  head? hspace := absurd (head?_trim run _ hspace) (by decide)
  getLast? hspace := absurd (getLast?_trim run _ hspace) (by decide)

/-- Values behind a marker are joined to such a value. -/
theorem joinParts {parts : List Text} (hne : parts ≠ []) (h : ∀ part ∈ parts, IsRunValue part) :
    IsRunValue (Contributions.joinParts parts) := by
  induction parts with
  | nil => exact absurd rfl hne
  | cons part parts ih =>
    have hpart := h part (List.mem_cons_self ..)
    cases parts with
    | nil => rwa [Contributions.joinParts_singleton]
    | cons next parts =>
      have hothers := ih (List.cons_ne_nil _ _) fun p hp ↦ h p (List.mem_cons_of_mem _ hp)
      have hnext := (h next (List.mem_cons_of_mem _ (List.mem_cons_self ..))).ne_nil
      rw [Contributions.joinParts_cons hpart.ne_nil (by simp [hnext])]
      obtain ⟨c, rest, hrest⟩ := List.exists_cons_of_ne_nil hothers.ne_nil
      refine ⟨by simp, fun d hd ↦ ?_, ?_, ?_⟩
      · rcases List.mem_append.mp hd with hd | hd
        · exact hpart.isRunChar d hd
        · rcases List.mem_cons.mp hd with rfl | hd
          · decide +kernel
          · exact hothers.isRunChar d hd
      · obtain ⟨first, inner, rfl⟩ := List.exists_cons_of_ne_nil hpart.ne_nil
        exact hpart.head?
      · rw [hrest] at hothers ⊢
        rw [List.getLast?_append, List.getLast?_cons_cons, List.getLast?_cons, Option.some_or,
          ← List.getLast?_cons]
        exact hothers.getLast?

end IsRunValue

/-! ### The shorthand as pieces -/

/-- The piece that the shorthand of an attribute is meant to be. -/
def attributePiece (entry : Text × Text) : Piece :=
  if entry.1 = idName then .run .hash entry.2
  else if entry.1 = className then .run .dot entry.2
  else if entry.2 = entry.1 then .bracket entry.1
  else .bracket (entry.1 ++ '=' :: entry.2)

/-- The shorthand of a tag with attributes is the tag with a piece for each attribute behind it. -/
theorem shorthand_eq (tag : Text) (attributes : Attributes Text) :
    shorthand tag attributes =
      tag ++ (attributes.entries.map attributePiece).flatMap Piece.text := by
  have hpiece : ∀ entry : Text × Text,
      attributeShorthand entry.1 entry.2 = (attributePiece entry).text := by
    intro entry
    rw [attributeShorthand, attributePiece]
    repeat' split
    all_goals rfl
  simp only [shorthand, hpiece, List.flatMap_map]

/-- The piece of an attribute begins with a marker or a bracket, and so goes on with no run. -/
theorem isRunChar_head_attributePiece (entry : Text × Text) :
    ∃ c tail, (attributePiece entry).text = c :: tail ∧ isRunChar c = false := by
  rw [attributePiece]
  repeat' split
  all_goals exact ⟨_, _, rfl, by decide +kernel⟩

/-- The shorthand of an attribute with a name is a run behind the marker of the attribute, or a
bracket from which name and value can be told. -/
theorem attributePiece_cases {name : Text} (h : isName name = true) (value : Text) :
    (∃ marker : Marker, name = marker.target.attributeName ∧
        attributePiece (name, value) = .run marker value) ∨
      name ≠ idName ∧ name ≠ className ∧ ∃ body, attributePiece (name, value) = .bracket body ∧
        trim (cutAt '=' body).1 = name ∧ (cutAt '=' body).2.getD name = value ∧
        ∀ c ∈ body, c ∈ value ∨ c ≠ openBracket ∧ c ≠ closeBracket := by
  have hchars := fun c hc ↦ classes_of_isNameChar ((isName_iff.mp h).2 c hc)
  have hequals : '=' ∉ name := fun hc ↦ (hchars _ hc).2.1 rfl
  have hplain : ∀ c ∈ name, c ≠ openBracket ∧ c ≠ closeBracket := fun c hc ↦
    ⟨(hchars c hc).2.2.1, (hchars c hc).2.2.2.1⟩
  rw [attributePiece]
  split
  · next hid => exact .inl ⟨.hash, hid, rfl⟩
  · next hid =>
    split
    · next hclass => exact .inl ⟨.dot, hclass, rfl⟩
    · next hclass =>
      refine .inr ⟨hid, hclass, ?_⟩
      split
      · next hsame =>
        refine ⟨name, rfl, ?_⟩
        rw [cutAt_of_not_mem hequals]
        exact ⟨trim_of_isName h, hsame.symm, fun c hc ↦ .inr (hplain c hc)⟩
      · refine ⟨_, rfl, ?_⟩
        rw [cutAt_append value hequals]
        refine ⟨trim_of_isName h, rfl, fun c hc ↦ ?_⟩
        rcases List.mem_append.mp hc with hc | hc
        · exact .inr (hplain c hc)
        · rcases List.mem_cons.mp hc with rfl | hc
          · exact .inr (by decide)
          · exact .inl hc

/-! ### Reading what can be written -/

/-- Whether an attribute is recovered from a piece, wherever no run goes on behind it: the piece is
scanned as such, and means the attribute. -/
structure Recovers (name value : Text) (piece : Piece) : Prop where
  scan : ∀ rest : Text, (∀ c ∈ rest.head?, Shorthand.isRunChar c = false) →
    Piece.scan (piece.text ++ rest) = piece :: Piece.scan rest
  hasName : piece.HasName
  isPlaced : piece.IsPlaced
  leads : ∀ pieces, Piece.leading (piece :: pieces) = []
  meaning : ∃ d, piece.meaning = some d ∧ (d.attributeName, d.contribution) = (name, value)

/-- What can be written has a name. -/
theorem WritableAttribute.isName {name value : Text} (h : WritableAttribute name value) :
    isName name = true := by
  by_cases hid : name = idName
  · exact hid ▸ isName_idName
  · by_cases hclass : name = className
    · exact hclass ▸ isName_className
    · exact (h.bracketed hid hclass).1

/-- An attribute that can be written is recovered from its piece. -/
theorem WritableAttribute.recovers {name value : Text} (h : WritableAttribute name value) :
    Recovers name value (attributePiece (name, value)) := by
  rcases attributePiece_cases h.isName value with ⟨marker, rfl, hpiece⟩ |
    ⟨hid, hclass, body, hpiece, hfirst, hsecond, hplain⟩
  · have hvalue : IsRunValue value := h.marked (by cases marker <;> simp [Marker.target,
      Target.attributeName])
    have htrim : trim value ≠ [] := by
      rw [hvalue.trim_eq]
      exact hvalue.ne_nil
    rw [hpiece]
    refine ⟨fun rest hrest ↦ ?_, trivial, trivial, fun _ ↦ rfl, ?_⟩
    · exact Piece.scan_run hvalue.ne_nil ⟨hvalue.isRunChar, hrest⟩
    · exact ⟨⟨marker.target, some (trim value), false⟩, by rw [Piece.meaning, if_neg htrim],
        congrArg _ hvalue.trim_eq⟩
  · obtain ⟨hname, hopen, hclose⟩ := h.bracketed hid hclass
    have hopenBody : openBracket ∉ body := fun hc ↦ (hplain _ hc).elim hopen fun hne ↦ hne.1 rfl
    have hcloseBody : closeBracket ∉ body := fun hc ↦
      (hplain _ hc).elim hclose fun hne ↦ hne.2 rfl
    rw [hpiece]
    refine ⟨fun rest _ ↦ Piece.scan_bracket rest hopenBody hcloseBody, ?_, trivial, fun _ ↦ rfl,
      ⟨_, rfl, ?_⟩⟩
    · rwa [← hfirst] at hname
    · simp only [Decoration.attributeName, Target.attributeName, Decoration.contribution, hfirst,
        hsecond]

section Entries

variable {entries : List (Text × Text)}

/-- The pieces of attributes that can be written are scanned one after the other. -/
theorem scan_attributePieces (h : ∀ entry ∈ entries, WritableAttribute entry.1 entry.2) :
    Piece.scan ((entries.map attributePiece).flatMap Piece.text) = entries.map attributePiece := by
  induction entries with
  | nil => rfl
  | cons entry entries ih =>
    have hothers := ih fun e he ↦ h e (List.mem_cons_of_mem _ he)
    have hend : ∀ c ∈ ((entries.map attributePiece).flatMap Piece.text).head?,
        isRunChar c = false := by
      intro c hc
      cases entries with
      | nil => exact absurd hc (by simp)
      | cons next entries =>
        obtain ⟨d, tail, htext, hd⟩ := isRunChar_head_attributePiece next
        rw [List.map_cons, List.flatMap_cons, htext] at hc
        rwa [← Option.some.inj hc]
    rw [List.map_cons, List.flatMap_cons,
      (h entry (List.mem_cons_self ..)).recovers.scan _ hend, hothers]

/-- The pieces of attributes that can be written mean these attributes. -/
theorem map_meaning_attributePieces (h : ∀ entry ∈ entries, WritableAttribute entry.1 entry.2) :
    ((entries.map attributePiece).filterMap Piece.meaning).map
      (fun d ↦ (d.attributeName, d.contribution)) = entries := by
  induction entries with
  | nil => rfl
  | cons entry entries ih =>
    have hothers := ih fun e he ↦ h e (List.mem_cons_of_mem _ he)
    obtain ⟨d, hmeaning, hd⟩ := (h entry (List.mem_cons_self ..)).recovers.meaning
    rw [List.map_cons, List.filterMap_cons_some hmeaning, List.map_cons, hothers, hd]

end Entries

variable {tag : Text} {attributes : Attributes Text}

/-- The characters of a tag begin no decoration and are no brackets. -/
theorem isLoose_of_tag (h : tag = spliceTag ∨ isName tag = true) :
    ∀ c ∈ tag, Marker.ofChar? c = none ∧ c ≠ openBracket ∧ c ≠ closeBracket := by
  intro c hc
  rcases h with rfl | hname
  · obtain rfl : c = placeholderMark := List.mem_singleton.mp hc
    decide
  · obtain ⟨-, -, hopen, hclose, hmarker⟩ :=
      classes_of_isNameChar ((isName_iff.mp hname).2 c hc)
    exact ⟨hmarker, hopen, hclose⟩

/-- What can be written is read back, with the attributes in their order. -/
theorem Writable.read_shorthand (h : Writable tag attributes) (selector? : Option Text)
    (offset? : Option Int) (default : Text) :
    ∃ segment, read selector? offset? (shorthand tag attributes) = .ok segment ∧
      segment.tag default = tag ∧ Contributions.ofDecorations segment.decorations = attributes := by
  have hloose := isLoose_of_tag h.tag
  have hscan : Piece.scan (shorthand tag attributes) =
      tag.map .loose ++ attributes.entries.map attributePiece := by
    rw [shorthand_eq, Piece.scan_loose_append _ fun c hc ↦
      ⟨(hloose c hc).1, (hloose c hc).2.1⟩, scan_attributePieces h.attributes]
  have hpieces : ∀ piece ∈ Piece.scan (shorthand tag attributes),
      piece.HasName ∧ piece.IsPlaced := by
    intro piece hpiece
    rw [hscan, List.mem_append, List.mem_map, List.mem_map] at hpiece
    rcases hpiece with ⟨c, hc, rfl⟩ | ⟨entry, hentry, rfl⟩
    · exact ⟨trivial, (hloose c hc).2⟩
    · exact ⟨(h.attributes entry hentry).recovers.hasName,
        (h.attributes entry hentry).recovers.isPlaced⟩
  have hleading : Piece.leading (Piece.scan (shorthand tag attributes)) = tag := by
    rw [hscan, Piece.leading_loose_append]
    cases hentries : attributes.entries with
    | nil => exact List.append_nil _
    | cons entry entries =>
      have hentry := h.attributes entry (by rw [hentries]; exact List.mem_cons_self ..)
      rw [List.map_cons, hentry.recovers.leads, List.append_nil]
  have htrim : trim tag = tag := by
    rcases h.tag with rfl | hname
    · decide +kernel
    · exact trim_of_isName hname
  have hne : tag ≠ [] := by
    rcases h.tag with rfl | hname
    · decide
    · exact (isName_iff.mp hname).1
  have hreadable : Readable (shorthand tag attributes) := by
    refine ⟨fun piece hpiece ↦ (hpieces piece hpiece).1,
      fun piece hpiece ↦ (hpieces piece hpiece).2, ?_⟩
    rw [hleading, htrim, isTag]
    rcases h.tag with hsplice | hname
    · simp [hsplice]
    · simp [hname]
  refine ⟨_, read_eq_ok_iff.mpr ⟨hreadable, rfl⟩, ?_, ?_⟩
  · simp [Segment.tag, ofText, tagOf?, hleading, htrim, hne]
  · have hmeaning : (ofText (shorthand tag attributes)).decorations =
        (attributes.entries.map attributePiece).filterMap Piece.meaning := by
      have hloose : (tag.map Piece.loose).filterMap Piece.meaning = [] := by
        simp [List.filterMap_map, Piece.meaning]
      rw [ofText, hscan, List.filterMap_append, hloose, List.nil_append]
    have hentries := map_meaning_attributePieces h.attributes
    rw [← hmeaning] at hentries
    apply Attributes.ext
    rw [Contributions.entries_ofDecorations, hentries]
    have hnodup := attributes.nodup
    rwa [← hentries, List.map_map] at hnodup

/-! ### What anything that is read holds -/

private theorem mem_of_mem_cutAt {mark c : Char} {s : Text}
    (h : c ∈ (cutAt mark s).1 ∨ ∃ value, (cutAt mark s).2 = some value ∧ c ∈ value) : c ∈ s := by
  rw [← append_cutAt mark s]
  rcases h with hfirst | ⟨value, hvalue, hc⟩
  · exact List.mem_append_left _ hfirst
  · rw [hvalue]
    exact List.mem_append_right _ (List.mem_cons_of_mem _ hc)

private theorem mem_of_mem_contribution {piece : Piece} {d : Decoration} {c : Char}
    (hd : piece.meaning = some d) (hc : c ∈ d.contribution) :
    (∃ marker value, piece = .run marker value ∧ c ∈ value) ∨
      ∃ body, piece = .bracket body ∧ c ∈ body := by
  cases piece with
  | run marker value =>
    rw [Piece.meaning] at hd
    split at hd
    · exact absurd hd.symm (Option.some_ne_none _)
    · obtain rfl := Option.some.inj hd
      exact .inl ⟨marker, value, rfl, mem_of_mem_trim hc⟩
  | bracket body =>
    obtain rfl := Option.some.inj hd
    refine .inr ⟨body, rfl, @mem_of_mem_cutAt '=' c body ?_⟩
    cases hvalue : (cutAt '=' body).2 with
    | none =>
      rw [Decoration.contribution, hvalue] at hc
      exact .inl (mem_of_mem_trim hc)
    | some value =>
      rw [Decoration.contribution, hvalue] at hc
      exact .inr ⟨value, rfl, hc⟩
  | loose c => exact absurd hd.symm (Option.some_ne_none _)

section Readable

variable {raw name value : Text}

/-- The attributes of a segment have names and values without brackets. -/
theorem Readable.isName_of_get? (h : Readable raw)
    (hget : (Contributions.ofDecorations (ofText raw).decorations).get? name = some value) :
    isName name = true ∧ openBracket ∉ value ∧ closeBracket ∉ value := by
  obtain ⟨parts, hne, rfl, hparts⟩ := Contributions.exists_parts hget
  have hwf : ∀ piece ∈ Piece.scan raw, Outline.WellFormed piece.outline := by
    have houtline := Piece.of?_eq_some_iff_isPlaced.mpr ⟨h.isPlaced, rfl⟩
    intro piece hpiece lexeme hlexeme
    exact (Outline.of?_eq_some_iff.mp houtline).1 lexeme (List.mem_flatMap_of_mem hpiece hlexeme)
  have hvalue : ∀ c ∈ Contributions.joinParts parts, c ≠ openBracket ∧ c ≠ closeBracket := by
    intro c hc
    rcases Contributions.mem_joinParts hc with rfl | ⟨part, hpart, hmem⟩
    · decide
    · obtain ⟨d, hd, -, rfl⟩ := hparts part hpart
      obtain ⟨piece, hpiece, hmeaning⟩ := List.mem_filterMap.mp hd
      rcases mem_of_mem_contribution hmeaning hmem with ⟨marker, run, rfl, hrun⟩ |
        ⟨body, rfl, hbody⟩
      · exact Piece.ne_bracket_of_isRunChar (Piece.isRunChar_of_mem_scan hpiece c hrun)
      · obtain ⟨hopen, hclose⟩ := hwf _ hpiece (.bracket body) (List.mem_singleton_self _)
        exact ⟨fun heq ↦ hopen (heq ▸ hbody), fun heq ↦ hclose (heq ▸ hbody)⟩
  refine ⟨?_, fun hc ↦ (hvalue _ hc).1 rfl, fun hc ↦ (hvalue _ hc).2 rfl⟩
  obtain ⟨part, hpart⟩ := List.exists_mem_of_ne_nil parts hne
  obtain ⟨d, hd, rfl, -⟩ := hparts part hpart
  exact h.isName_attributeName d hd

/-- The value of an attribute that no bracket names comes from behind markers. -/
theorem isRunValue_of_get?
    (hget : (Contributions.ofDecorations (ofText raw).decorations).get? name = some value)
    (hbrackets : ∀ body, .bracket body ∈ Piece.scan raw → trim (cutAt '=' body).1 ≠ name) :
    IsRunValue value := by
  obtain ⟨parts, hne, rfl, hparts⟩ := Contributions.exists_parts hget
  apply IsRunValue.joinParts hne
  intro part hpart
  obtain ⟨d, hd, hname, rfl⟩ := hparts part hpart
  obtain ⟨piece, hpiece, hmeaning⟩ := List.mem_filterMap.mp hd
  cases piece with
  | run marker run =>
    rw [Piece.meaning] at hmeaning
    split at hmeaning
    · exact absurd hmeaning.symm (Option.some_ne_none _)
    · next htrim =>
      obtain rfl := Option.some.inj hmeaning
      exact IsRunValue.of_trim (Piece.isRunChar_of_mem_scan hpiece) htrim
  | bracket body =>
    obtain rfl := Option.some.inj hmeaning
    exact absurd hname (hbrackets body hpiece)
  | loose c => exact absurd hmeaning.symm (Option.some_ne_none _)

end Readable

/-! ### What has to hold to be read back -/

/-- If neither the tag nor an attribute has a bracket in it, the brackets of shorthand are those of
its attributes. -/
theorem exists_entry_of_bracket {body : Text}
    (htag : ∀ c ∈ tag, c ≠ openBracket ∧ c ≠ closeBracket)
    (hentries : ∀ entry ∈ attributes.entries,
      isName entry.1 = true ∧ openBracket ∉ entry.2 ∧ closeBracket ∉ entry.2)
    (hbody : .bracket body ∈ Piece.scan (shorthand tag attributes)) :
    ∃ entry ∈ attributes.entries, attributePiece entry = .bracket body := by
  have hwf : ∀ entry ∈ attributes.entries, Outline.WellFormed (attributePiece entry).outline := by
    intro entry hentry
    obtain ⟨hname, hopen, hclose⟩ := hentries entry hentry
    have hvalue : ∀ c ∈ entry.2, c ≠ openBracket ∧ c ≠ closeBracket := fun c hc ↦
      ⟨fun heq ↦ hopen (heq ▸ hc), fun heq ↦ hclose (heq ▸ hc)⟩
    rcases attributePiece_cases hname entry.2 with ⟨marker, -, hpiece⟩ |
      ⟨-, -, body, hpiece, -, -, hplain⟩
    · have hmarker : Lexeme.WellFormed (.plain marker.char) := by cases marker <;> decide
      rw [hpiece]
      exact Outline.wellFormed_cons.mpr ⟨hmarker, Outline.wellFormed_plains hvalue⟩
    · have hbrackets : ∀ c ∈ body, c ≠ openBracket ∧ c ≠ closeBracket := fun c hc ↦
        (hplain c hc).elim (hvalue c) id
      rw [hpiece]
      exact Outline.wellFormed_cons.mpr ⟨⟨fun hc ↦ (hbrackets _ hc).1 rfl,
        fun hc ↦ (hbrackets _ hc).2 rfl⟩, Outline.wellFormed_nil⟩
  have houtline : Outline.of? (shorthand tag attributes) = some (Outline.plains tag ++
      (attributes.entries.map attributePiece).flatMap Piece.outline) := by
    refine Outline.of?_eq_some_iff.mpr ⟨Outline.wellFormed_append.mpr
      ⟨Outline.wellFormed_plains htag, ?_⟩, ?_⟩
    · intro lexeme hlexeme
      obtain ⟨piece, hpiece, hmem⟩ := List.mem_flatMap.mp hlexeme
      obtain ⟨entry, hentry, rfl⟩ := List.mem_map.mp hpiece
      exact hwf entry hentry lexeme hmem
    · rw [Outline.text_append, Outline.text_plains, Piece.text_flatMap_outline, shorthand_eq]
  have hscan := (Piece.of?_eq_some_iff_isPlaced.mp houtline).2
  rw [← Piece.bracket_mem_outline_iff, ← hscan, List.mem_append,
    Piece.bracket_mem_outline_iff] at hbody
  rcases hbody with hbody | hbody
  · exact absurd hbody (by simp [Outline.plains])
  · exact List.mem_map.mp hbody

/-- What is read back could be written. -/
theorem writable_of_readable (hread : Readable (shorthand tag attributes)) {default : Text}
    (hdefault : isName default = true)
    (htag : (ofText (shorthand tag attributes)).tag default = tag)
    (hsame : (Contributions.ofDecorations
      (ofText (shorthand tag attributes)).decorations).sameBindings attributes = true) :
    Writable tag attributes := by
  have hisTag : tag = spliceTag ∨ isName tag = true := by
    have hleading := hread.isTag
    rw [Segment.tag, ofText, tagOf?] at htag
    split at htag
    · obtain rfl : default = tag := htag
      exact .inr hdefault
    · next hne =>
      have heq : trim (Piece.leading (Piece.scan (shorthand tag attributes))) = tag := htag
      rw [heq] at hleading hne
      simpa [isTag, hne] using hleading
  have hget : ∀ entry ∈ attributes.entries, (Contributions.ofDecorations
      (ofText (shorthand tag attributes)).decorations).get? entry.1 = some entry.2 := by
    intro entry hentry
    rw [(Attributes.sameBindings_iff _ _).mp hsame]
    exact Attributes.get?_of_mem hentry
  have hnames := fun entry hentry ↦ hread.isName_of_get? (hget entry hentry)
  have hloose : ∀ c ∈ tag, c ≠ openBracket ∧ c ≠ closeBracket := fun c hc ↦
    (isLoose_of_tag hisTag c hc).2
  refine ⟨hisTag, fun entry hentry ↦ ⟨fun hmarked ↦ ?_, fun _ _ ↦ hnames entry hentry⟩⟩
  apply isRunValue_of_get? (hget entry hentry)
  intro body hbody hname
  obtain ⟨other, hother, hpiece⟩ := exists_entry_of_bracket hloose hnames hbody
  rcases attributePiece_cases (hnames other hother).1 other.2 with ⟨marker, -, hrun⟩ |
    ⟨hid, hclass, body', hbracket, hfirst, -, -⟩
  · exact absurd (hpiece.symm.trans hrun) (by simp)
  · obtain rfl := Piece.bracket.inj (hpiece.symm.trans hbracket)
    rw [hfirst] at hname
    rw [hname] at hid hclass
    exact hmarked.elim hid hclass

/-- The shorthand of a tag with attributes is read back as these, in whatever order, exactly if they
can be written; and exactly then the order of the attributes is recovered too. -/
theorem read_shorthand_iff (tag : Text) (attributes : Attributes Text) (selector? : Option Text)
    (offset? : Option Int) :
    ((∃ segment, read selector? offset? (shorthand tag attributes) = .ok segment ∧
          segment.tag Policy.standard.defaultTag = tag ∧
          (Contributions.ofDecorations segment.decorations).sameBindings attributes = true) ↔
        Writable tag attributes) ∧
      ((∃ segment, read selector? offset? (shorthand tag attributes) = .ok segment ∧
          segment.tag Policy.standard.defaultTag = tag ∧
          Contributions.ofDecorations segment.decorations = attributes) ↔
        Writable tag attributes) := by
  have hdefault : isName Policy.standard.defaultTag = true := by decide +kernel
  have hnecessary : ∀ segment, read selector? offset? (shorthand tag attributes) = .ok segment →
      segment.tag Policy.standard.defaultTag = tag →
      (Contributions.ofDecorations segment.decorations).sameBindings attributes = true →
      Writable tag attributes := by
    intro segment hread htag hsame
    obtain ⟨hreadable, rfl⟩ := read_eq_ok_iff.mp hread
    exact writable_of_readable hreadable hdefault htag hsame
  have hrefl : attributes.sameBindings attributes = true :=
    (Attributes.sameBindings_iff _ _).mpr fun _ ↦ rfl
  refine ⟨⟨?_, fun h ↦ ?_⟩, ⟨?_, fun h ↦ h.read_shorthand selector? offset? _⟩⟩
  · rintro ⟨segment, hread, htag, hsame⟩
    exact hnecessary segment hread htag hsame
  · obtain ⟨segment, hread, htag, hequal⟩ := h.read_shorthand selector? offset?
      Policy.standard.defaultTag
    exact ⟨segment, hread, htag, by rw [hequal, hrefl]⟩
  · rintro ⟨segment, hread, htag, hequal⟩
    exact hnecessary segment hread htag (by rw [hequal, hrefl])

end Segment
end Shorthand
