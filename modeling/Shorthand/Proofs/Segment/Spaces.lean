import Mathlib.Data.List.Forall2
import Shorthand.Proofs.Segment.Layout
import Shorthand.Proofs.Segment.RoundTrip
import Shorthand.Proofs.Text.Spaces

/-!
# Spaces in segments

Spaces may be added to a segment around its tag, behind a marker and behind the run there, and
inside a bracket around the name and around the value. The main statement says that the segment is
still read, with the same tag and the same decorations apart from the values in brackets: those are
not trimmed, so the decorations stay the same exactly if no space is added around such a value.
-/

namespace Shorthand

open Text Template.Grammar

/-- A decoration with its value trimmed. -/
def Decoration.trimmed (d : Decoration) : Decoration := { d with value? := d.value?.map trim }

namespace Segment
namespace Mark

/-- The value in a bracket. -/
def value? : Mark → Option Text
  | run _ _ => none
  | bracket body => (cutAt '=' body).2

/-- Whether the second of two written decorations is the first one with spaces added behind its
marker and behind the run there, or in its bracket around the name and around the value. -/
inductive Spaced : Mark → Mark → Prop
  | run (marker : Marker) {value value' : Text} (h : SpacedAround value value') :
      Spaced (.run marker value) (.run marker value')
  | name {name name' : Text} (h : SpacedAround name name') (hmark : '=' ∉ name) :
      Spaced (.bracket name) (.bracket name')
  | assignment {name name' value value' : Text} (h : SpacedAround name name')
      (hvalue : SpacedAround value value') (hmark : '=' ∉ name) :
      Spaced (.bracket (name ++ '=' :: value)) (.bracket (name' ++ '=' :: value'))

namespace Spaced

variable {mark mark' : Mark} {after after' : Text}

/-- No space has to be added. -/
protected theorem refl (mark : Mark) : mark.Spaced mark := by
  cases mark with
  | run marker value => exact run marker (.refl value)
  | bracket body =>
    have hmark := not_mem_cutAt '=' body
    have hbody := append_cutAt '=' body
    cases hvalue : (cutAt '=' body).2 with
    | none =>
      rw [hvalue, Option.elim_none, List.append_nil] at hbody
      rw [hbody] at hmark
      exact name (.refl body) hmark
    | some value =>
      rw [hvalue, Option.elim_some] at hbody
      rw [← hbody]
      exact assignment (.refl _) (.refl value) hmark

/-- A decoration with spaces added is well formed if the one without is, and if what follows begins
as before or goes on with no run. -/
theorem fits (h : mark.Spaced mark') (hfits : mark.Fits after)
    (hhead : ∀ c ∈ after'.head?, c ∈ after.head? ∨ isRunChar c = false) : mark'.Fits after' := by
  have hopen : openBracket ≠ ' ' := by decide
  have hclose : closeBracket ≠ ' ' := by decide
  cases h with
  | @run marker value value' h =>
    obtain ⟨hne, hrun⟩ := hfits
    have hvalue' : ∀ c ∈ value', isRunChar c = true := by
      intro c hc
      rcases h.mem_or_eq hc with hmem | rfl
      · exact hrun.1 c hmem
      · decide +kernel
    have hrun' : IsStretch isRunChar value' after := ⟨hvalue', hrun.2⟩
    exact ⟨h.ne_nil hne, hrun'.of_head hhead⟩
  | name h => exact ⟨h.not_mem hopen hfits.1, h.not_mem hclose hfits.2⟩
  | assignment h hvalue =>
    simp only [Fits, List.mem_append, List.mem_cons, not_or] at hfits ⊢
    obtain ⟨⟨hname, heq, hval⟩, hname', heq', hval'⟩ := hfits
    exact ⟨⟨h.not_mem hopen hname, heq, hvalue.not_mem hopen hval⟩,
      h.not_mem hclose hname', heq', hvalue.not_mem hclose hval'⟩

/-- A decoration with spaces added is a run that is the same once it is trimmed, or a bracket with
a name and a value that are. -/
theorem trimmed_cases (h : mark.Spaced mark') :
    (∃ marker value value', mark = .run marker value ∧ mark' = .run marker value' ∧
        trim value' = trim value) ∨
      ∃ body body', mark = .bracket body ∧ mark' = .bracket body' ∧
        trim (cutAt '=' body').1 = trim (cutAt '=' body).1 ∧
        (cutAt '=' body').2.map trim = (cutAt '=' body).2.map trim := by
  cases h with
  | run marker h => exact .inl ⟨marker, _, _, rfl, rfl, h.trim_eq⟩
  | name h hmark =>
    refine .inr ⟨_, _, rfl, rfl, ?_⟩
    rw [cutAt_of_not_mem hmark, cutAt_of_not_mem (h.not_mem (by decide) hmark)]
    exact ⟨h.trim_eq, rfl⟩
  | assignment h hvalue hmark =>
    refine .inr ⟨_, _, rfl, rfl, ?_⟩
    rw [cutAt_append _ hmark, cutAt_append _ (h.not_mem (by decide) hmark)]
    exact ⟨h.trim_eq, congrArg some hvalue.trim_eq⟩

/-- A bracket with spaces added has a name exactly if the one without does. -/
theorem hasName_iff (h : mark.Spaced mark') : mark'.piece.HasName ↔ mark.piece.HasName := by
  rcases h.trimmed_cases with ⟨marker, value, value', rfl, rfl, -⟩ |
    ⟨body, body', rfl, rfl, hname, -⟩
  · exact Iff.rfl
  · simp only [piece, Piece.HasName, hname]

/-- A decoration with spaces added means the same, up to spaces around its value. -/
theorem trimmed_meaning (h : mark.Spaced mark') :
    mark'.piece.meaning.map Decoration.trimmed = mark.piece.meaning.map Decoration.trimmed := by
  rcases h.trimmed_cases with ⟨marker, value, value', rfl, rfl, htrim⟩ |
    ⟨body, body', rfl, rfl, hname, hvalue⟩
  · simp only [piece, Piece.meaning, htrim]
  · simp only [piece, Piece.meaning, Option.map_some, Decoration.trimmed, hname, hvalue]

/-- A decoration with spaces added means the same exactly if none is added around the value in a
bracket. -/
theorem meaning_eq_iff (h : mark.Spaced mark') :
    mark'.piece.meaning = mark.piece.meaning ↔ mark'.value? = mark.value? := by
  rcases h.trimmed_cases with ⟨marker, value, value', rfl, rfl, htrim⟩ |
    ⟨body, body', rfl, rfl, hname, -⟩
  · simp only [piece, Piece.meaning, htrim, value?]
  · simp only [piece, Piece.meaning, value?, hname, Option.some.injEq, Decoration.mk.injEq,
      true_and, and_true]

end Spaced
end Mark

/-- Whether the second list holds the decorations of the first one with spaces added, with the same
skipped text behind each. -/
def PartsSpaced : List (Mark × Text) → List (Mark × Text) → Prop :=
  List.Forall₂ fun part part' ↦ part.1.Spaced part'.1 ∧ part'.2 = part.2

namespace PartsSpaced

variable {parts parts' : List (Mark × Text)}

/-- Decorations with spaces added are well formed if those without are. -/
theorem partsFit (h : PartsSpaced parts parts') (hfit : PartsFit parts) : PartsFit parts' := by
  induction h with
  | nil => trivial
  | @cons part part' parts parts' hpart _ ih =>
    obtain ⟨mark, skipped⟩ := part
    obtain ⟨mark', skipped'⟩ := part'
    obtain ⟨hspaced, hskip⟩ := hpart
    obtain rfl : skipped' = skipped := hskip
    obtain ⟨hmark, hskipped, hothers⟩ := hfit
    refine ⟨hspaced.fits hmark fun c hc ↦ ?_, hskipped, ih hothers⟩
    cases skipped' with
    | nil => exact .inr (Layout.isRunChar_head_partsText parts' c hc)
    | cons d skipped => exact .inl hc

/-- The brackets among decorations with spaces added have names if those without do. -/
theorem hasName (h : PartsSpaced parts parts') (hnames : ∀ part ∈ parts, part.1.piece.HasName) :
    ∀ part ∈ parts', part.1.piece.HasName := by
  induction h with
  | nil => exact fun part hpart ↦ absurd hpart List.not_mem_nil
  | cons hpart _ ih =>
    obtain ⟨hname, hothers⟩ := List.forall_mem_cons.mp hnames
    exact List.forall_mem_cons.mpr ⟨hpart.1.hasName_iff.mpr hname, ih hothers⟩

/-- Decorations with spaces added mean the same, up to spaces around the values. -/
theorem trimmed_meaning (h : PartsSpaced parts parts') :
    (parts'.filterMap fun part ↦ part.1.piece.meaning).map Decoration.trimmed =
      (parts.filterMap fun part ↦ part.1.piece.meaning).map Decoration.trimmed := by
  rw [List.map_filterMap, List.map_filterMap]
  induction h with
  | nil => rfl
  | cons hpart _ ih => rw [List.filterMap_cons, List.filterMap_cons, hpart.1.trimmed_meaning, ih]

/-- Decorations with spaces added mean the same exactly if none is added around the values in
brackets. -/
theorem meaning_eq_iff (h : PartsSpaced parts parts') :
    (parts'.filterMap fun part ↦ part.1.piece.meaning) =
        (parts.filterMap fun part ↦ part.1.piece.meaning) ↔
      (parts'.map fun part ↦ part.1.value?) = parts.map fun part ↦ part.1.value? := by
  induction h with
  | nil => exact iff_of_true rfl rfl
  | @cons part part' parts parts' hpart _ ih =>
    have hthis := hpart.1.meaning_eq_iff
    have htrimmed := hpart.1.trimmed_meaning
    rw [List.map_cons, List.map_cons, List.cons.injEq, ← hthis, ← ih, List.filterMap_cons,
      List.filterMap_cons]
    cases hm : part.1.piece.meaning with
    | none =>
      have hm' : part'.1.piece.meaning = none := by simpa [hm] using htrimmed
      simp only [hm', true_and]
    | some d =>
      obtain ⟨d', hm', -⟩ : ∃ d', part'.1.piece.meaning = some d' ∧ d'.trimmed = d.trimmed := by
        simpa [hm] using htrimmed
      simp only [hm', List.cons.injEq, Option.some.injEq]

end PartsSpaced

/-- No character of a tag between blanks is a marker or a bracket. -/
theorem isLoose_of_isTag {s : Text} (h : isTag (trim s) = true) :
    ∀ c ∈ s, Marker.ofChar? c = none ∧ c ≠ openBracket ∧ c ≠ closeBracket := by
  have hblank : ∀ {blanks : Text}, (∀ c ∈ blanks, isBlank c = true) →
      ∀ c ∈ blanks, Marker.ofChar? c = none ∧ c ≠ openBracket ∧ c ≠ closeBracket :=
    fun hblanks c hc ↦ loose_of_isStop (isStop_of_blanks hblanks c hc)
  have htag : ∀ c ∈ trim s, Marker.ofChar? c = none ∧ c ≠ openBracket ∧ c ≠ closeBracket := by
    simp only [isTag, Bool.or_eq_true, decide_eq_true_eq, or_assoc] at h
    rcases h with hempty | htag
    · exact fun c hc ↦ absurd (hempty ▸ hc) List.not_mem_nil
    · exact isLoose_of_tag htag
  obtain ⟨left, right, hleft, hright, hs⟩ := exists_blanks_around s
  rw [hs]
  exact List.forall_mem_append.mpr
    ⟨hblank hleft, List.forall_mem_append.mpr ⟨htag, hblank hright⟩⟩

/-- A tag between blanks is skipped. -/
theorem isSkipped_of_isTag {s : Text} (h : isTag (trim s) = true) : IsSkipped s := by
  have hloose := isLoose_of_isTag h
  clear h
  induction s with
  | nil => exact isSkipped_nil
  | cons c s ih =>
    obtain ⟨⟨hmarker, hopen, hclose⟩, hothers⟩ := List.forall_mem_cons.mp hloose
    have hfirst : Piece.first c s = .loose c := by simp [Piece.first, hmarker, hopen]
    exact isSkipped_cons.mpr
      ⟨hclose, beginsDecoration_eq_false_iff.mpr ⟨hfirst, hopen⟩, ih hothers⟩

namespace Layout

variable {layout other : Layout}

/-- Whether the second of two layouts is the first one with spaces added: around what leads it, and
to the decorations. -/
structure Spaced (layout other : Layout) : Prop where
  lead : SpacedAround layout.lead other.lead
  parts : PartsSpaced layout.parts other.parts

/-- A layout with spaces added is well formed if the one without is and what leads it is a tag
between blanks. -/
theorem Spaced.wellFormed (h : layout.Spaced other) (hwf : layout.WellFormed)
    (htag : isTag (trim layout.lead) = true) : other.WellFormed :=
  ⟨isSkipped_of_isTag (h.lead.trim_eq ▸ htag), h.parts.partsFit hwf.2⟩

/-- The text of a layout with spaces added can be read if that of the layout without can. -/
theorem Spaced.readable (h : layout.Spaced other) (hwf : layout.WellFormed)
    (hread : Readable layout.text) : other.WellFormed ∧ Readable other.text := by
  obtain ⟨hnames, htag⟩ := hwf.readable_iff.mp hread
  have hwf' := h.wellFormed hwf htag
  exact ⟨hwf', hwf'.readable_iff.mpr ⟨h.parts.hasName hnames, h.lead.trim_eq ▸ htag⟩⟩

end Layout

/-- A segment that can be read has exactly one layout, and can be read with spaces added to that,
wherever it stands. Its tag is the same then, its decorations are the same up to spaces around their
values, and they are the same ones exactly if no spaces are added around the values in brackets. -/
theorem read_spaced {selector? : Option Text} {offset? : Option Int} {raw : Text}
    {segment : Segment} (h : read selector? offset? raw = .ok segment) :
    ∃ layout : Layout, (∀ other : Layout, other.WellFormed ∧ other.text = raw ↔ other = layout) ∧
      ∀ other, layout.Spaced other → ∀ (within? : Option Text) (place? : Option Int),
        ∃ segment', read within? place? other.text = .ok segment' ∧
          (∀ default, segment'.tag default = segment.tag default) ∧
          segment'.decorations.map Decoration.trimmed =
            segment.decorations.map Decoration.trimmed ∧
          (segment'.decorations = segment.decorations ↔
            (other.parts.map fun part ↦ part.1.value?) =
              layout.parts.map fun part ↦ part.1.value?) := by
  obtain ⟨hreadable, rfl⟩ := read_eq_ok_iff.mp h
  obtain ⟨layout, honly⟩ := hreadable.exists_layout
  obtain ⟨hwf, rfl⟩ := (honly layout).mpr rfl
  refine ⟨layout, honly, fun other hspaced within? place? ↦ ?_⟩
  obtain ⟨hwf', hreadable'⟩ := hspaced.readable hwf hreadable
  refine ⟨ofText other.text, read_eq_ok_iff.mpr ⟨hreadable', rfl⟩, fun default ↦ ?_, ?_⟩
  · rw [hwf.ofText_text, hwf'.ofText_text, Segment.tag, Segment.tag, tagOf?, tagOf?,
      hspaced.lead.trim_eq]
  · rw [hwf.ofText_text, hwf'.ofText_text, ← hwf.filterMap_meaning, ← hwf'.filterMap_meaning]
    exact ⟨hspaced.parts.trimmed_meaning, hspaced.parts.meaning_eq_iff⟩

/-- Spaces around a tag, behind a marker, behind a run and around a name do not matter. -/
theorem read_spaced_outside_values :
    ∃ segment segment', read none (some 0) "p.a[b=c]#d e[on].x".toList = .ok segment ∧
      read none (some 0) " p  . a  [ b =c]#  d e [  on ].x".toList = .ok segment' ∧
      (∀ default, segment'.tag default = segment.tag default) ∧
      segment'.decorations = segment.decorations := by
  let segment : Segment := ⟨"p.a[b=c]#d e[on].x".toList, some "p".toList,
    [⟨.classes, some "a".toList, false⟩, ⟨.attribute "b".toList, some "c".toList, false⟩,
      ⟨.ids, some "d e".toList, false⟩, ⟨.attribute "on".toList, none, false⟩,
      ⟨.classes, some "x".toList, false⟩]⟩
  have hread : read none (some 0) segment.raw = .ok segment := eq_ok_of_toOption (by decide +kernel)
  obtain ⟨layout, honly, hspaced⟩ := read_spaced hread
  obtain rfl := (honly ⟨"p".toList, [(.run .dot "a".toList, []),
    (.bracket ("b".toList ++ '=' :: "c".toList), []), (.run .hash "d e".toList, []),
    (.bracket "on".toList, []), (.run .dot "x".toList, [])]⟩).mp (by decide +kernel)
  obtain ⟨segment', hread', htag, -, hdecorations⟩ :=
    hspaced ⟨" p  ".toList, [(.run .dot " a  ".toList, []),
        (.bracket (" b ".toList ++ '=' :: "c".toList), []), (.run .hash "  d e ".toList, []),
        (.bracket "  on ".toList, []), (.run .dot "x".toList, [])]⟩
      ⟨.of_eq 1 2 rfl, .cons ⟨.run .dot (.of_eq 1 2 rfl), rfl⟩ <|
        .cons ⟨.assignment (.of_eq 1 1 rfl) (.refl _) (by decide), rfl⟩ <|
          .cons ⟨.run .hash (.of_eq 2 1 rfl), rfl⟩ <|
            .cons ⟨.name (.of_eq 2 1 rfl) (by decide), rfl⟩ <|
              .cons ⟨.refl _, rfl⟩ .nil⟩ none (some 0)
  exact ⟨segment, segment', hread, hread', htag, hdecorations.mpr (by decide)⟩

/-- Spaces around the value in a bracket are kept. -/
theorem read_spaced_value :
    Layout.Spaced ⟨"a".toList, [(.bracket ("b".toList ++ '=' :: "c".toList), [])]⟩
        ⟨"a".toList, [(.bracket ("b".toList ++ '=' :: " c".toList), [])]⟩ ∧
      ∃ segment segment', read none (some 0) "a[b=c]".toList = .ok segment ∧
        read none (some 0) "a[b= c]".toList = .ok segment' ∧
        segment'.decorations ≠ segment.decorations := by
  refine ⟨⟨.refl _, .cons ⟨.assignment (.refl _) (.of_eq 1 0 rfl) (by decide), rfl⟩ .nil⟩,
    ⟨"a[b=c]".toList, some "a".toList, [⟨.attribute "b".toList, some "c".toList, false⟩]⟩,
    ⟨"a[b= c]".toList, some "a".toList, [⟨.attribute "b".toList, some " c".toList, false⟩]⟩,
    eq_ok_of_toOption (by decide +kernel), eq_ok_of_toOption (by decide +kernel), by decide⟩

end Segment
end Shorthand
