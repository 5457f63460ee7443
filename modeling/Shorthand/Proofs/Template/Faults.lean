import Shorthand.Proofs.Segment.Faults
import Shorthand.Proofs.Template.Parentheses

/-!
# Faults in templates

Where the fault of a template is found, and what it tells. The main statement says that a reader
gives the same result whenever it is run, that it comes to the end of a template that it can read,
and that a fault points at the text that it complains about.
-/

namespace Shorthand

open Text

namespace Template

open Grammar

variable {s : Text} {fault : Fault} {place : Nat} {segment? : Option Text} {reason : Reason}
  {o : Outline}

/-- Whether a fault that tells a place of a template, and a bracket if it is found in one, points at
the text that it complains about. -/
def PointsAt (template : Text) (place : Nat) (segment? : Option Text) : Reason → Prop
  | .unexpected c => template[place]? = some c
  | .invalidName .tag name => name ≠ [] ∧ isName name = false ∧ StandsAt template place name
  | .unterminatedBracket => template[place]? = some openBracket
  | .bareMarker marker => template[place]? = some marker.char
  | .unclosedGroup =>
    (∀ c ∈ template[place]?, c ≠ ')' ∧ c ≠ '+') ∧
      ∃ o, Outline.of? (template.take place) = some o ∧ 0 < o.openGroups
  | .emptySegment => ∀ c ∈ template[place]?, c = '+' ∨ c = ')' ∨ c = closeBracket
  | .emptyAttributeName =>
    ∃ bracket, segment? = some bracket ∧
      IsFaultyBracket template place bracket .emptyAttributeName
  | .invalidName .attribute name =>
    ∃ bracket, segment? = some bracket ∧
      IsFaultyBracket template place bracket (.invalidName .attribute name)
  | _ => False

/-- What points at something in a text points at it in a longer one, if the brackets of what is in
front alternate. -/
theorem PointsAt.behind (hwf : o.WellFormed) (h : PointsAt s place segment? reason) :
    PointsAt (Outline.text o ++ s) ((Outline.text o).length + place) segment? reason := by
  have hget : (Outline.text o ++ s)[(Outline.text o).length + place]? = s[place]? := by
    rw [List.getElem?_append_right (Nat.le_add_right ..), Nat.add_sub_cancel_left]
  have hstands : StandsAt (Outline.text o ++ s) (Outline.text o).length s :=
    standsAt_append _ (List.prefix_refl s)
  cases reason with
  | unexpected c => exact hget.trans h
  | unterminatedBracket => exact hget.trans h
  | bareMarker marker => exact hget.trans h
  | emptySegment => exact fun c hc ↦ h c (hget ▸ hc)
  | custom text => exact h
  | emptyAttributeName =>
    obtain ⟨bracket, hbracket, hfaulty⟩ := h
    exact ⟨bracket, hbracket, hfaulty.of_standsAt hstands⟩
  | invalidName role name =>
    cases role with
    | tag => exact ⟨h.1, h.2.1, hstands.trans h.2.2⟩
    | «attribute» =>
      obtain ⟨bracket, hbracket, hfaulty⟩ := h
      exact ⟨bracket, hbracket, hfaulty.of_standsAt hstands⟩
    | custom label => exact h
  | unclosedGroup =>
    obtain ⟨hhead, o', ho', hopen⟩ := h
    obtain ⟨hwf', htext⟩ := Outline.of?_eq_some_iff.mp ho'
    refine ⟨fun c hc ↦ hhead c (hget ▸ hc), o ++ o', Outline.of?_eq_some_iff.mpr ⟨?_, ?_⟩, ?_⟩
    · exact Outline.wellFormed_append.mpr ⟨hwf, hwf'⟩
    · rw [Outline.text_append, htext, List.take_length_add_append]
    · exact Nat.lt_of_lt_of_le hopen (Outline.openGroups_le_append o o')

/-- Whether a fault is found in a text and points at what it complains about. -/
def Fault.IsLocated (s : Text) (fault : Fault) : Prop :=
  ∃ front, s = front ++ fault.place ∧ PointsAt s front.length fault.segment? fault.reason

/-- A fault at the front of a text is found in it. -/
theorem Fault.isLocated_front (hplace : fault.place = s)
    (h : PointsAt s 0 fault.segment? fault.reason) : fault.IsLocated s :=
  ⟨[], hplace.symm, h⟩

/-- A fault of a text is found in a longer one, if the brackets of what is in front alternate. -/
theorem Fault.IsLocated.behind (hwf : o.WellFormed) (h : fault.IsLocated s) :
    fault.IsLocated (Outline.text o ++ s) := by
  obtain ⟨front, hs, hpoints⟩ := h
  refine ⟨Outline.text o ++ front, by rw [List.append_assoc, ← hs], ?_⟩
  rw [List.length_append]
  exact hpoints.behind hwf

/-! ### Decorations -/

private theorem isLocated_of_readMarked {marker : Marker} {rest : Text}
    (h : readMarked marker rest = .error fault) : fault.IsLocated (marker.char :: rest) := by
  unfold readMarked at h
  split at h
  · exact absurd h ok_ne_error
  · split at h
    · obtain rfl := Except.error.inj h
      exact Fault.isLocated_front rfl rfl
    · exact absurd h ok_ne_error

private theorem isLocated_of_readAttribute {rest : Text}
    (h : readAttribute rest = .error fault) : fault.IsLocated (openBracket :: rest) := by
  unfold readAttribute at h
  split at h
  · obtain rfl := Except.error.inj h
    exact Fault.isLocated_front rfl rfl
  · next body hbody =>
    obtain ⟨hopen, hclose, after, rfl⟩ := bracketBody?_eq_some_iff.mp hbody
    simp only at h
    split at h
    · exact absurd h ok_ne_error
    · next reason hparts =>
      obtain rfl := Except.error.inj h
      have hfaulty : IsFaultyBracket (openBracket :: (body ++ closeBracket :: after)) 0
          (bracketed body) reason :=
        ⟨body, ⟨hopen, hclose⟩, rfl, hparts, after, by simp [bracketed]⟩
      refine ⟨[], rfl, ?_⟩
      rcases reason_of_attributeParts_eq_error hparts with rfl | ⟨name, rfl⟩
      · exact ⟨bracketed body, rfl, hfaulty⟩
      · exact ⟨bracketed body, rfl, hfaulty⟩

private theorem isLocated_of_readDecoration (h : readDecoration s = .error fault) :
    fault.IsLocated s := by
  have hmap : ∀ x : Except Fault (Decoration × Text), x.map some = .error fault →
      x = .error fault := by
    intro x hx
    cases x with
    | error other => exact congrArg _ (Except.error.inj hx)
    | ok found => exact absurd hx ok_ne_error
  unfold readDecoration at h
  split at h
  · exact absurd h ok_ne_error
  · split at h
    · next marker hmarker =>
      obtain rfl := Marker.ofChar?_eq_some_iff.mp hmarker
      exact isLocated_of_readMarked (hmap _ h)
    · split at h
      · next hopen =>
        rw [hopen]
        exact isLocated_of_readAttribute (hmap _ h)
      · exact absurd h ok_ne_error

private theorem isLocated_of_readDecorations {bound : Nat}
    (h : readDecorations bound s = .error fault) : fault.IsLocated s := by
  induction bound generalizing s with
  | zero => exact absurd h ok_ne_error
  | succ bound ih =>
    rw [readDecorations] at h
    rcases bind_eq_error_iff.mp h with hfirst | ⟨found, hfound, h⟩
    · exact isLocated_of_readDecoration hfirst
    · cases found with
      | none => exact absurd h ok_ne_error
      | some found =>
        obtain ⟨decoration, rest⟩ := found
        rcases bind_eq_error_iff.mp h with hothers | ⟨others, -, hok⟩
        · obtain ⟨mark, hfits, rfl, -⟩ := exists_mark_of_readDecoration hfound
          rw [← mark.text_outline]
          exact (ih hothers).behind hfits.outline.1
        · exact absurd hok ok_ne_error

private theorem beginsNoMark_of_readDecoration (h : readDecoration s = .ok none) :
    BeginsNoMark s := by
  have hmap : ∀ x : Except Fault (Decoration × Text), x.map some ≠ .ok none := by
    intro x
    cases x <;> simp [Except.map]
  unfold readDecoration at h
  split at h
  · exact fun c hc ↦ absurd hc (Option.not_mem_none c)
  · next c rest =>
    split at h
    · exact absurd h (hmap _)
    · next hmarker =>
      obtain ⟨hhash, hdot⟩ := Marker.ofChar?_eq_none_iff.mp hmarker
      split at h
      · exact absurd h (hmap _)
      · next hopen =>
        intro d hd
        obtain rfl : c = d := Option.some.inj hd
        exact ⟨hhash, hdot, hopen⟩

private theorem beginsNoMark_of_readDecorations {bound : Nat} {ds : List Decoration} {rest : Text}
    (h : readDecorations bound s = .ok (ds, rest)) (hbound : s.length ≤ bound) :
    BeginsNoMark rest := by
  induction bound generalizing s ds with
  | zero =>
    obtain ⟨-, rfl⟩ := Prod.mk.inj (Except.ok.inj h)
    rw [List.eq_nil_of_length_eq_zero (Nat.le_zero.mp hbound)]
    exact fun c hc ↦ absurd hc (Option.not_mem_none c)
  | succ bound ih =>
    rw [readDecorations] at h
    obtain ⟨found, hfound, h⟩ := bind_eq_ok_iff.mp h
    cases found with
    | none =>
      obtain ⟨-, rfl⟩ := Prod.mk.inj (Except.ok.inj h)
      exact beginsNoMark_of_readDecoration hfound
    | some found =>
      obtain ⟨decoration, behind⟩ := found
      obtain ⟨⟨others, left⟩, hothers, h⟩ := bind_eq_ok_iff.mp h
      obtain ⟨-, rfl⟩ := Prod.mk.inj (Except.ok.inj h)
      obtain ⟨mark, -, rfl, -⟩ := exists_mark_of_readDecoration hfound
      have hpos : 0 < mark.text.length := by cases mark <;> simp [Mark.text, bracketed]
      rw [List.length_append] at hbound
      exact ih hothers (by omega)

/-! ### The head of an item -/

private theorem trimStart_eq_self (h : ∀ c ∈ s.head?, isBlank c = false) : trimStart s = s := by
  have hnone : IsStretch isBlank [] s := ⟨by simp, h⟩
  exact hnone.dropWhile_eq

private theorem trim_prefix_self (h : ∀ c ∈ s.head?, isBlank c = false) : trim s <+: s := by
  have hend : (trimEnd s).reverse <:+ s.reverse := by
    rw [trimEnd, List.reverse_reverse]
    exact List.dropWhile_suffix _
  rw [trim, trimStart_eq_self h]
  exact List.reverse_suffix.mp hend

private theorem isLocated_of_readHead (h : readHead s = .error fault) : fault.IsLocated s := by
  have hblanks := isStretch_takeWhile isBlank s
  have hrun := isStretch_takeWhile (!isStop ·) (trimStart s)
  have hs := takeWhile_append_trimStart s
  have hfront := List.takeWhile_append_dropWhile (p := (!isStop ·)) (l := trimStart s)
  simp only [readHead] at h
  split at h
  · next htag =>
    obtain rfl := Except.error.inj h
    have hhead : ∀ c ∈ ((trimStart s).takeWhile (!isStop ·)).head?, isBlank c = false := by
      intro c hc
      apply hblanks.2 c
      rw [← trimStart, ← hfront, List.head?_append, Option.mem_def.mp hc]
      rfl
    have hname := (trim_prefix_self hhead).trans (List.takeWhile_prefix _)
    refine ⟨s.takeWhile isBlank, hs.symm, htag.1, by simpa using htag.2, ?_⟩
    have hstands := standsAt_append (s.takeWhile isBlank) hname
    rwa [hs] at hstands
  · rcases bind_eq_error_iff.mp h with hdecorations | ⟨found, -, hok⟩
    · have hstops : ∀ c ∈ s.takeWhile isBlank ++ (trimStart s).takeWhile (!isStop ·),
          isStop c = false := by
        intro c hc
        rcases List.mem_append.mp hc with hblank | hplain
        · exact isStop_of_blanks hblanks.1 c hblank
        · simpa using hrun.1 c hplain
      have hbehind := (isLocated_of_readDecorations hdecorations).behind (plains_of_isStop hstops).1
      rwa [Outline.text_plains, List.append_assoc, hfront, hs] at hbehind
    · exact absurd hok ok_ne_error

private theorem beginsNoMark_of_readHead {head : Head} {rest : Text}
    (h : readHead s = .ok (head, rest)) : BeginsNoMark rest := by
  simp only [readHead] at h
  split at h
  · exact absurd h.symm ok_ne_error
  · obtain ⟨⟨decorations, left⟩, hdecorations, h⟩ := bind_eq_ok_iff.mp h
    obtain ⟨-, rfl⟩ := Prod.mk.inj (Except.ok.inj h)
    exact beginsNoMark_of_readDecorations hdecorations (Nat.le_refl _)

/-! ### Items -/

section Items

variable {readGroup : Text → Except Fault (Forest × Text)}

/-- Whether a reader of groups leaves no plus sign behind them. -/
def LeavesNoPlus (readGroup : Text → Except Fault (Forest × Text)) : Prop :=
  ∀ s forest rest, readGroup s = .ok (forest, rest) → ∀ c ∈ rest.head?, c ≠ '+'

/-- Whether a reader of groups tells faults that are found in the text, for texts shorter than
`bound`. -/
def Locates (readGroup : Text → Except Fault (Forest × Text)) (bound : Nat) : Prop :=
  ∀ s fault, s.length < bound → readGroup s = .error fault → fault.IsLocated s

/-- A reader that tells faults in long texts tells them in short ones. -/
theorem Locates.mono {bound bound' : Nat} (h : Locates readGroup bound) (hle : bound' ≤ bound) :
    Locates readGroup bound' :=
  fun s fault hlt ↦ h s fault (Nat.lt_of_lt_of_le hlt hle)

private theorem isLocated_unclosedGroup {group : Group} {rest : Text} (hwf : group.WellFormed)
    (hhead : ∀ c ∈ rest.head?, c ≠ ')' ∧ c ≠ '+') :
    (Fault.here .unclosedGroup rest).IsLocated ('(' :: (group.text ++ rest)) := by
  have hopen : Outline.WellFormed (.plain '(' :: group.outline) :=
    Outline.wellFormed_cons.mpr ⟨by decide, hwf.outline.1⟩
  have htext : Outline.text (.plain '(' :: group.outline) = '(' :: group.text := by
    rw [Outline.text_cons, group.text_outline]
    rfl
  refine ⟨'(' :: group.text, rfl, ?_, .plain '(' :: group.outline, ?_, ?_⟩
  · rw [← List.cons_append, getElem?_length_append]
    exact hhead
  · rw [← List.cons_append, List.take_left, ← htext]
    exact Outline.of?_text hopen
  · rw [Outline.openGroups, Outline.groupsBehind_cons, hwf.isLevel]
    decide

private theorem isLocated_of_readContent (hreads : ReadsGroups readGroup)
    (hplus : LeavesNoPlus readGroup) (hlocates : Locates readGroup s.length)
    (h : readContent readGroup s = .error fault) : fault.IsLocated s := by
  unfold readContent at h
  split at h
  · exact absurd h ok_ne_error
  · next inside =>
    rcases bind_eq_error_iff.mp h with hinside | ⟨⟨forest, rest⟩, hgroup, h⟩
    · have hopen : Outline.WellFormed [.plain '('] := by decide
      exact (hlocates inside fault (by simp) hinside).behind hopen
    · split at h
      · exact absurd h ok_ne_error
      · next found left hclose heq =>
        obtain ⟨-, rfl⟩ := Prod.mk.inj heq
        obtain rfl := Except.error.inj h
        obtain ⟨group, hwf, rfl, -⟩ := hreads _ _ _ hgroup
        refine isLocated_unclosedGroup hwf fun c hc ↦ ⟨?_, hplus _ _ _ hgroup c hc⟩
        rintro rfl
        obtain ⟨behind, rfl⟩ := List.head?_eq_some_iff.mp hc
        exact hclose _ rfl
  · exact absurd h ok_ne_error

private theorem head_of_readContent_empty {rest : Text}
    (h : readContent readGroup s = .ok (.empty, rest)) :
    ∀ c ∈ s.head?, c ≠ placeholderMark ∧ c ≠ '(' := by
  unfold readContent at h
  split at h
  · exact absurd (Prod.mk.inj (Except.ok.inj h)).1 (by simp)
  · obtain ⟨⟨forest, left⟩, -, h⟩ := bind_eq_ok_iff.mp h
    split at h
    · exact absurd (Prod.mk.inj (Except.ok.inj h)).1 (by simp)
    · exact absurd h.symm ok_ne_error
  · next hhole hgroup =>
    intro c hc
    obtain ⟨behind, rfl⟩ := List.head?_eq_some_iff.mp hc
    constructor
    · rintro rfl
      exact hhole _ rfl
    · rintro rfl
      exact hgroup _ rfl

private theorem eq_nothing_of_blanks {marks : List Mark} {inner : Inner} {blanks : Text}
    (h : ∀ c ∈ marksText marks ++ (inner.text ++ blanks), isBlank c = true) :
    marks = [] ∧ inner = .nothing := by
  have hhead : ∀ c ∈ (marksText marks ++ (inner.text ++ blanks)).head?, isStop c = false :=
    fun c hc ↦ isStop_eq_false (.inl (h c (List.mem_of_head? hc)))
  cases marks with
  | cons mark marks =>
    have hstop := isStop_head_text mark (marksText marks)
    cases mark <;> exact absurd ((hhead _ rfl).symm.trans (hstop _ rfl)) Bool.false_ne_true
  | nil =>
    cases inner with
    | nothing => exact ⟨rfl, rfl⟩
    | hole => exact absurd (hhead placeholderMark rfl) (by decide)
    | group inside => exact absurd (hhead '(' rfl) (by decide)

private theorem head_of_nothing {run after rest : Text} (hfit : HeadFits run [] after)
    (hmark : BeginsNoMark after) (hcontent : readContent readGroup after = .ok (.empty, rest)) :
    ∀ c ∈ after.head?, c = '+' ∨ c = ')' ∨ c = closeBracket := by
  intro c hc
  have hstop : isStop c = true := by simpa using hfit.1.2 c hc
  obtain ⟨hhash, hdot, hopen⟩ := hmark c hc
  obtain ⟨hhole, hgroup⟩ := head_of_readContent_empty hcontent c hc
  rcases isStop_iff.mp hstop with rfl | rfl | rfl | rfl | rfl | rfl | rfl | rfl
  · exact absurd rfl hhash
  · exact absurd rfl hdot
  · exact absurd rfl hopen
  · exact .inr (.inr rfl)
  · exact absurd rfl hgroup
  · exact .inr (.inl rfl)
  · exact .inl rfl
  · exact absurd rfl hhole

private theorem isLocated_emptySegment {run after rest : Text} {marks : List Mark}
    {content : Content} (hreads : ReadsGroups readGroup) (hfit : HeadFits run marks after)
    (hmark : BeginsNoMark after) (hcontent : readContent readGroup after = .ok (content, rest))
    (hblank : trim (before (run ++ marksText marks ++ after) (trimStart rest)) = []) :
    (Fault.here .emptySegment (trimStart rest)).IsLocated (run ++ marksText marks ++ after) := by
  obtain ⟨inner, -, rfl, rfl⟩ := exists_inner_of_readContent hreads hcontent
  have htext : run ++ marksText marks ++ (inner.text ++ rest) =
      run ++ (marksText marks ++ (inner.text ++ rest.takeWhile isBlank)) ++ trimStart rest := by
    simp [takeWhile_append_trimStart]
  rw [htext, before_append, trim_eq_nil_iff, isBlankText, List.all_append, Bool.and_eq_true,
    List.all_eq_true, List.all_eq_true] at hblank
  obtain ⟨rfl, rfl⟩ := eq_nothing_of_blanks hblank.2
  have hends : ∀ c ∈ rest.head?, c = '+' ∨ c = ')' ∨ c = closeBracket :=
    head_of_nothing hfit hmark hcontent
  have hrest : trimStart rest = rest := trimStart_eq_self fun c hc ↦ by
    rcases hends c hc with rfl | rfl | rfl <;> decide
  have hsplit : run ++ marksText [] ++ (Inner.nothing.text ++ rest) = run ++ rest := by
    simp [Inner.text]
  have hget : (run ++ rest)[run.length]? = rest.head? := getElem?_length_append run rest
  rw [hrest, hsplit]
  exact ⟨run, rfl, fun c hc ↦ hends c (hget ▸ hc)⟩

private theorem isLocated_of_readItem (hreads : ReadsGroups readGroup)
    (hplus : LeavesNoPlus readGroup) (hlocates : Locates readGroup s.length)
    (h : readItem readGroup s = .error fault) : fault.IsLocated s := by
  rcases bind_eq_error_iff.mp h with hhead | ⟨⟨head, after⟩, hhead, h⟩
  · exact isLocated_of_readHead hhead
  · have hmark := beginsNoMark_of_readHead hhead
    obtain ⟨run, marks, hfit, rfl, rfl⟩ := exists_head_of_readHead hhead
    rcases bind_eq_error_iff.mp h with hcontent | ⟨⟨content, rest⟩, hcontent, hraw⟩
    · have hwf : Outline.WellFormed (Outline.plains run ++ marksOutline marks) :=
        Outline.wellFormed_append.mpr
          ⟨(plains_of_isStop hfit.isStop_eq_false).1, hfit.2.2.outline.1⟩
      have hshort : after.length ≤ (run ++ marksText marks ++ after).length := by
        rw [List.length_append]
        omega
      have hbehind :=
        (isLocated_of_readContent hreads hplus (hlocates.mono hshort) hcontent).behind hwf
      rwa [Outline.text_append, Outline.text_plains, text_marksOutline] at hbehind
    · simp only at hraw
      split at hraw
      · next hblank =>
        obtain rfl := Except.error.inj hraw
        exact isLocated_emptySegment hreads hfit hmark hcontent hblank
      · exact absurd hraw ok_ne_error

end Items

/-! ### Groups -/

private theorem leavesNoPlus_readGroup (bound : Nat) : LeavesNoPlus (readGroup bound) := by
  induction bound with
  | zero => exact fun s forest rest h ↦ absurd h.symm ok_ne_error
  | succ bound ih =>
    intro s forest rest h
    rw [readGroup] at h
    obtain ⟨⟨⟨segment, content⟩, after⟩, -, h⟩ := bind_eq_ok_iff.mp h
    simp only at h
    split at h
    · next following =>
      obtain ⟨⟨next, left⟩, hnext, h⟩ := bind_eq_ok_iff.mp h
      obtain ⟨-, rfl⟩ := Prod.mk.inj (Except.ok.inj h)
      exact ih _ _ _ hnext
    · next hnone =>
      obtain ⟨-, rfl⟩ := Prod.mk.inj (Except.ok.inj h)
      rintro c hc rfl
      obtain ⟨behind, rfl⟩ := List.head?_eq_some_iff.mp hc
      exact hnone _ rfl

private theorem locates_readGroup (bound : Nat) : Locates (readGroup bound) (bound + 1) := by
  -- Groups in parentheses and items behind a plus sign are read with a smaller bound.
  induction bound with
  | zero =>
    intro s fault hshort h
    obtain rfl : s = [] := List.eq_nil_of_length_eq_zero (by omega)
    obtain rfl := Except.error.inj h
    exact Fault.isLocated_front rfl fun c hc ↦ absurd hc (Option.not_mem_none c)
  | succ bound ih =>
    intro s fault hshort h
    rw [readGroup] at h
    rcases bind_eq_error_iff.mp h with hitem | ⟨⟨⟨segment, content⟩, rest⟩, hitem, hothers⟩
    · exact isLocated_of_readItem (readsGroups_readGroup bound) (leavesNoPlus_readGroup bound)
        (ih.mono (by omega)) hitem
    · obtain ⟨item, hwf, rfl, -, -⟩ := exists_item_of_readItem (readsGroups_readGroup bound) hitem
      simp only at hothers
      split at hothers
      · next following =>
        rcases bind_eq_error_iff.mp hothers with hnext | ⟨next, -, hok⟩
        · have hplus : Outline.WellFormed (item.outline ++ [.plain '+']) :=
            Outline.wellFormed_append.mpr ⟨hwf.outline.1, by decide⟩
          rw [List.length_append, List.length_cons] at hshort
          have hbehind := (ih following fault (by omega) hnext).behind hplus
          rwa [Outline.text_append, item.text_outline, List.append_assoc] at hbehind
        · exact absurd hok ok_ne_error
      · exact absurd hothers ok_ne_error

/-- The fault of a template is found in it, and points at what it complains about. -/
theorem isLocated_of_readForest {template : Text} (h : readForest template = .error fault) :
    fault.IsLocated template := by
  rw [readForest] at h
  split at h
  · exact absurd h ok_ne_error
  · rcases bind_eq_error_iff.mp h with hgroup | ⟨⟨forest, rest⟩, hgroup, hrest⟩
    · exact locates_readGroup template.length template fault (Nat.lt_succ_self _) hgroup
    · obtain ⟨group, -, rfl, -⟩ := readsGroups_readGroup _ _ _ _ hgroup
      cases rest with
      | nil => exact absurd hrest ok_ne_error
      | cons c rest =>
        obtain rfl := Except.error.inj hrest
        exact ⟨group.text, rfl, getElem?_length_append ..⟩

/-- The fault of a template names the template and a place in it, and points at what it complains
about. -/
theorem exists_pointsAt_of_parse_eq_error {template : Text} {fault : Malformed}
    (h : parse template = .error fault) :
    fault.selector = template ∧ ∃ (place : Nat) (segment? : Option Text),
      place ≤ template.length ∧
        fault.location? = some ⟨some template, segment?, some place⟩ ∧
          PointsAt template place segment? fault.reason := by
  obtain ⟨found, hread, rfl⟩ := parse_eq_error_iff_exists.mp h
  obtain ⟨front, htemplate, hpoints⟩ := isLocated_of_readForest hread
  have hlength := congrArg List.length htemplate
  rw [List.length_append] at hlength
  refine ⟨rfl, front.length, found.segment?, by omega, ?_, hpoints⟩
  have hoffset : (template.length : Int) - found.place.length = front.length := by omega
  rw [Fault.malformed, hoffset]

/-! ### Readers -/

namespace Reader

/-- A reader after it has been run a number of times. -/
def after : Nat → Reader → Reader
  | 0, reader => reader
  | runs + 1, reader => reader.run.2.after runs

/-- Running a reader does not change what it reads. -/
theorem template_after (runs : Nat) (reader : Reader) :
    (reader.after runs).template = reader.template := by
  induction runs generalizing reader with
  | zero => rfl
  | succ runs ih => rw [after, ih, template_run]

/-- A run that succeeds comes to the end of the template, or nowhere if that is blank. -/
theorem position_run {reader : Reader} {forest : Forest} (h : reader.run.1 = .ok forest) :
    reader.run.2.position =
      if isBlankText reader.template then 0 else reader.template.length := by
  rw [run_eq] at h ⊢
  split at h
  · next found rest hread =>
    rcases readForest_eq_ok_iff.mp hread with ⟨hblank, -, rfl⟩ | ⟨group, hwf, htext, -, rfl⟩
    · rw [if_pos hblank, leaving, Nat.sub_self]
    · rw [← htext, isBlankText_group hwf, leaving, htext]
      simp
  · exact absurd h.symm ok_ne_error

/-- However often a reader has been run before, it does what its first run did. It comes to the end
of a template that it can read, unless that is blank. A fault names the template and a place in it,
and points at the text that it complains about. -/
theorem run_after (reader : Reader) (runs : Nat) :
    (reader.after runs).run = reader.run ∧
      (∀ forest, reader.run.1 = .ok forest →
        reader.run.2.position =
          if isBlankText reader.template then 0 else reader.template.length) ∧
      ∀ fault, reader.run.1 = .error fault →
        fault.selector = reader.template ∧ ∃ (place : Nat) (segment? : Option Text),
          place ≤ reader.template.length ∧
            fault.location? = some ⟨some reader.template, segment?, some place⟩ ∧
              PointsAt reader.template place segment? fault.reason := by
  refine ⟨?_, fun forest ↦ position_run, fun fault h ↦ ?_⟩
  · rw [run_eq_run_ofTemplate, template_after, ← run_eq_run_ofTemplate]
  · rw [run_eq_run_ofTemplate] at h
    exact exists_pointsAt_of_parse_eq_error h

/-- A reader that is run for the third time tells that the parenthesis behind a bracket is not
closed at the end of the template. One that starts in the middle of a template comes to its end in
the second run. -/
theorem run_after_unclosed :
    ((ofTemplate "a[x=(](b(c)+d ".toList).after 2).run.1 =
        .error ⟨"a[x=(](b(c)+d ".toList, .unclosedGroup,
          some ⟨some "a[x=(](b(c)+d ".toList, none, some 14⟩⟩ ∧
      PointsAt "a[x=(](b(c)+d ".toList 14 none .unclosedGroup ∧
      ((Reader.mk "a+b(c) ".toList 2).after 1).run.2.position = 7 := by
  have hrun : ((ofTemplate "a[x=(](b(c)+d ".toList).after 2).run.1 =
      .error ⟨"a[x=(](b(c)+d ".toList, .unclosedGroup,
        some ⟨some "a[x=(](b(c)+d ".toList, none, some 14⟩⟩ :=
    eq_error_of_fault? (by decide +kernel)
  obtain ⟨hafter, -, hfault⟩ := run_after (ofTemplate "a[x=(](b(c)+d ".toList) 2
  obtain ⟨-, place, segment?, -, hlocation, hpoints⟩ := hfault _ (hafter ▸ hrun)
  obtain ⟨-, hsegment, hplace⟩ := Location.mk.inj (Option.some.inj hlocation)
  obtain rfl : none = segment? := hsegment
  obtain rfl : 14 = place := Int.ofNat.inj (Option.some.inj hplace)
  have hok : (parse "a+b(c) ".toList).isOk = true := by decide +kernel
  obtain ⟨forest, hforest⟩ := exists_forest_of_isOk hok
  obtain ⟨hagain, hposition, -⟩ := run_after (Reader.mk "a+b(c) ".toList 2) 1
  exact ⟨hrun, hpoints, by rw [hagain, hposition forest hforest]; decide⟩

end Reader
end Template
end Shorthand
