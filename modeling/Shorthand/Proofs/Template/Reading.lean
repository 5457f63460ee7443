import Shorthand.Proofs.Outcome
import Shorthand.Proofs.Template.Grammar

/-!
# Reading and the grammar

Every reader of templates accepts exactly what the grammar allows in front of the text it
leaves, and gives back what the grammar says is meant. The main statement is that a template
is read exactly if it is blank or the text of a well-formed group, and that reading gives the
forest of that group.
-/

namespace Shorthand.Template

open Text Grammar

/-! ### Decorations -/

/-- Where no decoration begins none is read. -/
theorem readDecoration_of_beginsNoMark {s : Text} (h : BeginsNoMark s) :
    readDecoration s = .ok none := by
  cases s with
  | nil => rfl
  | cons c rest =>
    obtain ⟨hhash, hdot, hopen⟩ := h c rfl
    have hnone : Marker.ofChar? c = none := Marker.ofChar?_eq_none_iff.mpr ⟨hhash, hdot⟩
    simp [readDecoration, hnone, hopen]

private theorem readMarked_run {marker : Marker} {value rest : Text} (hne : value ≠ [])
    (h : IsStretch isRunChar value rest) :
    readMarked marker (value ++ rest) = .ok (⟨marker.target, some (trim value), false⟩, rest) := by
  have htake := h.takeWhile_eq
  have hdrop := h.dropWhile_eq
  unfold readMarked
  split
  · next after heq => exact absurd heq (run_ne_placeholder hne h after)
  · rw [htake, hdrop]
    cases value with
    | nil => exact absurd rfl hne
    | cons c value => rfl

private theorem attributeDecoration_eq (body : Text) :
    attributeDecoration (trim (cutAt '=' body).1) (cutAt '=' body).2 =
      (Mark.bracket body).decoration := by
  simp only [attributeDecoration, Mark.decoration, Lexeme.isHole, decide_eq_true_eq]

private theorem readAttribute_bracket {body rest : Text} (hopen : openBracket ∉ body)
    (hclose : closeBracket ∉ body) (hname : isName (trim (cutAt '=' body).1) = true) :
    readAttribute (body ++ closeBracket :: rest) = .ok ((Mark.bracket body).decoration, rest) := by
  have hbody : bracketBody? (body ++ closeBracket :: rest) = some body :=
    bracketBody?_eq_some_iff.mpr ⟨hopen, hclose, rest, rfl⟩
  have hne : trim (cutAt '=' body).1 ≠ [] := (isName_iff.mp hname).1
  simp [readAttribute, hbody, attributeParts, hne, hname, attributeDecoration_eq]

/-- A well-formed decoration is read as what it means. -/
theorem readDecoration_text {mark : Mark} {rest : Text} (h : mark.Fits rest) :
    readDecoration (mark.text ++ rest) = .ok (some (mark.decoration, rest)) := by
  have hmarker : ∀ marker : Marker, Marker.ofChar? marker.char = some marker :=
    fun marker ↦ Marker.ofChar?_eq_some_iff.mpr rfl
  cases mark with
  | hole marker => simp [Mark.text, readDecoration, hmarker, readMarked, placeholderMark,
      Mark.decoration, Except.map]
  | run marker value =>
    simp [Mark.text, readDecoration, hmarker, readMarked_run h.1 h.2, Mark.decoration, Except.map]
  | bracket body =>
    have hnone : Marker.ofChar? openBracket = none := by decide
    simp [Mark.text, bracketed, readDecoration, hnone, readAttribute_bracket h.1 h.2.1 h.2.2,
      Except.map]

private theorem exists_mark_of_readMarked {marker : Marker} {s rest : Text} {d : Decoration}
    (h : readMarked marker s = .ok (d, rest)) :
    ∃ mark : Mark, mark.Fits rest ∧ mark.text ++ rest = marker.char :: s ∧ mark.decoration = d := by
  unfold readMarked at h
  split at h
  · next after =>
    obtain ⟨rfl, rfl⟩ : _ ∧ _ := by simpa using h
    exact ⟨.hole marker, trivial, rfl, rfl⟩
  · split at h
    · exact absurd h (by simp)
    · next hvalue =>
      obtain ⟨rfl, rfl⟩ : _ ∧ _ := by simpa using h
      refine ⟨.run marker (s.takeWhile isRunChar), ⟨hvalue, isStretch_takeWhile isRunChar s⟩, ?_,
        rfl⟩
      simp [Mark.text]

private theorem exists_mark_of_readAttribute {s rest : Text} {d : Decoration}
    (h : readAttribute s = .ok (d, rest)) :
    ∃ mark : Mark, mark.Fits rest ∧ mark.text ++ rest = openBracket :: s ∧
      mark.decoration = d := by
  unfold readAttribute at h
  split at h
  · exact absurd h (by simp)
  · next body hbody =>
    obtain ⟨hopen, hclose, after, rfl⟩ := bracketBody?_eq_some_iff.mp hbody
    have hdrop : (body ++ closeBracket :: after).drop (body.length + 1) = after := by
      rw [← List.drop_drop, List.drop_left]
      rfl
    simp only [hdrop, attributeParts] at h
    by_cases hempty : trim (cutAt '=' body).1 = []
    · simp [hempty] at h
    · by_cases hname : isName (trim (cutAt '=' body).1) = true
      · obtain ⟨rfl, rfl⟩ : _ ∧ _ := by simpa [hempty, hname] using h
        refine ⟨.bracket body, ⟨hopen, hclose, hname⟩, ?_, (attributeDecoration_eq body).symm⟩
        simp [Mark.text, bracketed]
      · simp [hempty, hname] at h

/-- What is read as a decoration is a well-formed one. -/
theorem exists_mark_of_readDecoration {s rest : Text} {d : Decoration}
    (h : readDecoration s = .ok (some (d, rest))) :
    ∃ mark : Mark, mark.Fits rest ∧ mark.text ++ rest = s ∧ mark.decoration = d := by
  cases s with
  | nil => exact absurd h (by simp [readDecoration])
  | cons c s =>
    have hmap : ∀ x : Except Fault (Decoration × Text), x.map some = .ok (some (d, rest)) →
        x = .ok (d, rest) := by
      intro x hx
      cases x with
      | error fault => exact absurd hx (by simp [Except.map])
      | ok pair => simpa [Except.map] using hx
    unfold readDecoration at h
    cases hmarker : Marker.ofChar? c with
    | some marker =>
      obtain rfl := Marker.ofChar?_eq_some_iff.mp hmarker
      simp only [hmarker] at h
      exact exists_mark_of_readMarked (hmap _ h)
    | none =>
      simp only [hmarker] at h
      split at h
      · next hopen =>
        subst hopen
        exact exists_mark_of_readAttribute (hmap _ h)
      · exact absurd h (by simp)

/-- Well-formed decorations are read one after the other, up to where none begins. -/
theorem readDecorations_text {marks : List Mark} {rest : Text} {bound : Nat}
    (h : MarksFit rest marks) (hrest : BeginsNoMark rest) (hbound : marks.length ≤ bound) :
    readDecorations bound (marksText marks ++ rest) = .ok (marks.map Mark.decoration, rest) := by
  induction marks generalizing bound with
  | nil =>
    cases bound with
    | zero => rfl
    | succ bound =>
      simp [marksText, readDecorations, readDecoration_of_beginsNoMark hrest, bind, Except.bind,
        pure, Except.pure]
  | cons mark marks ih =>
    cases bound with
    | zero => exact absurd hbound (by simp)
    | succ bound =>
      have hothers := ih h.2 (by simpa using hbound)
      have hmark := readDecoration_text h.1
      have htext : marksText (mark :: marks) ++ rest = mark.text ++ (marksText marks ++ rest) := by
        simp [marksText]
      rw [htext, readDecorations, hmark]
      simp [bind, Except.bind, hothers, pure, Except.pure]

/-- What is read as decorations are well-formed ones. -/
theorem exists_marks_of_readDecorations {bound : Nat} {s rest : Text} {ds : List Decoration}
    (h : readDecorations bound s = .ok (ds, rest)) :
    ∃ marks, MarksFit rest marks ∧ marksText marks ++ rest = s ∧
      marks.map Mark.decoration = ds := by
  induction bound generalizing s ds with
  | zero =>
    obtain ⟨rfl, rfl⟩ : _ ∧ _ := by simpa [readDecorations] using h
    exact ⟨[], trivial, rfl, rfl⟩
  | succ bound ih =>
    rw [readDecorations] at h
    obtain ⟨found, hfound, h⟩ := bind_eq_ok_iff.mp h
    cases found with
    | none =>
      obtain ⟨rfl, rfl⟩ := Prod.mk.inj (Except.ok.inj h)
      exact ⟨[], trivial, rfl, rfl⟩
    | some found =>
      obtain ⟨d, after⟩ := found
      obtain ⟨⟨others, rest'⟩, hothers, h⟩ := bind_eq_ok_iff.mp h
      obtain ⟨rfl, rfl⟩ := Prod.mk.inj (Except.ok.inj h)
      obtain ⟨marks, hfit, rfl, rfl⟩ := ih hothers
      obtain ⟨mark, hmark, rfl, rfl⟩ := exists_mark_of_readDecoration hfound
      exact ⟨mark :: marks, ⟨hmark, hfit⟩, by simp [marksText], rfl⟩

/-! ### The head of an item -/

/-- The head that a stretch without marks and decorations make up. -/
def headOf (run : Text) (marks : List Mark) : Head :=
  ⟨if trim run = [] then none else some (trim run), marks.map Mark.decoration⟩

private theorem stretch_trimStart (s : Text) :
    trim ((trimStart s).takeWhile (!isStop ·)) = trim (s.takeWhile (!isStop ·)) ∧
      (trimStart s).dropWhile (!isStop ·) = s.dropWhile (!isStop ·) := by
  have hblanks := (isStretch_takeWhile isBlank s).1
  have hkeep : ∀ c ∈ s.takeWhile isBlank, (!isStop c) = true :=
    fun c hc ↦ by rw [isStop_of_blanks hblanks c hc]; rfl
  have hs := takeWhile_append_trimStart s
  constructor
  · conv => rhs; rw [← hs, List.takeWhile_append_of_pos hkeep]
    rw [trim_append_left _ hblanks]
  · conv => rhs; rw [← hs, List.dropWhile_append_of_pos hkeep]

private theorem length_le_length_marksText (marks : List Mark) :
    marks.length ≤ (marksText marks).length := by
  induction marks with
  | nil => exact Nat.le_refl 0
  | cons mark marks ih =>
    have hpos : 0 < mark.text.length := by cases mark <;> simp [Mark.text, bracketed]
    simp only [marksText, List.flatMap_cons, List.length_append, List.length_cons] at ih ⊢
    omega

/-- A well-formed head is read as what it means. -/
theorem readHead_text {run after : Text} {marks : List Mark} (h : HeadFits run marks after)
    (hafter : BeginsNoMark after) :
    readHead (run ++ marksText marks ++ after) = .ok (headOf run marks, after) := by
  obtain ⟨hrun, hname, hmarks⟩ := h
  obtain ⟨htag, hrest⟩ := stretch_trimStart (run ++ marksText marks ++ after)
  rw [List.append_assoc, hrun.takeWhile_eq] at htag
  rw [List.append_assoc, hrun.dropWhile_eq] at hrest
  have hbound : marks.length ≤ (marksText marks ++ after).length := by
    have := length_le_length_marksText marks
    rw [List.length_append]
    omega
  have hread := readDecorations_text hmarks hafter hbound
  have hcheck : ¬ (trim run ≠ [] ∧ (!isName (trim run)) = true) := by
    rcases hname with hname | hname <;> simp [hname]
  rw [List.append_assoc]
  simp only [readHead, htag, hrest, hcheck, if_false, hread]
  rfl

/-- What is read as a head is a well-formed one. -/
theorem exists_head_of_readHead {s after : Text} {head : Head}
    (h : readHead s = .ok (head, after)) :
    ∃ run marks, HeadFits run marks after ∧ run ++ marksText marks ++ after = s ∧
      head = headOf run marks := by
  obtain ⟨htag, hrest⟩ := stretch_trimStart s
  simp only [readHead, htag, hrest] at h
  split at h
  · exact absurd h (by simp)
  · next hcheck =>
    obtain ⟨⟨ds, after'⟩, hread, h⟩ := bind_eq_ok_iff.mp h
    obtain ⟨rfl, rfl⟩ := Prod.mk.inj (Except.ok.inj h)
    obtain ⟨marks, hfit, htext, rfl⟩ := exists_marks_of_readDecorations hread
    refine ⟨s.takeWhile (!isStop ·), marks, ⟨?_, ?_, hfit⟩, ?_, rfl⟩
    · rw [htext]
      exact isStretch_takeWhile _ s
    · by_cases hempty : trim (s.takeWhile (!isStop ·)) = []
      · exact .inl hempty
      · right
        simpa [hempty] using hcheck
    · rw [List.append_assoc, htext, List.takeWhile_append_dropWhile]

/-! ### Items -/

/-- A reader of groups that reads the group inside an item as what it means. -/
def ReadsInside (readGroup : Text → Except Fault (Forest × Text)) (inner : Inner) : Prop :=
  ∀ inside, inner = .group inside →
    ∀ rest, readGroup (inside.text ++ ')' :: rest) = .ok (inside.forest, ')' :: rest)

private theorem readContent_text {readGroup : Text → Except Fault (Forest × Text)} {inner : Inner}
    {blanks rest : Text} (hread : ReadsInside readGroup inner)
    (hblanks : ∀ c ∈ blanks, isBlank c = true) (hrest : EndsItem rest) :
    readContent readGroup (inner.text ++ (blanks ++ rest)) =
      .ok (inner.content, blanks ++ rest) := by
  cases inner with
  | nothing =>
    have hhead := fun c ↦ @head_blanks_append blanks rest hblanks hrest c
    unfold readContent Inner.text
    rw [List.nil_append]
    split
    · next heq => exact absurd rfl (hhead '%' (by rw [heq]; rfl)).2.2.2.1
    · next heq => exact absurd rfl (hhead '(' (by rw [heq]; rfl)).2.2.2.2
    · rfl
  | hole => rfl
  | group inside =>
    have hinside := hread inside rfl (blanks ++ rest)
    simp only [Inner.text, List.cons_append, List.append_assoc, List.nil_append, readContent,
      hinside]
    rfl

/-- A well-formed item is read as what it means. -/
theorem readItem_text {readGroup : Text → Except Fault (Forest × Text)} {item : Item} {rest : Text}
    (h : item.WellFormed) (hread : ReadsInside readGroup item.inner) (hrest : EndsItem rest) :
    readItem readGroup (item.text ++ rest) = .ok ((item.segment, item.content), rest) := by
  obtain ⟨run, marks, inner, blanks⟩ := item
  obtain ⟨hfit, -, hblanks, hblank⟩ := h
  have hhead := readHead_text (hfit.append hrest)
    (by rw [List.append_assoc]; exact beginsNoMark_inner inner hblanks hrest)
  have hcontent := readContent_text hread hblanks hrest
  have hstart : trimStart (blanks ++ rest) = rest := (hrest.isStretch hblanks).dropWhile_eq
  have htext : Item.text ⟨run, marks, inner, blanks⟩ ++ rest =
      run ++ marksText marks ++ (inner.text ++ blanks ++ rest) := by
    simp [Item.text]
  have hraw : trim (Item.text ⟨run, marks, inner, blanks⟩) ≠ [] := by
    rw [Ne, trim_eq_nil_iff, hblank]
    decide
  rw [htext, readItem, hhead, ← htext]
  simp only [List.append_assoc, hcontent, bind, Except.bind, hstart, before_append, hraw, if_false]
  rfl

/-- A reader of groups that reads nothing but well-formed groups, as what they mean. -/
def ReadsGroups (readGroup : Text → Except Fault (Forest × Text)) : Prop :=
  ∀ s forest rest, readGroup s = .ok (forest, rest) →
    ∃ group : Group, group.WellFormed ∧ group.text ++ rest = s ∧ group.forest = forest

/-- What is read as content is well formed. -/
theorem exists_inner_of_readContent {readGroup : Text → Except Fault (Forest × Text)}
    {s rest : Text} {content : Content} (hread : ReadsGroups readGroup)
    (h : readContent readGroup s = .ok (content, rest)) :
    ∃ inner : Inner, inner.WellFormed ∧ inner.text ++ rest = s ∧ inner.content = content := by
  unfold readContent at h
  split at h
  · next after =>
    obtain ⟨rfl, rfl⟩ : _ ∧ _ := by simpa using h
    exact ⟨.hole, trivial, rfl, rfl⟩
  · next after =>
    obtain ⟨⟨forest, left⟩, hgroup, h⟩ := bind_eq_ok_iff.mp h
    obtain ⟨group, hwf, rfl, rfl⟩ := hread _ _ _ hgroup
    split at h
    · next forest' behind heq =>
      obtain ⟨rfl, rfl⟩ := Prod.mk.inj (Except.ok.inj h)
      obtain ⟨rfl, rfl⟩ : _ ∧ _ := by simpa using heq
      exact ⟨.group group, hwf, by simp [Inner.text], rfl⟩
    · exact absurd h (by simp)
  · obtain ⟨rfl, rfl⟩ : _ ∧ _ := by simpa using h
    exact ⟨.nothing, trivial, rfl, rfl⟩

/-- What is read as an item is a well-formed one. -/
theorem exists_item_of_readItem {readGroup : Text → Except Fault (Forest × Text)} {s rest : Text}
    {segment : Segment} {content : Content} (hread : ReadsGroups readGroup)
    (h : readItem readGroup s = .ok ((segment, content), rest)) :
    ∃ item : Item, item.WellFormed ∧ item.text ++ rest = s ∧ item.segment = segment ∧
      item.content = content := by
  obtain ⟨⟨head, afterHead⟩, hhead, h⟩ := bind_eq_ok_iff.mp h
  obtain ⟨⟨found, afterContent⟩, hcontent, h⟩ := bind_eq_ok_iff.mp h
  simp only at h
  split at h
  · exact absurd h (by simp)
  · next hraw =>
    obtain ⟨hparts, rfl⟩ := Prod.mk.inj (Except.ok.inj h)
    obtain ⟨rfl, rfl⟩ := Prod.mk.inj hparts
    obtain ⟨run, marks, hfit, rfl, rfl⟩ := exists_head_of_readHead hhead
    obtain ⟨inner, hinner, rfl, rfl⟩ := exists_inner_of_readContent hread hcontent
    have hblanks := takeWhile_append_trimStart afterContent
    have htext : Item.text ⟨run, marks, inner, afterContent.takeWhile isBlank⟩ ++
        trimStart afterContent = run ++ marksText marks ++ (inner.text ++ afterContent) := by
      simp only [Item.text, List.append_assoc, hblanks]
    rw [← htext, before_append] at hraw ⊢
    rw [← hblanks, ← List.append_assoc] at hfit
    refine ⟨⟨run, marks, inner, afterContent.takeWhile isBlank⟩, ⟨hfit.of_append, hinner,
      (isStretch_takeWhile isBlank afterContent).1, ?_⟩, rfl, rfl, rfl⟩
    rw [← Bool.not_eq_true, ← trim_eq_nil_iff]
    exact hraw

/-! ### Groups -/

private theorem length_item_pos {item : Item} (h : item.WellFormed) : 0 < item.text.length := by
  obtain ⟨run, marks, inner, blanks⟩ := item
  obtain ⟨-, -, -, hblank⟩ := h
  rw [List.length_pos_iff]
  intro hnil
  rw [hnil] at hblank
  exact absurd hblank (by decide)

private theorem length_inside_lt {item : Item} {inside : Group} (h : item.inner = .group inside) :
    inside.text.length < item.text.length := by
  obtain ⟨run, marks, inner, blanks⟩ := item
  obtain rfl : inner = .group inside := h
  simp [Item.text, Inner.text]
  omega

private theorem readsInside {item : Item} {bound : Nat} (h : item.WellFormed)
    (hbound : item.text.length ≤ bound + 1)
    (ih : ∀ inside, item.inner = .group inside → ∀ rest bound, inside.WellFormed →
      EndsGroup rest → inside.text.length ≤ bound →
        readGroup bound (inside.text ++ rest) = .ok (inside.forest, rest)) :
    ReadsInside (readGroup bound) item.inner := by
  intro inside hinside rest
  have hlt := length_inside_lt hinside
  exact ih inside hinside _ bound (h.inside hinside) (by simp [EndsGroup]) (by omega)

/-- A well-formed group is read as what it means, if the bound allows for its length. -/
theorem readGroup_text {group : Group} (rest : Text) (bound : Nat) (h : group.WellFormed)
    (hrest : EndsGroup rest) (hbound : group.text.length ≤ bound) :
    readGroup bound (group.text ++ rest) = .ok (group.forest, rest) := by
  induction group generalizing bound rest with
  | one item ihInside =>
    rw [Group.text] at hbound ⊢
    have hpos := length_item_pos h
    obtain ⟨bound, rfl⟩ : ∃ n, bound = n + 1 := ⟨bound - 1, by omega⟩
    have hitem := readItem_text h (readsInside h hbound ihInside) hrest.endsItem
    rw [readGroup, hitem]
    simp only [bind, Except.bind]
    split
    · exact absurd (hrest '+' rfl) (by decide)
    · rfl
  | more item others ihInside ihOthers =>
    obtain ⟨hwf, hothers⟩ := h
    rw [Group.text, List.length_append, List.length_cons] at hbound
    have hpos := length_item_pos hwf
    obtain ⟨bound, rfl⟩ : ∃ n, bound = n + 1 := ⟨bound - 1, by omega⟩
    have hinside : ReadsInside (readGroup bound) item.inner :=
      readsInside hwf (by omega) ihInside
    have hitem := readItem_text hwf hinside (endsItem_plus (others.text ++ rest))
    have hread := ihOthers rest bound hothers hrest (by omega)
    rw [Group.text, List.append_assoc, List.cons_append, readGroup, hitem]
    simp only [bind, Except.bind, hread]
    rfl

/-- What is read as a group is a well-formed one. -/
theorem readsGroups_readGroup (bound : Nat) : ReadsGroups (readGroup bound) := by
  induction bound with
  | zero =>
    intro s forest rest h
    exact absurd h (by simp [readGroup])
  | succ bound ih =>
    intro s forest rest h
    rw [readGroup] at h
    obtain ⟨⟨⟨segment, content⟩, after⟩, hitem, h⟩ := bind_eq_ok_iff.mp h
    obtain ⟨item, hwf, rfl, rfl, rfl⟩ := exists_item_of_readItem ih hitem
    simp only at h
    split at h
    · next following =>
      obtain ⟨⟨next, rest'⟩, hnext, h⟩ := bind_eq_ok_iff.mp h
      obtain ⟨rfl, rfl⟩ := Prod.mk.inj (Except.ok.inj h)
      obtain ⟨others, hothers, rfl, rfl⟩ := ih _ _ _ hnext
      exact ⟨.more item others, ⟨hwf, hothers⟩, by simp [Group.text], rfl⟩
    · obtain ⟨rfl, rfl⟩ := Prod.mk.inj (Except.ok.inj h)
      exact ⟨.one item, hwf, rfl, rfl⟩

/-! ### Templates -/

/-- A well-formed group is not blank. -/
theorem isBlankText_group {group : Group} (h : group.WellFormed) :
    isBlankText group.text = false := by
  have hitem : ∀ item : Item, item.WellFormed → isBlankText item.text = false := by
    rintro ⟨run, marks, inner, blanks⟩ ⟨-, -, -, hblank⟩
    exact hblank
  cases group with
  | one item => exact hitem item h
  | more item others =>
    rw [Group.text]
    exact isBlankText_append_left (hitem item h.1) _

/-- A text is read to its end exactly if it is the text of a well-formed group, and a blank one is
left as it is. -/
theorem readForest_eq_ok_iff {s rest : Text} {forest : Forest} :
    readForest s = .ok (forest, rest) ↔
      (isBlankText s = true ∧ forest = .nil ∧ rest = s) ∨
        ∃ group : Group, group.WellFormed ∧ group.text = s ∧ group.forest = forest ∧ rest = [] := by
  rw [readForest]
  constructor
  · intro h
    split at h
    · next hblank =>
      obtain ⟨rfl, rfl⟩ := Prod.mk.inj (Except.ok.inj h)
      exact .inl ⟨hblank, rfl, rfl⟩
    · obtain ⟨⟨found, left⟩, hgroup, h⟩ := bind_eq_ok_iff.mp h
      obtain ⟨group, hwf, htext, rfl⟩ := readsGroups_readGroup _ _ _ _ hgroup
      cases left with
      | nil =>
        obtain ⟨rfl, rfl⟩ := Prod.mk.inj (Except.ok.inj h)
        exact .inr ⟨group, hwf, by rw [← htext, List.append_nil], rfl, rfl⟩
      | cons c left => exact absurd h.symm ok_ne_error
  · rintro (⟨hblank, rfl, rfl⟩ | ⟨group, hwf, rfl, rfl, rfl⟩)
    · rw [if_pos hblank]
    · have hread := readGroup_text [] group.text.length hwf (by simp [EndsGroup]) (Nat.le_refl _)
      rw [List.append_nil] at hread
      rw [if_neg (by simp [isBlankText_group hwf]), hread]
      rfl

/-- A template is read exactly if it is blank or the text of a well-formed group. -/
theorem parse_eq_ok_iff {template : Text} {forest : Forest} :
    parse template = .ok forest ↔
      (isBlankText template = true ∧ forest = .nil) ∨
        ∃ group : Group, group.WellFormed ∧ group.text = template ∧ group.forest = forest := by
  simp only [parse_eq_ok_iff_exists, readForest_eq_ok_iff]
  constructor
  · rintro ⟨rest, ⟨hblank, hforest, -⟩ | ⟨group, hwf, htext, hforest, -⟩⟩
    · exact .inl ⟨hblank, hforest⟩
    · exact .inr ⟨group, hwf, htext, hforest⟩
  · rintro (⟨hblank, hforest⟩ | ⟨group, hwf, htext, hforest⟩)
    · exact ⟨template, .inl ⟨hblank, hforest, rfl⟩⟩
    · exact ⟨[], .inr ⟨group, hwf, htext, hforest, rfl⟩⟩

/-- A well-formed group is what its text is read as. -/
theorem parse_text {group : Group} (h : group.WellFormed) : parse group.text = .ok group.forest :=
  parse_eq_ok_iff.mpr (.inr ⟨group, h, rfl, rfl⟩)

/-- A template that is read without a fault has a forest. -/
theorem exists_forest_of_isOk {template : Text} (h : (parse template).isOk = true) :
    ∃ forest, parse template = .ok forest := by
  cases hparse : parse template with
  | ok forest => exact ⟨forest, rfl⟩
  | error fault =>
    rw [hparse] at h
    exact absurd h Bool.false_ne_true

end Shorthand.Template
