import Shorthand.Proofs.Outline
import Shorthand.Proofs.Text.Stretch
import Shorthand.Template.Reader

/-!
# The grammar of templates

A group as it is written, with everything that reading forgets: the blanks around tags and
values, and where each item begins and ends. The definitions say what text, what outline and what
forest a written group stands for, and when it is well formed; the main statements say that what
follows a text matters to this through its first character only.
-/

namespace Shorthand

/-- A marker is known by its character. -/
theorem Marker.char_injective {a b : Marker} (h : a.char = b.char) : a = b := by
  cases a <;> cases b <;> simp_all [Marker.char]

namespace Template.Grammar

open Text

/-- A decoration as it is written: a placeholder or a run behind a marker, or a bracket. -/
inductive Mark where
  | hole (marker : Marker)
  | run (marker : Marker) (value : Text)
  | bracket (body : Text)
  deriving DecidableEq, Repr

namespace Mark

/-- The text of a written decoration. -/
def text : Mark → Text
  | hole marker => [marker.char, placeholderMark]
  | run marker value => marker.char :: value
  | bracket body => bracketed body

/-- The outline of a written decoration. -/
def outline : Mark → Outline
  | hole marker => [.plain marker.char, .plain placeholderMark]
  | run marker value => .plain marker.char :: Outline.plains value
  | bracket body => [.bracket body]

/-- The decoration that is meant. -/
def decoration : Mark → Decoration
  | hole marker => ⟨marker.target, some [placeholderMark], true⟩
  | run marker value => ⟨marker.target, some (trim value), false⟩
  | bracket body =>
    if (Lexeme.bracket body).isHole then ⟨.attribute (trim (cutAt '=' body).1), none, true⟩
    else ⟨.attribute (trim (cutAt '=' body).1), (cutAt '=' body).2, false⟩

/-- Whether a decoration is well formed in front of a text: the run behind a marker is not
empty and as long as it can be, a bracket holds no other bracket and has a name. -/
def Fits (after : Text) : Mark → Prop
  | hole _ => True
  | run _ value => value ≠ [] ∧ IsStretch isRunChar value after
  | bracket body =>
    openBracket ∉ body ∧ closeBracket ∉ body ∧ isName (trim (cutAt '=' body).1) = true

/-- The body of a bracket is searched for brackets and for a name, and the end of a run is looked
for in `after`. -/
instance (after : Text) : (mark : Mark) → Decidable (mark.Fits after)
  | hole _ => .isTrue trivial
  | run _ value => inferInstanceAs (Decidable (value ≠ [] ∧ IsStretch isRunChar value after))
  | bracket body =>
    inferInstanceAs (Decidable
      (openBracket ∉ body ∧ closeBracket ∉ body ∧ isName (trim (cutAt '=' body).1) = true))

end Mark

/-- The text of decorations one behind the other. -/
def marksText (marks : List Mark) : Text := marks.flatMap Mark.text

/-- The outline of decorations one behind the other. -/
def marksOutline (marks : List Mark) : Outline := marks.flatMap Mark.outline

/-- The empty list of decorations has no text. -/
@[simp] theorem marksText_nil : marksText [] = [] := rfl

/-- The text of decorations begins with that of the first one. -/
@[simp] theorem marksText_cons (mark : Mark) (marks : List Mark) :
    marksText (mark :: marks) = mark.text ++ marksText marks := rfl

/-- Decorations one behind the other have their texts one behind the other. -/
@[simp] theorem marksText_append (marks marks' : List Mark) :
    marksText (marks ++ marks') = marksText marks ++ marksText marks' :=
  List.flatMap_append

/-- The empty list of decorations has no outline. -/
@[simp] theorem marksOutline_nil : marksOutline [] = [] := rfl

/-- The outline of decorations begins with that of the first one. -/
@[simp] theorem marksOutline_cons (mark : Mark) (marks : List Mark) :
    marksOutline (mark :: marks) = mark.outline ++ marksOutline marks := rfl

/-- Decorations one behind the other have their outlines one behind the other. -/
@[simp] theorem marksOutline_append (marks marks' : List Mark) :
    marksOutline (marks ++ marks') = marksOutline marks ++ marksOutline marks' :=
  List.flatMap_append

/-- Whether decorations are well formed in front of a text. -/
def MarksFit (after : Text) : List Mark → Prop
  | [] => True
  | mark :: marks => mark.Fits (marksText marks ++ after) ∧ MarksFit after marks

/-- Decorations are checked one by one, each with the text behind it. -/
instance decidableMarksFit (after : Text) : (marks : List Mark) → Decidable (MarksFit after marks)
  | [] => .isTrue trivial
  | mark :: marks =>
    have := decidableMarksFit after marks
    inferInstanceAs (Decidable (mark.Fits (marksText marks ++ after) ∧ MarksFit after marks))

/-- Whether a stretch without marks and the decorations behind it are well formed in front of a
text: the stretch is as long as it can be, and it is blank or a name between blanks. -/
def HeadFits (run : Text) (marks : List Mark) (after : Text) : Prop :=
  IsStretch (!isStop ·) run (marksText marks ++ after) ∧
    (trim run = [] ∨ isName (trim run) = true) ∧ MarksFit after marks

/-- A head is checked for the end of its stretch, for its name, and then for its decorations. -/
instance (run : Text) (marks : List Mark) (after : Text) : Decidable (HeadFits run marks after) :=
  inferInstanceAs (Decidable (IsStretch (!isStop ·) run (marksText marks ++ after) ∧
    (trim run = [] ∨ isName (trim run) = true) ∧ MarksFit after marks))

mutual

/-- A group as it is written: items with a plus sign between them. -/
inductive Group where
  | one (item : Item)
  | more (item : Item) (others : Group)
  deriving DecidableEq, Repr

/-- An item as it is written: a stretch without marks, decorations, content, and blanks. -/
structure Item where
  run : Text
  marks : List Mark
  inner : Inner
  blanks : Text
  deriving DecidableEq, Repr

/-- What may stand behind the decorations of an item: nothing, a placeholder, or a group in
parentheses. -/
inductive Inner where
  | nothing
  | hole
  | group (inside : Group)
  deriving DecidableEq, Repr

end

/-- What holds for a group if it holds for the groups inside its items holds for every group. -/
@[elab_as_elim, induction_eliminator]
theorem Group.induct {motive : Group → Prop}
    (one : ∀ item, (∀ inside, item.inner = .group inside → motive inside) → motive (.one item))
    (more : ∀ item others, (∀ inside, item.inner = .group inside → motive inside) →
      motive others → motive (.more item others)) :
    ∀ group, motive group
  | .one ⟨_, _, .nothing, _⟩ => one _ (by simp)
  | .one ⟨_, _, .hole, _⟩ => one _ (by simp)
  | .one ⟨_, _, .group inside, _⟩ =>
    one _ (by rintro _ ⟨rfl⟩; exact Group.induct one more inside)
  | .more ⟨_, _, .nothing, _⟩ others => more _ _ (by simp) (Group.induct one more others)
  | .more ⟨_, _, .hole, _⟩ others => more _ _ (by simp) (Group.induct one more others)
  | .more ⟨_, _, .group inside, _⟩ others =>
    more _ _ (by rintro _ ⟨rfl⟩; exact Group.induct one more inside)
      (Group.induct one more others)

mutual

/-- The text of a group. -/
def Group.text : Group → Text
  | .one item => item.text
  | .more item others => item.text ++ '+' :: others.text

/-- The text of an item. -/
def Item.text : Item → Text
  | ⟨run, marks, inner, blanks⟩ => run ++ marksText marks ++ inner.text ++ blanks

/-- The text of what stands behind the decorations of an item. -/
def Inner.text : Inner → Text
  | .nothing => []
  | .hole => [placeholderMark]
  | .group inside => '(' :: inside.text ++ [')']

end

mutual

/-- The outline of a group. -/
def Group.outline : Group → Outline
  | .one item => item.outline
  | .more item others => item.outline ++ .plain '+' :: others.outline

/-- The outline of an item. -/
def Item.outline : Item → Outline
  | ⟨run, marks, inner, blanks⟩ =>
    Outline.plains run ++ marksOutline marks ++ inner.outline ++ Outline.plains blanks

/-- The outline of what stands behind the decorations of an item. -/
def Inner.outline : Inner → Outline
  | .nothing => []
  | .hole => [.plain placeholderMark]
  | .group inside => .plain '(' :: inside.outline ++ [.plain ')']

end

/-- The tag that an item names, if it names one. -/
def Item.tag? (item : Item) : Option Text :=
  if trim item.run = [] then none else some (trim item.run)

/-- The segment that an item describes. -/
def Item.segment (item : Item) : Segment :=
  ⟨trim item.text, item.tag?, item.marks.map Mark.decoration⟩

mutual

/-- The forest that a group stands for. -/
def Group.forest : Group → Forest
  | .one item => .item item.segment item.content .nil
  | .more item others => .item item.segment item.content others.forest

/-- The content of an item. -/
def Item.content : Item → Content
  | ⟨_, _, inner, _⟩ => inner.content

/-- The content that stands behind the decorations of an item. -/
def Inner.content : Inner → Content
  | .nothing => .empty
  | .hole => .hole
  | .group inside => .group inside.forest

end

mutual

/-- Every item of the group is well formed. -/
def Group.WellFormed : Group → Prop
  | .one item => item.WellFormed
  | .more item others => item.WellFormed ∧ others.WellFormed

/-- The parts of the item are well formed, blanks close it, and it is not all blank. -/
def Item.WellFormed : Item → Prop
  | ⟨run, marks, inner, blanks⟩ =>
    HeadFits run marks (inner.text ++ blanks) ∧ inner.WellFormed ∧
      (∀ c ∈ blanks, isBlank c = true) ∧ isBlankText (Item.text ⟨run, marks, inner, blanks⟩) = false

/-- A group in parentheses is well formed. -/
def Inner.WellFormed : Inner → Prop
  | .nothing => True
  | .hole => True
  | .group inside => inside.WellFormed

end

mutual

/-- A group is checked item by item. -/
instance Group.decidableWellFormed : (group : Group) → Decidable group.WellFormed
  | .one item => item.decidableWellFormed
  | .more item others =>
    have := item.decidableWellFormed
    have := others.decidableWellFormed
    inferInstanceAs (Decidable (item.WellFormed ∧ others.WellFormed))

/-- An item is checked at its head, in its content, and for the blanks behind that. -/
instance Item.decidableWellFormed : (item : Item) → Decidable item.WellFormed
  | ⟨run, marks, inner, blanks⟩ =>
    have := inner.decidableWellFormed
    have : Decidable (∀ c ∈ blanks, isBlank c = true) := List.decidableBAll _ blanks
    inferInstanceAs (Decidable (HeadFits run marks (inner.text ++ blanks) ∧ inner.WellFormed ∧
      (∀ c ∈ blanks, isBlank c = true) ∧
        isBlankText (Item.text ⟨run, marks, inner, blanks⟩) = false))

/-- Content is checked if it is a group. -/
instance Inner.decidableWellFormed : (inner : Inner) → Decidable inner.WellFormed
  | .nothing => .isTrue trivial
  | .hole => .isTrue trivial
  | .group inside => inside.decidableWellFormed

end

/-- The group inside a well-formed item is well formed. -/
theorem Item.WellFormed.inside {item : Item} {inside : Group} (h : item.WellFormed)
    (hinner : item.inner = .group inside) : inside.WellFormed := by
  obtain ⟨run, marks, inner, blanks⟩ := item
  obtain rfl : inner = .group inside := hinner
  exact h.2.1

/-! ### Characters that end something -/

/-- The exact characters that end a stretch without marks. -/
theorem isStop_iff {c : Char} : isStop c = true ↔
    c = '#' ∨ c = '.' ∨ c = openBracket ∨ c = closeBracket ∨ c = '(' ∨ c = ')' ∨ c = '+' ∨
      c = placeholderMark := by
  simp [isStop, openBracket, closeBracket, placeholderMark]

/-- A character that ends no stretch is none of those that end one. -/
theorem ne_of_isStop {c m : Char} (h : isStop c = false) (hm : isStop m = true) : c ≠ m := by
  rintro rfl
  rw [h] at hm
  exact absurd hm (by decide)

/-- Every marker ends a stretch. -/
theorem ofChar?_eq_none_of_isStop {c : Char} (h : isStop c = false) : Marker.ofChar? c = none :=
  Marker.ofChar?_eq_none_iff.mpr ⟨ne_of_isStop h (by decide), ne_of_isStop h (by decide)⟩

/-- Characters that end no stretch are loose, and no brackets. -/
theorem loose_of_isStop {c : Char} (h : isStop c = false) :
    Marker.ofChar? c = none ∧ c ≠ openBracket ∧ c ≠ closeBracket :=
  ⟨ofChar?_eq_none_of_isStop h, ne_of_isStop h (by decide), ne_of_isStop h (by decide)⟩

/-- The characters that end a stretch without marks are neither blank nor part of a run or a
name. -/
theorem classes_of_isStop {c : Char} (h : isStop c = true) :
    isBlank c = false ∧ isRunChar c = false ∧ isNameChar c = false := by
  rcases isStop_iff.mp h with rfl | rfl | rfl | rfl | rfl | rfl | rfl | rfl <;> decide +kernel

/-- Neither blanks nor characters of runs end a stretch. -/
theorem isStop_eq_false {c : Char} (h : isBlank c = true ∨ isRunChar c = true) :
    isStop c = false := by
  cases hstop : isStop c with
  | false => rfl
  | true =>
    obtain ⟨hblank, hrun, -⟩ := classes_of_isStop hstop
    simp [hblank, hrun] at h

/-- No blank in a text ends a stretch. -/
theorem isStop_of_blanks {s : Text} (h : ∀ c ∈ s, isBlank c = true) :
    ∀ c ∈ s, isStop c = false :=
  fun c hc ↦ isStop_eq_false (.inl (h c hc))

/-- No character of a run ends a stretch. -/
theorem isStop_of_run {s : Text} (h : ∀ c ∈ s, isRunChar c = true) :
    ∀ c ∈ s, isStop c = false :=
  fun c hc ↦ isStop_eq_false (.inr (h c hc))

/-- The only blank that belongs to runs is the space. -/
theorem isBlank_of_isRunChar {c : Char} (h : isRunChar c = true) (hspace : c ≠ ' ') :
    isBlank c = false := by
  simp only [isRunChar, Bool.or_eq_true, beq_iff_eq, hspace, or_false] at h
  rcases h with hword | rfl
  · exact isBlank_of_isWord hword
  · decide +kernel

/-- A stretch without marks holds no character that ends it. -/
theorem HeadFits.isStop_eq_false {run after : Text} {marks : List Mark}
    (h : HeadFits run marks after) : ∀ c ∈ run, isStop c = false := by
  intro c hc
  simpa using h.1.1 c hc

/-- Every decoration begins with a character that ends stretches. -/
theorem isStop_head_text (mark : Mark) (rest : Text) :
    ∀ c ∈ (mark.text ++ rest).head?, isStop c = true := by
  have hmarker : ∀ marker : Marker, isStop marker.char = true := by
    intro marker
    cases marker <;> decide +kernel
  intro c hc
  cases mark with
  | hole marker =>
    obtain rfl : marker.char = c := by simpa [Mark.text] using hc
    exact hmarker marker
  | run marker value =>
    obtain rfl : marker.char = c := by simpa [Mark.text] using hc
    exact hmarker marker
  | bracket body =>
    obtain rfl : openBracket = c := by simpa [Mark.text, bracketed] using hc
    decide +kernel

/-- What stands behind a stretch or a decoration begins with a character that ends stretches, unless
it is nothing but blanks. -/
theorem isStop_head_behind {marks : List Mark} {inner : Inner}
    (h : marks ≠ [] ∨ inner ≠ .nothing) (rest : Text) :
    ∀ c ∈ (marksText marks ++ (inner.text ++ rest)).head?, isStop c = true := by
  intro c hc
  cases marks with
  | cons mark marks =>
    rw [marksText_cons, List.append_assoc] at hc
    exact isStop_head_text mark _ c hc
  | nil =>
    cases inner with
    | nothing => simp at h
    | hole =>
      obtain rfl : placeholderMark = c := by simpa [Inner.text] using hc
      decide +kernel
    | group inside =>
      obtain rfl : '(' = c := by simpa [Inner.text] using hc
      decide +kernel

/-- Whether a text ends an item: it is empty or begins with a plus sign or a closing
parenthesis. -/
def EndsItem (s : Text) : Prop := ∀ c ∈ s.head?, c = '+' ∨ c = ')'

/-- Whether a text ends a group: it is empty or begins with a closing parenthesis. -/
def EndsGroup (s : Text) : Prop := ∀ c ∈ s.head?, c = ')'

/-- What ends an item begins with no character of a stretch, a run, or blanks. -/
theorem EndsItem.classes {s : Text} (h : EndsItem s) {c : Char} (hc : c ∈ s.head?) :
    isStop c = true ∧ isRunChar c = false ∧ isBlank c = false := by
  have hstop : isStop c = true := by
    rcases h c hc with rfl | rfl <;> decide +kernel
  exact ⟨hstop, (classes_of_isStop hstop).2.1, (classes_of_isStop hstop).1⟩

/-- What ends a group ends its last item. -/
theorem EndsGroup.endsItem {s : Text} (h : EndsGroup s) : EndsItem s :=
  fun c hc ↦ .inr (h c hc)

/-- A plus sign ends an item. -/
theorem endsItem_plus (s : Text) : EndsItem ('+' :: s) := by
  intro c hc
  left
  simpa using hc.symm

/-- The blanks of an item end where the item ends. -/
theorem EndsItem.isStretch {blanks rest : Text} (h : EndsItem rest)
    (hblanks : ∀ c ∈ blanks, isBlank c = true) : IsStretch isBlank blanks rest :=
  ⟨hblanks, fun _ hc ↦ (h.classes hc).2.2⟩

/-- A run holds no percent sign, so it cannot be mistaken for a placeholder. -/
theorem run_ne_placeholder {value rest : Text} (hne : value ≠ [])
    (h : IsStretch isRunChar value rest) (s : Text) : value ++ rest ≠ placeholderMark :: s := by
  intro heq
  cases value with
  | nil => exact hne rfl
  | cons c value =>
    obtain rfl : c = placeholderMark := by simpa using congrArg List.head? heq
    exact absurd (h.1 placeholderMark (List.mem_cons_self ..)) (by decide +kernel)

/-! ### What follows

Being well formed depends on the text that follows only through its first character, and every
character that ends a stretch is as good as another one. -/

/-- Whether a text begins like another one, if not with a character that ends stretches. -/
def BeginsLike (after after' : Text) : Prop :=
  ∀ c ∈ after'.head?, c ∈ after.head? ∨ isStop c = true

section Follow

variable {run after after' rest : Text} {mark : Mark} {marks : List Mark}

/-- A longer text begins like each beginning of it. -/
theorem beginsLike_of_append (after rest : Text) : BeginsLike (after ++ rest) after := by
  intro c hc
  left
  rw [Option.mem_def] at hc ⊢
  rw [List.head?_append, hc]
  rfl

/-- A text that goes on with what ends an item begins as before. -/
theorem EndsItem.beginsLike (h : EndsItem rest) (after : Text) :
    BeginsLike after (after ++ rest) := by
  intro c hc
  cases after with
  | nil => exact .inr (h.classes hc).1
  | cons d after => exact .inl hc

/-- What stands in front of texts that begin alike makes them begin alike. -/
theorem BeginsLike.append_left (h : BeginsLike after after') (s : Text) :
    BeginsLike (s ++ after) (s ++ after') := by
  intro c hc
  cases s with
  | nil => exact h c hc
  | cons d s => exact .inl hc

/-- Everything begins like a text that begins with a decoration. -/
theorem beginsLike_mark (s : Text) (mark : Mark) (rest : Text) :
    BeginsLike s (mark.text ++ rest) :=
  fun c hc ↦ .inr (isStop_head_text mark rest c hc)

/-- A decoration is well formed in front of all texts that begin alike. -/
theorem Mark.Fits.of_beginsLike (h : mark.Fits after) (hlike : BeginsLike after after') :
    mark.Fits after' := by
  cases mark with
  | hole marker => trivial
  | run marker value =>
    refine ⟨h.1, h.2.of_head fun c hc ↦ ?_⟩
    exact (hlike c hc).imp id fun hstop ↦ (classes_of_isStop hstop).2.1
  | bracket body => exact h

/-- Decorations are well formed in front of all texts that begin alike. -/
theorem MarksFit.of_beginsLike (h : MarksFit after marks) (hlike : BeginsLike after after') :
    MarksFit after' marks := by
  induction marks with
  | nil => trivial
  | cons mark marks ih =>
    obtain ⟨hmark, hmarks⟩ := h
    exact ⟨hmark.of_beginsLike (hlike.append_left _), ih hmarks⟩

/-- Decorations are well formed one by one. -/
theorem marksFit_append {marks' : List Mark} :
    MarksFit after (marks ++ marks') ↔ MarksFit (marksText marks' ++ after) marks ∧
      MarksFit after marks' := by
  induction marks with
  | nil => simp [MarksFit]
  | cons mark marks ih => simp [MarksFit, ih, and_assoc]

/-- Each of some well-formed decorations is well formed in front of what follows it. -/
theorem MarksFit.fits_of_mem (h : MarksFit after marks) (hmem : mark ∈ marks) :
    ∃ rest, mark.Fits rest := by
  obtain ⟨earlier, later, rfl⟩ := List.append_of_mem hmem
  exact ⟨_, (marksFit_append.mp h).2.1⟩

/-- A head is well formed in front of all texts that begin alike. -/
theorem HeadFits.of_beginsLike (h : HeadFits run marks after) (hlike : BeginsLike after after') :
    HeadFits run marks after' := by
  obtain ⟨hrun, hname, hmarks⟩ := h
  refine ⟨hrun.of_head fun c hc ↦ ?_, hname, hmarks.of_beginsLike hlike⟩
  exact (hlike.append_left _ c hc).imp id fun hstop ↦ by rw [hstop]; rfl

/-- A head in front of a text is well formed in front of each beginning of it. -/
theorem HeadFits.of_append (h : HeadFits run marks (after ++ rest)) : HeadFits run marks after :=
  h.of_beginsLike (beginsLike_of_append after rest)

/-- A head stays well formed when its item ends. -/
theorem HeadFits.append (h : HeadFits run marks after) (hrest : EndsItem rest) :
    HeadFits run marks (after ++ rest) :=
  h.of_beginsLike (hrest.beginsLike after)

end Follow

/-- Whether no decoration begins a text. -/
def BeginsNoMark (s : Text) : Prop := ∀ c ∈ s.head?, c ≠ '#' ∧ c ≠ '.' ∧ c ≠ openBracket

/-- Blanks that end an item begin no decoration, no placeholder and no group. -/
theorem head_blanks_append {blanks rest : Text} (hblanks : ∀ c ∈ blanks, isBlank c = true)
    (hrest : EndsItem rest) {c : Char} (hc : c ∈ (blanks ++ rest).head?) :
    c ≠ '#' ∧ c ≠ '.' ∧ c ≠ openBracket ∧ c ≠ placeholderMark ∧ c ≠ '(' := by
  have hclass : isBlank c = true ∨ c = '+' ∨ c = ')' := by
    cases blanks with
    | nil => exact .inr (hrest c hc)
    | cons d blanks =>
      obtain rfl : d = c := by simpa using hc
      exact .inl (hblanks d (by simp))
  rcases hclass with hblank | rfl | rfl
  · have hkeep : isStop c = false := isStop_eq_false (.inl hblank)
    exact ⟨ne_of_isStop hkeep (by decide), ne_of_isStop hkeep (by decide),
      ne_of_isStop hkeep (by decide), ne_of_isStop hkeep (by decide),
      ne_of_isStop hkeep (by decide)⟩
  · decide
  · decide

/-- Nothing begins a decoration where content and blanks stand. -/
theorem beginsNoMark_inner (inner : Inner) {blanks rest : Text}
    (hblanks : ∀ c ∈ blanks, isBlank c = true) (hrest : EndsItem rest) :
    BeginsNoMark (inner.text ++ (blanks ++ rest)) := by
  intro c hc
  cases inner with
  | nothing =>
    obtain ⟨hhash, hdot, hopen, -, -⟩ := head_blanks_append hblanks hrest hc
    exact ⟨hhash, hdot, hopen⟩
  | hole =>
    obtain rfl : placeholderMark = c := by simpa [Inner.text] using hc
    decide
  | group inside =>
    obtain rfl : '(' = c := by simpa [Inner.text] using hc
    decide

end Template.Grammar
end Shorthand
