import Shorthand.Segment.Bracket

/-!
# Outlines

A text whose brackets strictly alternate, the first one opening and the last one closing, is a
row of characters outside brackets and of brackets with their bodies. The main statements say
that exactly such texts have an outline, that it is the only one, and that the outlines of two
texts side by side are the outline of both.
-/

namespace Shorthand

open Text

/-- A character outside brackets, or a bracket with its body. -/
inductive Lexeme where
  | plain (c : Char)
  | bracket (body : Text)
  deriving DecidableEq, Repr

namespace Lexeme

/-- The text that a lexeme stands for. -/
def text : Lexeme → Text
  | plain c => [c]
  | bracket body => bracketed body

/-- Brackets stand nowhere but around a body. -/
def WellFormed : Lexeme → Prop
  | plain c => c ≠ openBracket ∧ c ≠ closeBracket
  | bracket body => openBracket ∉ body ∧ closeBracket ∉ body

/-- The body of a bracket is searched for brackets. -/
instance : (lexeme : Lexeme) → Decidable lexeme.WellFormed
  | plain c => inferInstanceAs (Decidable (c ≠ openBracket ∧ c ≠ closeBracket))
  | bracket body => inferInstanceAs (Decidable (openBracket ∉ body ∧ closeBracket ∉ body))

/-- Whether a lexeme waits for an argument in a template: a percent sign outside brackets, or a
bracket whose value is a percent sign between blanks. -/
def isHole : Lexeme → Bool
  | plain c => c = placeholderMark
  | bracket body => (cutAt '=' body).2.map trim = some [placeholderMark]

private theorem body_append_inj {body body' rest rest' : Text} (h : closeBracket ∉ body)
    (h' : closeBracket ∉ body')
    (heq : body ++ closeBracket :: rest = body' ++ closeBracket :: rest') :
    body = body' ∧ rest = rest' := by
  have hcut := congrArg (cutAt closeBracket) heq
  rw [cutAt_append rest h, cutAt_append rest' h'] at hcut
  simpa using hcut

/-- A text begins with one lexeme only. -/
theorem text_append_inj {a b : Lexeme} {rest rest' : Text} (ha : a.WellFormed)
    (hb : b.WellFormed) (heq : a.text ++ rest = b.text ++ rest') : a = b ∧ rest = rest' := by
  cases a with
  | plain c =>
    cases b with
    | plain d => simpa [text] using heq
    | bracket body =>
      simp only [text, bracketed, List.cons_append, List.nil_append, List.cons.injEq] at heq
      exact absurd heq.1 ha.1
  | bracket body =>
    cases b with
    | plain d =>
      simp only [text, bracketed, List.cons_append, List.nil_append, List.cons.injEq] at heq
      exact absurd heq.1.symm hb.1
    | bracket body' =>
      simp only [text, bracketed, List.cons_append, List.append_assoc, List.nil_append,
        List.cons.injEq, true_and] at heq
      simpa using body_append_inj ha.2 hb.2 heq

end Lexeme

/-- A row of lexemes. -/
abbrev Outline := List Lexeme

namespace Outline

/-- The text that an outline stands for. -/
def text (o : Outline) : Text := o.flatMap Lexeme.text

/-- Every lexeme is well formed. -/
def WellFormed (o : Outline) : Prop := ∀ lexeme ∈ o, lexeme.WellFormed

/-- An outline is checked lexeme by lexeme. -/
instance (o : Outline) : Decidable (WellFormed o) :=
  inferInstanceAs (Decidable (∀ lexeme ∈ o, lexeme.WellFormed))

/-- The number of lexemes that wait for an argument in a template. -/
def holes (o : Outline) : Nat := o.countP Lexeme.isHole

/-- The outline of a text without brackets. -/
def plains (s : Text) : Outline := s.map .plain

/-- What a text holds up to the first closing bracket that is not opened in it, if there is one,
and the outline of what follows. -/
def scan : Text → Option (Option Text × Outline)
  | [] => some (none, [])
  | c :: rest =>
    match scan rest with
    | none => none
    | some (none, o) =>
      if c = closeBracket then some (some [], o)
      else if c = openBracket then none
      else some (none, .plain c :: o)
    | some (some body, o) =>
      if c = closeBracket then none
      else if c = openBracket then some (none, .bracket body :: o)
      else some (some (c :: body), o)

/-- The outline of a text, if its brackets strictly alternate from an opening one to a closing
one. -/
def of? (s : Text) : Option Outline :=
  match scan s with
  | some (none, o) => some o
  | _ => none

/-- The empty outline has no text. -/
@[simp] theorem text_nil : text [] = [] := rfl

/-- The text of an outline begins with that of its first lexeme. -/
@[simp] theorem text_cons (lexeme : Lexeme) (o : Outline) :
    text (lexeme :: o) = lexeme.text ++ text o := rfl

/-- Outlines one behind the other have their texts one behind the other. -/
@[simp] theorem text_append (a b : Outline) : text (a ++ b) = text a ++ text b :=
  List.flatMap_append

/-- The outline of a text without brackets has that text. -/
@[simp] theorem text_plains (s : Text) : text (plains s) = s := by
  induction s with
  | nil => rfl
  | cons c rest ih => exact congrArg (c :: ·) ih

/-- The characters of texts one behind the other are outlined one behind the other. -/
@[simp] theorem plains_append (a b : Text) : plains (a ++ b) = plains a ++ plains b :=
  List.map_append

/-- A lexeme of a text without brackets is one of its characters. -/
@[simp] theorem plain_mem_plains {c : Char} {s : Text} : .plain c ∈ plains s ↔ c ∈ s := by
  simp [plains]

/-- The empty outline waits for no argument. -/
@[simp] theorem holes_nil : holes [] = 0 := rfl

/-- Lexemes that wait for an argument are counted together. -/
@[simp] theorem holes_append (a b : Outline) : holes (a ++ b) = holes a + holes b :=
  List.countP_append

/-- The first lexeme counts if it waits for an argument. -/
@[simp] theorem holes_cons (lexeme : Lexeme) (o : Outline) :
    holes (lexeme :: o) = (if lexeme.isHole then 1 else 0) + holes o := by
  rw [holes, List.countP_cons, Nat.add_comm]; rfl

/-- Only percent signs wait for an argument outside brackets. -/
theorem holes_plains {s : Text} (h : placeholderMark ∉ s) : holes (plains s) = 0 := by
  rw [holes, List.countP_eq_zero]
  intro lexeme hlexeme
  obtain ⟨c, hc, rfl⟩ := List.mem_map.mp hlexeme
  have hne : c ≠ placeholderMark := fun he ↦ h (he ▸ hc)
  simpa [Lexeme.isHole] using hne

/-- The empty outline is well formed. -/
@[simp] theorem wellFormed_nil : WellFormed [] := by simp [WellFormed]

/-- An outline is well formed exactly if its first lexeme and the others are. -/
@[simp] theorem wellFormed_cons {lexeme : Lexeme} {o : Outline} :
    WellFormed (lexeme :: o) ↔ lexeme.WellFormed ∧ WellFormed o := by
  simp [WellFormed]

/-- Outlines one behind the other are well formed exactly if both are. -/
@[simp] theorem wellFormed_append {a b : Outline} :
    WellFormed (a ++ b) ↔ WellFormed a ∧ WellFormed b := by
  simp only [WellFormed, List.mem_append, or_imp, forall_and]

/-- A text without brackets has a well-formed outline. -/
theorem wellFormed_plains {s : Text} (h : ∀ c ∈ s, c ≠ openBracket ∧ c ≠ closeBracket) :
    WellFormed (plains s) := by
  intro lexeme hlexeme
  obtain ⟨c, hc, rfl⟩ := List.mem_map.mp hlexeme
  exact h c hc

/-! ### Finding lexemes -/

section Find

variable {a b front back : Outline} {x : Lexeme}

/-- A lexeme of two outlines side by side stands in the first or in the second. -/
theorem append_eq_append_cons (h : a ++ b = front ++ x :: back) :
    (∃ rest, a = front ++ x :: rest ∧ back = rest ++ b) ∨
      ∃ rest, front = a ++ rest ∧ b = rest ++ x :: back := by
  rcases List.append_eq_append_iff.mp h with ⟨rest, hfront, hb⟩ | ⟨rest, ha, hback⟩
  · exact .inr ⟨rest, hfront, hb⟩
  · cases rest with
    | nil => exact .inr ⟨[], by simpa using ha.symm, by simpa using hback.symm⟩
    | cons y rest =>
      obtain ⟨rfl, rfl⟩ := List.cons.inj hback
      exact .inl ⟨rest, ha, rfl⟩

/-- A lexeme that is not in the first of two outlines stands in the second. -/
theorem of_not_mem_left (hx : x ∉ a) (h : a ++ b = front ++ x :: back) :
    ∃ rest, front = a ++ rest ∧ b = rest ++ x :: back := by
  rcases append_eq_append_cons h with ⟨rest, ha, -⟩ | hright
  · exact absurd (by rw [ha]; simp) hx
  · exact hright

/-- A lexeme that is not in the second of two outlines stands in the first. -/
theorem of_not_mem_right (hx : x ∉ b) (h : a ++ b = front ++ x :: back) :
    ∃ rest, a = front ++ x :: rest ∧ back = rest ++ b := by
  rcases append_eq_append_cons h with hleft | ⟨rest, -, hb⟩
  · exact hleft
  · exact absurd (by rw [hb]; simp) hx

end Find

/-! ### Reading outlines -/

private theorem scan_sound (s : Text) :
    (∀ o, scan s = some (none, o) → WellFormed o ∧ text o = s) ∧
      ∀ body o, scan s = some (some body, o) →
        Lexeme.WellFormed (.bracket body) ∧ WellFormed o ∧ body ++ closeBracket :: text o = s := by
  induction s with
  | nil => simp [scan]
  | cons c rest ih =>
    obtain ⟨ihOutside, ihInside⟩ := ih
    simp only [scan]
    split
    · simp
    · next o ho =>
      obtain ⟨hwf, rfl⟩ := ihOutside o ho
      split
      · next hclose =>
        refine ⟨by simp, ?_⟩
        rintro body o' ⟨⟩
        exact ⟨by simp [Lexeme.WellFormed], hwf, by simp [hclose]⟩
      · next hclose =>
        split
        · simp
        · next hopen =>
          refine ⟨?_, by simp⟩
          rintro o' ⟨⟩
          exact ⟨wellFormed_cons.mpr ⟨⟨hopen, hclose⟩, hwf⟩, rfl⟩
    · next body o ho =>
      obtain ⟨hbody, hwf, rfl⟩ := ihInside body o ho
      split
      · simp
      · next hclose =>
        split
        · next hopen =>
          refine ⟨?_, by simp⟩
          rintro o' ⟨⟩
          exact ⟨wellFormed_cons.mpr ⟨hbody, hwf⟩, by simp [Lexeme.text, bracketed, hopen]⟩
        · next hopen =>
          refine ⟨by simp, ?_⟩
          rintro body' o' ⟨⟩
          refine ⟨?_, hwf, rfl⟩
          simpa [Lexeme.WellFormed, Ne.symm hopen, Ne.symm hclose] using hbody

private theorem scan_body {body : Text} (o : Outline) (rest : Text)
    (h : Lexeme.WellFormed (.bracket body)) (ho : scan rest = some (none, o)) :
    scan (body ++ closeBracket :: rest) = some (some body, o) := by
  induction body with
  | nil => simp [scan, ho]
  | cons c body ih =>
    simp only [Lexeme.WellFormed, List.mem_cons, not_or] at h ih
    simp [scan, ih ⟨h.1.2, h.2.2⟩, Ne.symm h.1.1, Ne.symm h.2.1]

private theorem scan_text {o : Outline} (h : WellFormed o) : scan (text o) = some (none, o) := by
  induction o with
  | nil => rfl
  | cons lexeme o ih =>
    obtain ⟨hlexeme, hwf⟩ := wellFormed_cons.mp h
    cases lexeme with
    | plain c => simp [Lexeme.text, scan, ih hwf, hlexeme.1, hlexeme.2]
    | bracket body =>
      have hbody := scan_body o _ hlexeme (ih hwf)
      have hne : openBracket ≠ closeBracket := by decide
      simp [Lexeme.text, bracketed, scan, hbody, hne]

/-- A text has an outline exactly if it is put together from well-formed lexemes, and the
outline consists of them. -/
theorem of?_eq_some_iff {s : Text} {o : Outline} :
    of? s = some o ↔ WellFormed o ∧ text o = s := by
  constructor
  · intro h
    rw [of?] at h
    split at h
    · next o' ho =>
      obtain rfl : o' = o := by simpa using h
      exact (scan_sound s).1 o' ho
    · exact absurd h (by simp)
  · rintro ⟨hwf, rfl⟩
    rw [of?, scan_text hwf]

/-- The outline of the text of an outline is that outline. -/
theorem of?_text {o : Outline} (h : WellFormed o) : of? (text o) = some o :=
  of?_eq_some_iff.mpr ⟨h, rfl⟩

end Outline
end Shorthand
