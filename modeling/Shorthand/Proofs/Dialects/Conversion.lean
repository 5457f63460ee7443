import Shorthand.Path.Basic
import Shorthand.Proofs.Outline

/-!
# Paths written as templates

A path is written as a template by opening a parenthesis for every slash, and by a percent sign
and the closing parentheses behind it. The main statements say where a lexeme of such a template
comes from in the path, and that both sides of a separator can be written as templates if the path
can.
-/

namespace Shorthand

open Text

namespace Outline

/-- Whether a lexeme separates the parts of a path. -/
def isSeparator (x : Lexeme) : Bool :=
  x = .plain Path.nestSeparator || x = .plain Path.siblingSeparator

/-- Whether a lexeme may stand in the value behind a marker. -/
def isRunLexeme : Lexeme → Bool
  | .plain c => isRunChar c
  | .bracket _ => false

/-- Whether a lexeme is a marker. -/
def isMarker : Lexeme → Bool
  | .plain c => (Marker.ofChar? c).isSome
  | .bracket _ => false

/-- Whether every marker outside brackets is followed by a run with more than spaces in it. -/
def markersFilled : Outline → Bool
  | [] => true
  | x :: rest =>
    (!isMarker x || (rest.takeWhile isRunLexeme).any (· ≠ .plain ' ')) && markersFilled rest

/-- Whether a path with the outline can be written as a template: no lexeme has a meaning of its
own there, every marker has a value, and no part is blank. -/
structure Convertible (o : Outline) : Prop where
  isHole : ∀ x ∈ o, x.isHole = false
  opening : .plain '(' ∉ o
  closing : .plain ')' ∉ o
  markers : markersFilled o = true
  parts : ∀ part ∈ o.splitOnP isSeparator, isBlankText (text part) = false

/-- What stands in a template for a lexeme of a path. -/
def converted (x : Lexeme) : Lexeme := if x = .plain Path.nestSeparator then .plain '(' else x

/-- The end of a template: a percent sign, and the parentheses that close `n` groups. -/
def ending (n : Nat) : Outline := .plain placeholderMark :: List.replicate n (.plain ')')

/-- The outline of the template for a path. -/
def template (o : Outline) : Outline :=
  o.map converted ++ ending (o.count (.plain Path.nestSeparator))

/-! ### Lexemes of templates -/

/-- The end of a template holds a percent sign and closing parentheses only. -/
theorem mem_ending {x : Lexeme} {n : Nat} (h : x ∈ ending n) :
    x = .plain placeholderMark ∨ x = .plain ')' := by
  rcases List.mem_cons.mp h with hx | hx
  · exact .inl hx
  · exact .inr (List.eq_of_mem_replicate hx)

/-- One more group is closed by one more parenthesis. -/
theorem ending_succ (n : Nat) : ending (n + 1) = ending n ++ [.plain ')'] := by
  rw [ending, List.replicate_succ', ← List.cons_append]
  rfl

/-- A lexeme other than an opening parenthesis comes from the same lexeme. -/
theorem of_converted {x y : Lexeme} (h : converted x = y) (hy : y ≠ .plain '(') : x = y := by
  rw [converted] at h
  split at h
  · exact absurd h.symm hy
  · exact h

/-- An opening parenthesis comes from a slash. -/
theorem of_converted_opening {x : Lexeme} (h : converted x = .plain '(') (hx : x ≠ .plain '(') :
    x = .plain Path.nestSeparator := by
  rw [converted] at h
  split at h
  · next hslash => exact hslash
  · exact absurd h hx

/-- Without parentheses in the template there is no slash in the path. -/
theorem map_converted {o : Outline} (h : .plain '(' ∉ o.map converted) :
    o.map converted = o ∧ .plain Path.nestSeparator ∉ o := by
  have hslash : .plain Path.nestSeparator ∉ o := by
    intro hmem
    exact h (List.mem_map.mpr ⟨_, hmem, if_pos rfl⟩)
  refine ⟨?_, hslash⟩
  conv => rhs; rw [← List.map_id o]
  apply List.map_congr_left
  intro x hx
  apply if_neg
  rintro rfl
  exact hslash hx

/-- A template without parentheses is the path with a percent sign behind it. -/
theorem template_eq {o : Outline} (h : .plain '(' ∉ template o) :
    template o = o ++ [.plain placeholderMark] ∧ .plain Path.nestSeparator ∉ o := by
  obtain ⟨hmap, hslash⟩ := map_converted fun hmem ↦ h (List.mem_append_left _ hmem)
  refine ⟨?_, hslash⟩
  rw [template, hmap, List.count_eq_zero_of_not_mem hslash]
  rfl

/-- A template has brackets where the path has them. -/
theorem wellFormed_template {o : Outline} (h : WellFormed o) : WellFormed (template o) := by
  intro x hx
  rcases List.mem_append.mp hx with hx | hx
  · obtain ⟨y, hy, rfl⟩ := List.mem_map.mp hx
    rw [converted]
    split
    · decide
    · exact h y hy
  · rcases mem_ending hx with rfl | rfl <;> decide

namespace Convertible

variable {o : Outline}

/-- No percent sign stands outside the brackets of the path. -/
theorem placeholder_not_mem (h : Convertible o) : .plain placeholderMark ∉ o := by
  intro hmem
  exact absurd (h.isHole _ hmem) (by decide)

/-- The lexemes of the end of a template come from nowhere in the path. -/
theorem not_mem_map (h : Convertible o) {x : Lexeme}
    (hx : x = .plain placeholderMark ∨ x = .plain ')') : x ∉ o.map converted := by
  intro hmem
  obtain ⟨y, hy, hyx⟩ := List.mem_map.mp hmem
  rcases hx with rfl | rfl
  · rw [of_converted hyx (by decide)] at hy
    exact h.placeholder_not_mem hy
  · rw [of_converted hyx (by decide)] at hy
    exact h.closing hy

/-- Behind the percent sign of a template, and behind a closing parenthesis, there are closing
parentheses only. -/
theorem eq_closing (h : Convertible o) {a b : Outline} {x : Lexeme}
    (hx : x = .plain placeholderMark ∨ x = .plain ')') (heq : template o = a ++ x :: b) :
    ∀ y ∈ b, y = .plain ')' := by
  intro y hy
  obtain ⟨rest, -, hrest⟩ := of_not_mem_left (h.not_mem_map hx) heq
  cases rest with
  | nil =>
    obtain ⟨-, hb⟩ := List.cons.inj hrest
    rw [← hb] at hy
    exact List.eq_of_mem_replicate hy
  | cons z rest =>
    obtain ⟨-, htail⟩ := List.cons.inj hrest
    have hmem : y ∈ List.replicate (o.count (.plain Path.nestSeparator)) (Lexeme.plain ')') := by
      rw [htail]
      simp [hy]
    exact List.eq_of_mem_replicate hmem

/-- A lexeme in a template that does not belong to its end comes from one in the path. -/
theorem exists_split {a b : Outline} {x : Lexeme} (hplace : x ≠ .plain placeholderMark)
    (hclosing : x ≠ .plain ')') (heq : template o = a ++ x :: b) :
    ∃ p y q, o = p ++ y :: q ∧ p.map converted = a ∧ converted y = x ∧
      b = q.map converted ++ ending (o.count (.plain Path.nestSeparator)) := by
  have hend : x ∉ ending (o.count (.plain Path.nestSeparator)) := by
    intro hmem
    rcases mem_ending hmem with h | h
    · exact hplace h
    · exact hclosing h
  obtain ⟨rest, hmap, hb⟩ := of_not_mem_right hend heq
  obtain ⟨p, q', rfl, hp, hq'⟩ := List.map_eq_append_iff.mp hmap
  obtain ⟨y, q, rfl, hy, hq⟩ := List.map_eq_cons_iff.mp hq'
  exact ⟨p, y, q, rfl, hp, hy, by rw [hb, hq]⟩

end Convertible

/-! ### Parts of paths -/

/-- What stands at the end of an outline has its markers followed by runs if the whole has. -/
theorem markersFilled_of_append {a b : Outline} (h : markersFilled (a ++ b) = true) :
    markersFilled b = true := by
  induction a with
  | nil => exact h
  | cons x a ih =>
    rw [List.cons_append, markersFilled, Bool.and_eq_true] at h
    exact ih h.2

private theorem takeWhile_append_cons {a b : Outline} {x : Lexeme} (hx : isRunLexeme x = false) :
    (a ++ x :: b).takeWhile isRunLexeme = a.takeWhile isRunLexeme := by
  induction a with
  | nil => simp [hx]
  | cons y a ih => simp only [List.cons_append, List.takeWhile_cons, ih]

/-- A lexeme that belongs to no run ends the runs in front of it. -/
theorem markersFilled_of_append_cons {a b : Outline} {x : Lexeme} (hx : isRunLexeme x = false)
    (h : markersFilled (a ++ x :: b) = true) : markersFilled a = true := by
  induction a with
  | nil => rfl
  | cons y a ih =>
    rw [List.cons_append, markersFilled, Bool.and_eq_true] at h
    obtain ⟨hy, hrest⟩ := h
    rw [takeWhile_append_cons hx] at hy
    rw [markersFilled, hy, ih hrest]
    rfl

/-- An outline without slashes and plus signs has no separator. -/
theorem isSeparator_eq_false {o : Outline} (hnest : .plain Path.nestSeparator ∉ o)
    (hsibling : .plain Path.siblingSeparator ∉ o) : ∀ x ∈ o, isSeparator x = false := by
  intro x hx
  rw [isSeparator, Bool.or_eq_false_iff, decide_eq_false_iff_not, decide_eq_false_iff_not]
  constructor
  · rintro rfl
    exact hnest hx
  · rintro rfl
    exact hsibling hx

/-- Both sides of the first separator of a path can be written as templates. -/
theorem Convertible.split {p q : Outline} {x : Lexeme} (h : Convertible (p ++ x :: q))
    (hx : isSeparator x = true) (hp : ∀ y ∈ p, isSeparator y = false) :
    Convertible p ∧ Convertible q := by
  have hsplit : (p ++ x :: q).splitOnP isSeparator = p :: q.splitOnP isSeparator :=
    List.splitOnP_append_cons_of_forall_mem hp x hx q
  have hrun : isRunLexeme x = false := by
    rw [isSeparator, Bool.or_eq_true, decide_eq_true_eq, decide_eq_true_eq] at hx
    rcases hx with rfl | rfl <;> decide +kernel
  have hmem : ∀ y, y ∈ p ∨ y ∈ q → y ∈ p ++ x :: q := by
    intro y hy
    rcases hy with hy | hy <;> simp [hy]
  refine ⟨⟨fun y hy ↦ h.isHole y (hmem y (.inl hy)), fun hy ↦ h.opening (hmem _ (.inl hy)),
    fun hy ↦ h.closing (hmem _ (.inl hy)), markersFilled_of_append_cons hrun h.markers, ?_⟩,
    ⟨fun y hy ↦ h.isHole y (hmem y (.inr hy)), fun hy ↦ h.opening (hmem _ (.inr hy)),
    fun hy ↦ h.closing (hmem _ (.inr hy)), ?_, ?_⟩⟩
  · rw [List.splitOnP_eq_singleton hp]
    intro part hpart
    obtain rfl := List.mem_singleton.mp hpart
    exact h.parts part (by rw [hsplit]; exact List.mem_cons_self ..)
  · have htail := markersFilled_of_append h.markers
    rw [markersFilled, Bool.and_eq_true] at htail
    exact htail.2
  · intro part hpart
    exact h.parts part (by rw [hsplit]; exact List.mem_cons_of_mem _ hpart)

end Outline
end Shorthand
