import Shorthand.Markup.Element

/-!
# Text with gaps

Markup that contents are still to be put into is a text with gaps. The main statements say that
filling the gaps puts the contents, in turn, between fragments that do not depend on them, and that
a text with gaps that is put into every gap of another one has its gaps once for each of these.
-/

namespace Shorthand.Markup

/-- Fragments with inserts between them, in turn. -/
def weave : List Text → List Text → Text
  | fragment :: fragments, insert :: inserts => fragment ++ (insert ++ weave fragments inserts)
  | fragments, [] => fragments.flatten
  | [], inserts => inserts.flatten

/-- A row of characters and gaps. -/
abbrev Gapped := List (Option Char)

namespace Gapped

/-- A text without gaps. -/
def ofText (s : Text) : Gapped := s.map some

/-- A gap and nothing else. -/
def gap : Gapped := [none]

/-- The number of gaps. -/
def gaps (g : Gapped) : Nat := g.count none

/-- The text with the inserts in its gaps, in turn. -/
def fill : Gapped → List Text → Text
  | [], _ => []
  | some c :: rest, inserts => c :: fill rest inserts
  | none :: rest, inserts => inserts.headD [] ++ fill rest inserts.tail

/-- The texts in front of, between and behind the gaps. -/
def fragments : Gapped → List Text
  | [] => [[]]
  | some c :: rest => (fragments rest).modifyHead (c :: ·)
  | none :: rest => [] :: fragments rest

/-- The text with one insert in all of its gaps. -/
def fillAll (g : Gapped) (insert : Text) : Text := g.fill (List.replicate g.gaps insert)

/-- A text with gaps in every gap of another one. -/
def plug (outer inner : Gapped) : Gapped :=
  outer.flatMap fun
    | some c => [some c]
    | none => inner

variable {a b g : Gapped} {insert : Text} {inserts inserts' : List Text}

/-- The empty text has no gap. -/
@[simp] theorem gaps_nil : gaps [] = 0 := rfl

/-- A character is no gap. -/
@[simp] theorem gaps_some (c : Char) (rest : Gapped) : gaps (some c :: rest) = gaps rest := by
  simp [gaps]

/-- A gap counts once. -/
@[simp] theorem gaps_none (rest : Gapped) : gaps (none :: rest) = gaps rest + 1 := by
  simp [gaps]

/-- Gaps of texts one behind the other are counted together. -/
@[simp] theorem gaps_append (a b : Gapped) : gaps (a ++ b) = gaps a + gaps b :=
  List.count_append

/-- A text without gaps has none. -/
@[simp] theorem gaps_ofText (s : Text) : gaps (ofText s) = 0 := by
  simp [gaps, ofText, List.count_eq_zero]

/-- Both of two texts with gaps get their own inserts. -/
theorem fill_append (h : inserts.length = gaps a) :
    fill (a ++ b) (inserts ++ inserts') = fill a inserts ++ fill b inserts' := by
  induction a generalizing inserts with
  | nil =>
    obtain rfl : inserts = [] := List.length_eq_zero_iff.mp h
    rfl
  | cons cell a ih =>
    cases cell with
    | some c =>
      rw [gaps_some] at h
      exact congrArg (c :: ·) (ih h)
    | none =>
      rw [gaps_none] at h
      obtain ⟨first, inserts, rfl⟩ := List.exists_cons_of_length_eq_add_one h
      have hothers := ih (Nat.succ.inj h)
      simp [fill, hothers]

/-- A text without gaps takes no insert. -/
@[simp] theorem fill_ofText (s : Text) : fill (ofText s) inserts = s := by
  induction s with
  | nil => rfl
  | cons c s ih => exact congrArg (c :: ·) ih

/-! ### Fragments -/

/-- There is one more fragment than there are gaps. -/
theorem length_fragments (g : Gapped) : (fragments g).length = gaps g + 1 := by
  induction g with
  | nil => rfl
  | cons cell g ih =>
    cases cell with
    | some c => rw [fragments, List.length_modifyHead, ih, gaps_some]
    | none => rw [fragments, List.length_cons, ih, gaps_none]

/-- Filling the gaps puts the inserts between the fragments. -/
theorem fill_eq_weave (h : inserts.length = gaps g) :
    fill g inserts = weave (fragments g) inserts := by
  induction g generalizing inserts with
  | nil =>
    obtain rfl : inserts = [] := List.length_eq_zero_iff.mp h
    rfl
  | cons cell g ih =>
    cases cell with
    | some c =>
      rw [gaps_some] at h
      obtain ⟨first, others, hfragments⟩ :=
        List.exists_cons_of_length_eq_add_one (length_fragments g)
      rw [fill, ih h, fragments, hfragments, List.modifyHead_cons]
      cases inserts <;> rfl
    | none =>
      rw [gaps_none] at h
      obtain ⟨insert, inserts, rfl⟩ := List.exists_cons_of_length_eq_add_one h
      rw [fill, fragments, weave, List.headD_cons, List.tail_cons, ih (Nat.succ.inj h)]
      rfl

/-- One insert in all gaps stands between the fragments as often as there are gaps. -/
theorem fillAll_eq_weave (g : Gapped) (insert : Text) :
    fillAll g insert = weave (fragments g) (List.replicate (gaps g) insert) :=
  fill_eq_weave List.length_replicate

/-! ### One insert for all gaps -/

/-- A gap alone is filled by the insert. -/
@[simp] theorem fillAll_gap : fillAll gap insert = insert := List.append_nil insert

/-- Texts one behind the other are filled with the same insert. -/
@[simp] theorem fillAll_append (a b : Gapped) :
    fillAll (a ++ b) insert = fillAll a insert ++ fillAll b insert := by
  rw [fillAll, gaps_append, ← List.replicate_append_replicate, fill_append List.length_replicate]
  rfl

/-- A character stays in front of what is filled behind it. -/
@[simp] theorem fillAll_some (c : Char) (rest : Gapped) :
    fillAll (some c :: rest) insert = c :: fillAll rest insert := by
  rw [fillAll, gaps_some]
  rfl

/-- The insert stands where the first gap was. -/
@[simp] theorem fillAll_none (rest : Gapped) :
    fillAll (none :: rest) insert = insert ++ fillAll rest insert := by
  rw [fillAll, gaps_none]
  rfl

/-- A character stays in front of what is plugged behind it. -/
@[simp] theorem plug_some (c : Char) (rest inner : Gapped) :
    plug (some c :: rest) inner = some c :: plug rest inner := rfl

/-- The inner text stands where the first gap was. -/
@[simp] theorem plug_none (rest inner : Gapped) :
    plug (none :: rest) inner = inner ++ plug rest inner := rfl

/-- Every gap is replaced by those of the text that is put into it. -/
theorem gaps_plug (outer inner : Gapped) : gaps (plug outer inner) = gaps outer * gaps inner := by
  induction outer with
  | nil => simp [plug]
  | cons cell outer ih =>
    cases cell with
    | some c => rw [plug_some, gaps_some, gaps_some, ih]
    | none => rw [plug_none, gaps_append, gaps_none, ih, Nat.succ_mul, Nat.add_comm]

/-- What is put into every gap may be filled before it is put there. -/
theorem fillAll_plug (outer inner : Gapped) (insert : Text) :
    fillAll (plug outer inner) insert = fillAll outer (fillAll inner insert) := by
  induction outer with
  | nil => rfl
  | cons cell outer ih =>
    cases cell with
    | some c => rw [plug_some, fillAll_some, fillAll_some, ih]
    | none => rw [plug_none, fillAll_append, fillAll_none, ih]

/-! ### Elements -/

section Element

variable (policy : Policy) (tag : Text) (attributes : Attributes AttributeValue) (inside : Gapped)

/-- An element around a text with gaps, which a void element leaves out. -/
def element : Gapped :=
  ofText (policy.openTag tag attributes) ++
    if policy.isVoid (policy.elementName tag) then []
    else inside ++ ofText (policy.closeTag tag)

/-- An element has the gaps of what is in it, unless it is void. -/
theorem gaps_element : gaps (element policy tag attributes inside) =
    if policy.isVoid (policy.elementName tag) then 0 else gaps inside := by
  rw [element, gaps_append, gaps_ofText, Nat.zero_add]
  split
  · rfl
  · rw [gaps_append, gaps_ofText, Nat.add_zero]

/-- An element around a text with gaps is filled as this text is, unless it is void. -/
theorem fill_element (h : inserts.length = gaps inside) :
    fill (element policy tag attributes inside)
        (if policy.isVoid (policy.elementName tag) then [] else inserts) =
      Element.markup policy ⟨tag, attributes, fill inside inserts⟩ := by
  rw [element]
  cases hvoid : policy.isVoid (policy.elementName tag) with
  | true =>
    rw [Element.markup_of_isVoid hvoid, if_pos rfl, if_pos rfl, List.append_nil, fill_ofText]
  | false =>
    have hopen := @fill_append (ofText (policy.openTag tag attributes))
      (inside ++ ofText (policy.closeTag tag)) [] inserts (gaps_ofText _).symm
    have hclose := @fill_append inside (ofText (policy.closeTag tag)) inserts [] h
    rw [List.nil_append, fill_ofText] at hopen
    rw [List.append_nil, fill_ofText] at hclose
    rw [Element.markup_of_not_isVoid hvoid, if_neg Bool.false_ne_true, if_neg Bool.false_ne_true,
      hopen, hclose, List.append_assoc]

/-- An element has one insert in all of its gaps. -/
theorem fillAll_element (insert : Text) :
    fillAll (element policy tag attributes inside) insert =
      Element.markup policy ⟨tag, attributes, fillAll inside insert⟩ := by
  rw [fillAll, fillAll, ← fill_element policy tag attributes inside List.length_replicate,
    gaps_element]
  split <;> rfl

end Element

end Gapped
end Shorthand.Markup
