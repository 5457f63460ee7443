import Shorthand.Template.Supply

/-!
# What filling asks for

Filling takes arguments step by step. A step asks for a number of arguments if it takes exactly so
many from the front, has no result if there are fewer, and does not look at those behind. The main
statements say that steps one after the other ask for what they ask for together, that filling a
forest asks for as many arguments as the forest has placeholders, and that a step can be exchanged
among others for one that makes the same of other arguments.
-/

namespace Shorthand.Template

/-- A step of filling: what it makes of the arguments that are left, and those left after it. -/
abbrev Step (α : Type) := List Value → Option (α × List Value)

namespace Step

variable {α β : Type} {m n : Nat}

/-- A step that takes no argument. -/
def done (a : α) : Step α := fun arguments ↦ some (a, arguments)

/-- A step and another one behind it, which depends on the result of the first. -/
def andThen (first : Step α) (second : α → Step β) : Step β := fun arguments ↦
  (first arguments).bind fun taken ↦ second taken.1 taken.2

/-- Whether a step takes exactly `n` arguments, whatever stands behind them, and has no result
without them. -/
def Takes (n : Nat) (step : Step α) : Prop :=
  (∀ used : List Value, used.length = n → ∃ a, ∀ rest, step (used ++ rest) = some (a, rest)) ∧
    ∀ arguments : List Value, arguments.length < n → step arguments = none

/-- A list that is long enough has a beginning of a given length. -/
theorem exists_front {values : List Value} (h : n ≤ values.length) :
    ∃ front rest, values = front ++ rest ∧ front.length = n := by
  refine ⟨values.take n, values.drop n, (List.take_append_drop n values).symm, ?_⟩
  rw [List.length_take]
  omega

/-- A finished step takes nothing. -/
theorem takes_done (a : α) : Takes 0 (done a) := by
  constructor
  · intro used hused
    obtain rfl : used = [] := List.length_eq_zero_iff.mp hused
    exact ⟨a, fun rest ↦ rfl⟩
  · intro arguments h
    omega

/-- Two steps take what each of them takes. -/
theorem Takes.andThen {first : Step α} {second : α → Step β} (h : Takes m first)
    (h' : ∀ a, Takes n (second a)) : Takes (m + n) (first.andThen second) := by
  constructor
  · intro used hused
    obtain ⟨front, others, rfl, hfront⟩ := exists_front (show m ≤ used.length by omega)
    have hothers : others.length = n := by
      rw [List.length_append] at hused
      omega
    obtain ⟨a, ha⟩ := h.1 front hfront
    obtain ⟨b, hb⟩ := (h' a).1 others hothers
    refine ⟨b, fun rest ↦ ?_⟩
    rw [List.append_assoc, Step.andThen, ha, Option.bind_some, hb]
  · intro arguments hshort
    by_cases hfew : arguments.length < m
    · rw [Step.andThen, h.2 arguments hfew, Option.bind_none]
    · obtain ⟨front, others, rfl, hfront⟩ := exists_front (Nat.le_of_not_lt hfew)
      have hothers : others.length < n := by
        rw [List.length_append] at hshort
        omega
      obtain ⟨a, ha⟩ := h.1 front hfront
      rw [Step.andThen, ha, Option.bind_some, (h' a).2 others hothers]

/-- Handing out the next argument takes one. -/
theorem takes_takeArgument : Takes 1 takeArgument := by
  constructor
  · intro used hused
    obtain ⟨value, rfl⟩ := List.length_eq_one_iff.mp hused
    exact ⟨value, fun rest ↦ rfl⟩
  · intro arguments h
    obtain rfl : arguments = [] := List.length_eq_zero_iff.mp (by omega)
    rfl

/-- With enough arguments a step has a result; it leaves those that it does not take, and they do
not change the result. -/
theorem Takes.of_le {step : Step α} (h : Takes n step) {arguments : List Value}
    (hle : n ≤ arguments.length) :
    ∃ a, step arguments = some (a, arguments.drop n) ∧
      step (arguments.take n) = some (a, []) := by
  have hlength : (arguments.take n).length = n := by
    rw [List.length_take]
    omega
  obtain ⟨a, ha⟩ := h.1 _ hlength
  refine ⟨a, ?_, ?_⟩
  · have hall := ha (arguments.drop n)
    rwa [List.take_append_drop] at hall
  · have hnone := ha []
    rwa [List.append_nil] at hnone

/-! ### Other arguments for the same result -/

/-- Whether two steps have the same result for arguments that differ behind the first `n` only,
where the first step has what is related by `R` to what the second has. -/
def Exchanges (R : List Value → List Value → Prop) (n : Nat) (step step' : Step α) : Prop :=
  ∀ before here here' behind : List Value, before.length = n → R here here' →
    step (before ++ (here ++ behind)) = step' (before ++ (here' ++ behind))

variable {R : List Value → List Value → Prop}

/-- Steps that may be exchanged may be so in front of another step. -/
theorem Exchanges.andThen {first first' : Step α} (second : α → Step β)
    (h : Exchanges R n first first') :
    Exchanges R n (first.andThen second) (first'.andThen second) := by
  intro before here here' behind hbefore hR
  rw [Step.andThen, Step.andThen, h before here here' behind hbefore hR]

/-- Steps that may be exchanged may be so behind another step, which takes the first arguments. -/
theorem Takes.exchanges {first : Step α} {second second' : α → Step β} (h : Takes m first)
    (h' : ∀ a, Exchanges R n (second a) (second' a)) :
    Exchanges R (m + n) (first.andThen second) (first.andThen second') := by
  intro before here here' behind hbefore hR
  obtain ⟨used, before, rfl, hused⟩ := exists_front (show m ≤ before.length by omega)
  have hlength : before.length = n := by
    rw [List.length_append] at hbefore
    omega
  obtain ⟨a, ha⟩ := h.1 used hused
  rw [List.append_assoc, List.append_assoc, Step.andThen, Step.andThen, ha, ha, Option.bind_some,
    Option.bind_some, h' a before here here' behind hlength hR]

end Step

/-- An argument stands between those in front of it and those behind it. -/
theorem exists_around {arguments : List Value} {value : Value} {k : Nat}
    (h : arguments[k]? = some value) :
    ∃ before behind, arguments = before ++ value :: behind ∧ before.length = k ∧
      arguments.eraseIdx k = before ++ behind := by
  obtain ⟨hlt, rfl⟩ := List.getElem?_eq_some_iff.mp h
  refine ⟨arguments.take k, arguments.drop (k + 1), ?_, ?_, ?_⟩
  · rw [← List.drop_eq_getElem_cons hlt, List.take_append_drop]
  · rw [List.length_take]
    omega
  · rw [List.eraseIdx_eq_take_drop_succ]

/-! ### Decorations -/

/-- The number of placeholders among decorations. -/
def decorationHoles (ds : List Decoration) : Nat := ds.countP Decoration.isPlaceholder

/-- The first decoration counts if it is a placeholder. -/
@[simp] theorem decorationHoles_cons (d : Decoration) (ds : List Decoration) :
    decorationHoles (d :: ds) = (if d.isPlaceholder then 1 else 0) + decorationHoles ds := by
  rw [decorationHoles, List.countP_cons, Nat.add_comm]
  rfl

/-- What is collected once a placeholder has its argument. -/
def settle (collected : Contributions) (d : Decoration) (value : Value) : Contributions :=
  if leavesOut value then collected.leaveOut d
  else collected.add (d.withValue (some value.toText))

/-- A placeholder is taken in with the next argument. -/
theorem fillDecoration_of_isPlaceholder (collected : Contributions) {d : Decoration}
    (h : d.isPlaceholder = true) :
    fillDecoration collected d =
      Step.andThen takeArgument fun value ↦ .done (settle collected d value) := by
  funext arguments
  rw [fillDecoration, if_pos h]
  cases arguments <;> rfl

/-- Any other decoration is taken in as it is. -/
theorem fillDecoration_of_not_isPlaceholder (collected : Contributions) {d : Decoration}
    (h : d.isPlaceholder = false) :
    fillDecoration collected d = Step.done (collected.add d) := by
  funext arguments
  rw [fillDecoration, if_neg (by rw [h]; exact Bool.false_ne_true)]
  rfl

/-- Decorations are taken in one after the other. -/
theorem fillDecorations_cons (collected : Contributions) (d : Decoration) (ds : List Decoration) :
    fillDecorations collected (d :: ds) =
      Step.andThen (fillDecoration collected d) fun collected ↦ fillDecorations collected ds :=
  rfl

/-- Decorations in front are taken in before those behind. -/
theorem fillDecorations_append (collected : Contributions) (ds ds' : List Decoration) :
    fillDecorations collected (ds ++ ds') =
      Step.andThen (fillDecorations collected ds) fun collected ↦
        fillDecorations collected ds' := by
  induction ds generalizing collected with
  | nil => rfl
  | cons d ds ih =>
    funext arguments
    rw [List.cons_append, fillDecorations_cons, fillDecorations_cons]
    simp only [Step.andThen, ih, Option.bind_assoc]

/-- Decorations without placeholders are all added. -/
theorem fillDecorations_of_not_isPlaceholder {ds : List Decoration} (collected : Contributions)
    (h : ∀ d ∈ ds, d.isPlaceholder = false) :
    fillDecorations collected ds = Step.done (ds.foldl Contributions.add collected) := by
  induction ds generalizing collected with
  | nil => rfl
  | cons d ds ih =>
    have hd := fillDecoration_of_not_isPlaceholder collected (h d (List.mem_cons_self ..))
    have hothers := ih (collected.add d) fun e he ↦ h e (List.mem_cons_of_mem _ he)
    rw [fillDecorations_cons, hd]
    exact hothers

/-- Taking in a decoration asks for an argument if it is a placeholder. -/
theorem takes_fillDecoration (collected : Contributions) (d : Decoration) :
    Step.Takes (if d.isPlaceholder then 1 else 0) (fillDecoration collected d) := by
  cases h : d.isPlaceholder with
  | true =>
    rw [fillDecoration_of_isPlaceholder collected h]
    exact Step.takes_takeArgument.andThen fun value ↦ Step.takes_done _
  | false =>
    rw [fillDecoration_of_not_isPlaceholder collected h]
    exact Step.takes_done _

/-- Taking in decorations asks for one argument for each placeholder among them. -/
theorem takes_fillDecorations (collected : Contributions) (ds : List Decoration) :
    Step.Takes (decorationHoles ds) (fillDecorations collected ds) := by
  induction ds generalizing collected with
  | nil => exact Step.takes_done collected
  | cons d ds ih =>
    rw [decorationHoles_cons, fillDecorations_cons]
    exact (takes_fillDecoration collected d).andThen ih

/-! ### Forests -/

/-- The number of placeholders in a row of items. -/
def Forest.holes : Forest → Nat
  | .nil => 0
  | .leaf segment hasHole next =>
    decorationHoles segment.decorations + (if hasHole then 1 else 0) + next.holes
  | .group segment children next =>
    decorationHoles segment.decorations + children.holes + next.holes

/-- The number of placeholders in the content of an item. -/
def Content.holes : Content → Nat
  | .empty => 0
  | .hole => 1
  | .group children => children.holes

/-- An item in front of a row adds the placeholders of its decorations and its content. -/
@[simp] theorem Forest.holes_item (segment : Segment) (content : Content) (next : Forest) :
    (Forest.item segment content next).holes =
      decorationHoles segment.decorations + content.holes + next.holes := by
  cases content <;> rfl

/-- What holds for a row of items if it holds for the groups inside and for the items behind holds
for every row. -/
@[elab_as_elim]
theorem Forest.item_induction {motive : Forest → Prop} (nil : motive .nil)
    (item : ∀ segment content next, (∀ children, content = .group children → motive children) →
      motive next → motive (.item segment content next)) (forest : Forest) : motive forest := by
  induction forest with
  | nil => exact nil
  | leaf segment hasHole next ih =>
    cases hasHole with
    | false => exact item segment .empty next (fun _ h ↦ nomatch h) ih
    | true => exact item segment .hole next (fun _ h ↦ nomatch h) ih
  | group segment children next ihChildren ih =>
    apply item segment (.group children) next _ ih
    rintro _ ⟨rfl⟩
    exact ihChildren

/-- The text of the content of an item, and the arguments that are left. -/
def fillContent (policy : Policy) : Content → Step Text
  | .empty => .done []
  | .hole => Step.andThen takeArgument fun value ↦ .done value.contentText
  | .group children => fill policy children

/-- The markup of an item: of a splice its content, of any other its element around it. -/
def markupAround (policy : Policy) (segment : Segment) (content : Content)
    (collected : Contributions) (inside : Text) : Text :=
  if isSplice segment content then inside else itemMarkup policy segment collected inside

/-- An item is filled decorations first, then content, then the items behind it. -/
theorem fill_item (policy : Policy) (segment : Segment) (content : Content) (next : Forest) :
    fill policy (.item segment content next) =
      Step.andThen (fillDecorations .empty segment.decorations) fun collected ↦
        Step.andThen (fillContent policy content) fun inside ↦
          Step.andThen (fill policy next) fun others ↦
            .done (markupAround policy segment content collected inside ++ others) := by
  funext arguments
  cases content with
  | empty =>
    have hsplice : isSplice segment .empty = false := by simp [isSplice]
    simp only [markupAround, hsplice]
    rfl
  | hole =>
    simp only [Forest.item, fill, Step.andThen, fillContent, Option.bind_assoc]
    rfl
  | group children =>
    have hsplice : isSplice segment (.group children) = false := by simp [isSplice]
    simp only [markupAround, hsplice]
    rfl

private theorem takes_fillContent_of (policy : Policy) (content : Content)
    (h : ∀ children, content = .group children → Step.Takes children.holes (fill policy children)) :
    Step.Takes content.holes (fillContent policy content) := by
  cases content with
  | empty => exact Step.takes_done []
  | hole => exact Step.takes_takeArgument.andThen fun value ↦ Step.takes_done _
  | group children => exact h children rfl

/-- Filling asks for one argument for each placeholder. -/
theorem takes_fill (policy : Policy) (forest : Forest) :
    Step.Takes forest.holes (fill policy forest) := by
  induction forest using Forest.item_induction with
  | nil => exact Step.takes_done []
  | item segment content next ihChildren ih =>
    have hcontent := takes_fillContent_of policy content ihChildren
    rw [fill_item, Forest.holes_item, Nat.add_assoc]
    exact (takes_fillDecorations _ _).andThen fun collected ↦
      hcontent.andThen fun inside ↦ ih.andThen fun others ↦ Step.takes_done _

/-- Filling the content of an item asks for one argument for each placeholder in it. -/
theorem takes_fillContent (policy : Policy) (content : Content) :
    Step.Takes content.holes (fillContent policy content) :=
  takes_fillContent_of policy content fun children _ ↦ takes_fill policy children

end Shorthand.Template
