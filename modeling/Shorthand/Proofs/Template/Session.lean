import Shorthand.Proofs.Template.Holes

/-!
# Sessions

Any number of templates are expanded from one supply, one after the other. A template is filled in
one go; the first main statement says that this is the same as asking for one argument after the
other on the way through its items, also where the arguments run out on that way. The second says
what every template of a session comes to, whatever became of those in front of it.
-/

namespace Shorthand.Template

open Grammar

/-! ### One argument after the other -/

/-- A computation that asks a supply for arguments. It ends in a fault where it asks for one that is
not there, and what has been handed out until then stays handed out. -/
abbrev Asking := ExceptT Exhausted (StateM Supply)

namespace Asking

/-- Ask for the next argument. -/
def argument : Asking Value := fun supply ↦ supply.next

/-- Take one decoration in, with the next argument if it is a placeholder. -/
def decoration (collected : Contributions) (d : Decoration) : Asking Contributions := do
  if d.isPlaceholder then
    let value ← argument
    return settle collected d value
  else
    return collected.add d

/-- Take decorations in from left to right. -/
def decorations : Contributions → List Decoration → Asking Contributions
  | collected, [] => return collected
  | collected, d :: rest => do
    let collected ← decoration collected d
    decorations collected rest

/-- The markup of a row of items: of each item the decorations first, then the content, then the
items behind it. -/
def forest (policy : Policy) : Forest → Asking Text
  | .nil => return []
  | .leaf segment hasHole next => do
    let collected ← decorations .empty segment.decorations
    let inside ← if hasHole then Value.contentText <$> argument else pure []
    let others ← forest policy next
    let content := if hasHole then .hole else .empty
    return markupAround policy segment content collected inside ++ others
  | .group segment children next => do
    let collected ← decorations .empty segment.decorations
    let inside ← forest policy children
    let others ← forest policy next
    return itemMarkup policy segment collected inside ++ others

variable {α β : Type}

/-- A step of filling as a computation on supplies. -/
def ofStep (step : Step α) : Asking α := fun supply ↦
  match step supply.remaining with
  | some (a, rest) => (.ok a, supply.leaving rest)
  | none => (.error supply.exhausted, supply.leaving [])

end Asking

namespace Supply

/-- A supply leaves itself when all that remains is left. -/
@[simp] theorem leaving_remaining (supply : Supply) : supply.leaving supply.remaining = supply := by
  simp [leaving, total]

/-- What is left of a supply makes up the same total. -/
theorem total_leaving {supply : Supply} {rest : List Value}
    (h : rest.length ≤ supply.remaining.length) : (supply.leaving rest).total = supply.total := by
  simp only [leaving, total]
  omega

/-- What was left in between does not matter. -/
theorem leaving_leaving {supply : Supply} {rest : List Value}
    (h : rest.length ≤ supply.remaining.length) (rest' : List Value) :
    (supply.leaving rest).leaving rest' = supply.leaving rest' := by
  have htotal := total_leaving h
  simp only [leaving] at htotal ⊢
  rw [htotal]

end Supply

namespace Asking

/-- A finished step asks for nothing. -/
theorem ofStep_done (a : α) : ofStep (Step.done a) = pure a := by
  funext supply
  exact congrArg (Prod.mk (Except.ok a)) supply.leaving_remaining

/-- Taking the next argument asks for it. -/
theorem ofStep_takeArgument : ofStep takeArgument = argument := by
  funext supply
  obtain ⟨template?, consumed, remaining⟩ := supply
  cases remaining <;> rfl

/-- What a step leaves is no longer than what it was given. -/
theorem length_le_of_takes {n : Nat} {step : Step α} (h : step.Takes n) {a : α}
    {arguments rest : List Value} (hstep : step arguments = some (a, rest)) :
    rest.length ≤ arguments.length := by
  by_cases hfew : arguments.length < n
  · rw [h.2 arguments hfew] at hstep
    exact nomatch hstep
  · obtain ⟨b, hall, -⟩ := h.of_le (Nat.le_of_not_lt hfew)
    rw [hall] at hstep
    obtain ⟨-, rfl⟩ := Prod.mk.inj (Option.some.inj hstep)
    rw [List.length_drop]
    omega

/-- A computation behind another one goes on with what the first has left, unless that came to
nothing. -/
theorem bind_apply (x : Asking α) (f : α → Asking β) (supply : Supply) :
    (x >>= f) supply =
      match x supply with
      | (.ok a, supply) => f a supply
      | (.error fault, supply) => (.error fault, supply) := by
  change (match x supply with | (outcome, supply) => ExceptT.bindCont f outcome supply) = _
  cases x supply with
  | mk outcome supply => cases outcome <;> rfl

/-- Two steps ask one after the other. If the second comes to nothing, what the first has taken is
gone with the rest. -/
theorem ofStep_andThen {n : Nat} {first : Step α} {second : α → Step β} (h : first.Takes n) :
    ofStep (first.andThen second) = ofStep first >>= fun a ↦ ofStep (second a) := by
  funext supply
  rw [bind_apply]
  cases hfirst : first supply.remaining with
  | none => simp only [ofStep, Step.andThen, hfirst, Option.bind_none]
  | some taken =>
    obtain ⟨a, rest⟩ := taken
    have hle := length_le_of_takes h hfirst
    have hleaving := Supply.leaving_leaving hle
    -- A fault of the second step tells the total, which the first one has left as it was.
    have hfault : (supply.leaving rest).exhausted = supply.exhausted := by
      simp only [Supply.exhausted, Supply.total_leaving hle]
      rfl
    simp only [ofStep, Step.andThen, hfirst, Option.bind_some]
    have hremaining : (supply.leaving rest).remaining = rest := rfl
    rw [hremaining, hfault]
    simp only [hleaving]

/-- Taking in a decoration asks for its argument. -/
theorem ofStep_fillDecoration (collected : Contributions) (d : Decoration) :
    ofStep (fillDecoration collected d) = decoration collected d := by
  cases h : d.isPlaceholder with
  | true =>
    rw [fillDecoration_of_isPlaceholder collected h, ofStep_andThen Step.takes_takeArgument,
      ofStep_takeArgument]
    simp only [ofStep_done, decoration, h, if_true]
  | false =>
    rw [fillDecoration_of_not_isPlaceholder collected h, ofStep_done]
    simp only [decoration, h, if_false, Bool.false_eq_true]

/-- Taking in decorations asks for their arguments from left to right. -/
theorem ofStep_fillDecorations (collected : Contributions) (ds : List Decoration) :
    ofStep (fillDecorations collected ds) = decorations collected ds := by
  induction ds generalizing collected with
  | nil => exact ofStep_done collected
  | cons d ds ih =>
    rw [fillDecorations_cons, ofStep_andThen (takes_fillDecoration collected d),
      ofStep_fillDecoration]
    exact bind_congr ih

/-- Filling a row of items asks for one argument after the other. -/
theorem ofStep_fill (policy : Policy) (row : Forest) :
    ofStep (fill policy row) = forest policy row := by
  induction row using Forest.item_induction with
  | nil => exact ofStep_done []
  | item segment content next ihChildren ih =>
    -- Behind the decorations the three kinds of content differ in their own step only.
    have hbehind : ∀ collected, ofStep (Step.andThen (fillContent policy content) fun inside ↦
        Step.andThen (fill policy next) fun others ↦
          .done (markupAround policy segment content collected inside ++ others)) = (do
        let inside ← ofStep (fillContent policy content)
        let others ← forest policy next
        return markupAround policy segment content collected inside ++ others) := by
      intro collected
      rw [ofStep_andThen (takes_fillContent policy content)]
      refine bind_congr fun inside ↦ ?_
      rw [ofStep_andThen (takes_fill policy next), ih]
      exact bind_congr fun others ↦ ofStep_done _
    rw [fill_item, ofStep_andThen (takes_fillDecorations _ _), ofStep_fillDecorations]
    simp only [hbehind]
    cases content with
    | empty =>
      have hcontent : ofStep (fillContent policy .empty) = pure [] := ofStep_done []
      rw [hcontent]
      rfl
    | hole =>
      have hcontent : ofStep (fillContent policy .hole) = Value.contentText <$> argument := by
        rw [fillContent, ofStep_andThen Step.takes_takeArgument, ofStep_takeArgument]
        simp only [ofStep_done, bind_pure_comp]
      rw [hcontent]
      rfl
    | group children =>
      have hcontent : ofStep (fillContent policy (.group children)) = forest policy children :=
        ihChildren children rfl
      have hsplice : isSplice segment (.group children) = false := by simp [isSplice]
      rw [hcontent]
      simp only [markupAround, hsplice]
      rfl

end Asking

namespace Supply

variable {policy : Policy} {supply : Supply} {template : Text} {forest : Forest}

/-- Expand a template by asking for one argument after the other. -/
def resolve (policy : Policy) (template : Text) (supply : Supply) :
    Except Failure Text × Supply :=
  match parse template with
  | .error fault => (.error (.malformed fault), supply)
  | .ok forest =>
    let (outcome, supply) := Asking.forest policy forest supply
    (outcome.mapError .exhausted, supply)

/-- Expanding a template comes to what asking for one argument after the other does. -/
theorem expand_eq_resolve (policy : Policy) (template : Text) (supply : Supply) :
    supply.expand policy template = supply.resolve policy template := by
  cases hparse : parse template with
  | error fault => simp only [expand, resolve, hparse]
  | ok forest =>
    have hfill : supply.fill policy forest = Asking.forest policy forest supply := by
      rw [← Asking.ofStep_fill, Asking.ofStep, fill]
      cases Template.fill policy forest supply.remaining <;> rfl
    simp only [expand, resolve, hparse, hfill]
    rfl

/-! ### One template -/

/-- A template that cannot be read leaves the supply as it is. -/
theorem expand_of_parse_error {fault : Malformed} (h : parse template = .error fault) :
    supply.expand policy template = (.error (.malformed fault), supply) := by
  simp only [expand, h]

/-- With arguments enough a template takes one for each placeholder, and comes out as it does with
nothing but what remains. -/
theorem expand_of_le (h : parse template = .ok forest)
    (henough : forest.holes ≤ supply.remaining.length) :
    ∃ markup, supply.expand policy template =
        (.ok markup, supply.leaving (supply.remaining.drop forest.holes)) ∧
      Template.expand policy template supply.remaining = .ok markup := by
  obtain ⟨markup, hfill, -⟩ := (takes_fill policy forest).of_le henough
  refine ⟨markup, ?_, ?_⟩
  · simp only [expand, h, fill, hfill]
    rfl
  · rw [expand_of_parse policy _ h, hfill]

/-- With fewer arguments everything is taken, and the fault tells how many there were. -/
theorem expand_of_lt (h : parse template = .ok forest)
    (hfew : supply.remaining.length < forest.holes) :
    supply.expand policy template =
      (.error (.exhausted supply.exhausted), supply.leaving []) := by
  simp only [expand, h, fill, (takes_fill policy forest).2 _ hfew]
  rfl

/-- Whatever a template comes to, it takes arguments from the front. -/
theorem exists_leaving (policy : Policy) (template : Text) (supply : Supply) :
    ∃ n ≤ supply.remaining.length,
      (supply.expand policy template).2 = supply.leaving (supply.remaining.drop n) := by
  cases hparse : parse template with
  | error fault =>
    refine ⟨0, Nat.zero_le _, ?_⟩
    rw [expand_of_parse_error hparse, List.drop_zero, leaving_remaining]
  | ok forest =>
    by_cases hfew : supply.remaining.length < forest.holes
    · refine ⟨supply.remaining.length, Nat.le_refl _, ?_⟩
      rw [expand_of_lt hparse hfew, List.drop_length]
    · obtain ⟨markup, hexpand, -⟩ := @expand_of_le policy supply _ _ hparse (Nat.le_of_not_lt hfew)
      exact ⟨forest.holes, Nat.le_of_not_lt hfew, by rw [hexpand]⟩

/-! ### One template after the other -/

/-- The supply behind templates that are expanded from it one after the other. -/
def after (policy : Policy) (supply : Supply) (templates : List Text) : Supply :=
  templates.foldl (fun supply template ↦ (supply.expand policy template).2) supply

/-- Whether a supply has handed out the first of the given arguments, and has the others left. -/
structure HandsOut (template? : Option Text) (arguments : List Value) (supply : Supply) : Prop where
  template? : supply.template? = template?
  consumed_le : supply.consumed ≤ arguments.length
  remaining : supply.remaining = arguments.drop supply.consumed

/-- Whether a supply is used up: nothing remains, a template with placeholders ends in the fault
that says so, and every other one comes out as it does with whatever arguments. -/
structure UsedUp (policy : Policy) (supply : Supply) : Prop where
  remaining : supply.remaining = []
  exhausted : ∀ template forest outline, parse template = .ok forest →
    Outline.of? template = some outline → 0 < Outline.holes outline →
      supply.expand policy template = (.error (.exhausted supply.exhausted), supply)
  filled : ∀ template forest outline, parse template = .ok forest →
    Outline.of? template = some outline → Outline.holes outline = 0 →
      ∃ markup, supply.expand policy template = (.ok markup, supply) ∧
        ∀ arguments, Template.expand policy template arguments = .ok markup

namespace HandsOut

variable {template? : Option Text} {arguments : List Value}

/-- A supply begins with nothing handed out. -/
theorem ofArguments (template? : Option Text) (arguments : List Value) :
    (ofArguments template? arguments).HandsOut template? arguments :=
  ⟨rfl, Nat.zero_le _, rfl⟩

variable (h : supply.HandsOut template? arguments)
include h

/-- As many arguments remain as have not been handed out. -/
theorem length_remaining : supply.remaining.length = arguments.length - supply.consumed := by
  rw [h.remaining, List.length_drop]

/-- The fault of a supply tells all of its arguments. -/
theorem exhausted_eq : supply.exhausted = ⟨template?, arguments.length⟩ := by
  have htotal : supply.total = arguments.length := by
    have hle := h.consumed_le
    rw [total, h.length_remaining]
    omega
  rw [exhausted, htotal, h.template?]

/-- Handing out more moves on by as much. -/
theorem leaving {n : Nat} (hn : n ≤ supply.remaining.length) :
    (supply.leaving (supply.remaining.drop n)).HandsOut template? arguments ∧
      (supply.leaving (supply.remaining.drop n)).consumed = supply.consumed + n := by
  have hconsumed : (supply.leaving (supply.remaining.drop n)).consumed = supply.consumed + n := by
    simp only [Supply.leaving, total, List.length_drop]
    omega
  refine ⟨⟨h.template?, ?_, ?_⟩, hconsumed⟩
  · have hle := h.consumed_le
    rw [h.length_remaining] at hn
    rw [hconsumed]
    omega
  · rw [hconsumed, ← List.drop_drop, ← h.remaining]
    rfl

/-- A template takes nothing back, whatever it comes to. -/
theorem expand (policy : Policy) (template : Text) :
    (supply.expand policy template).2.HandsOut template? arguments ∧
      supply.consumed ≤ (supply.expand policy template).2.consumed := by
  obtain ⟨n, hn, hleaving⟩ := exists_leaving policy template supply
  obtain ⟨hbehind, hconsumed⟩ := h.leaving hn
  rw [hleaving, hconsumed]
  exact ⟨hbehind, Nat.le_add_right _ _⟩

/-- What a supply has handed out stays so behind any templates. -/
theorem after (policy : Policy) (templates : List Text) :
    (supply.after policy templates).HandsOut template? arguments := by
  induction templates generalizing supply with
  | nil => exact h
  | cons template templates ih => exact ih (h.expand policy template).1

end HandsOut

/-- Nothing changes a supply of which nothing remains. -/
theorem after_of_remaining_nil (h : supply.remaining = []) (templates : List Text) :
    supply.after policy templates = supply := by
  have hstep : ∀ template, (supply.expand policy template).2 = supply := by
    intro template
    obtain ⟨n, -, hleaving⟩ := exists_leaving policy template supply
    rw [hleaving, h, List.drop_nil, ← h, leaving_remaining]
  induction templates with
  | nil => rfl
  | cons template templates ih =>
    rw [after, List.foldl_cons, hstep]
    exact ih

/-- A supply of which nothing remains is used up. -/
theorem usedUp_of_remaining_nil (policy : Policy) (h : supply.remaining = []) :
    supply.UsedUp policy := by
  have hleaving : supply.leaving [] = supply := by rw [← h, leaving_remaining]
  refine ⟨h, fun template forest outline hparse houtline hsome ↦ ?_,
    fun template forest outline hparse houtline hnone ↦ ?_⟩
  · have hfew : supply.remaining.length < forest.holes := by
      rw [h, ← holes_of_parse hparse houtline]
      exact hsome
    rw [expand_of_lt hparse hfew, hleaving]
  · have hzero : forest.holes = 0 := by rw [← holes_of_parse hparse houtline, hnone]
    obtain ⟨markup, hfill⟩ := (takes_fill policy forest).1 [] hzero.symm
    refine ⟨markup, ?_, fun arguments ↦ ?_⟩
    · have hhere := hfill supply.remaining
      rw [List.nil_append] at hhere
      simp only [expand, hparse, fill, hhere, leaving_remaining]
      rfl
    · have hthere := hfill arguments
      rw [List.nil_append] at hthere
      rw [expand_of_parse policy arguments hparse, hthere]

/-- Behind any templates, whatever became of them, a supply has handed out some of its arguments and
has the others left, and takes none back. The next template is expanded by asking for one argument
after the other. If it cannot be read the supply stays as it is. If there is an argument for each of
its placeholders it takes so many, and comes out as with arguments of its own from there on.
Otherwise the fault tells how many arguments there were at all, and the supply is used up. -/
theorem expand_after (policy : Policy) (template? : Option Text) (arguments : List Value)
    (earlier : List Text) (template : Text) :
    let supply := (ofArguments template? arguments).after policy earlier
    let behind := (supply.expand policy template).2
    supply.consumed + supply.remaining.length = arguments.length ∧
      supply.consumed ≤ behind.consumed ∧
      supply.expand policy template = supply.resolve policy template ∧
      (∀ fault, parse template = .error fault →
        supply.expand policy template = (.error (.malformed fault), supply)) ∧
      ∀ forest, parse template = .ok forest →
        ∃ outline, Outline.of? template = some outline ∧
          (Outline.holes outline ≤ supply.remaining.length →
            ∃ markup, (supply.expand policy template).1 = .ok markup ∧
              behind.consumed = supply.consumed + Outline.holes outline ∧
              Template.expand policy template (arguments.drop supply.consumed) = .ok markup) ∧
          (supply.remaining.length < Outline.holes outline →
            (supply.expand policy template).1 =
                .error (.exhausted ⟨template?, arguments.length⟩) ∧
              behind.remaining = [] ∧
              ∀ others, (behind.after policy others).UsedUp policy) := by
  intro supply behind
  have h : supply.HandsOut template? arguments :=
    (HandsOut.ofArguments template? arguments).after policy earlier
  have hle := h.consumed_le
  have hlength := h.length_remaining
  refine ⟨by omega, (h.expand policy template).2, expand_eq_resolve policy template supply,
    fun fault hparse ↦ expand_of_parse_error hparse, fun forest hparse ↦ ?_⟩
  obtain ⟨outline, houtline, hholes⟩ := exists_outline_of_parse hparse
  refine ⟨outline, houtline, ?_⟩
  rw [hholes]
  refine ⟨fun henough ↦ ?_, fun hfew ↦ ?_⟩
  · obtain ⟨markup, hexpand, hown⟩ := @expand_of_le policy supply _ _ hparse henough
    have hbehind : behind = supply.leaving (supply.remaining.drop forest.holes) := by
      simp only [behind, hexpand]
    rw [h.remaining] at hown
    exact ⟨markup, by rw [hexpand], by rw [hbehind, (h.leaving henough).2], hown⟩
  · have hexpand := @expand_of_lt policy supply _ _ hparse hfew
    have hbehind : behind = supply.leaving [] := by simp only [behind, hexpand]
    have hnone : behind.remaining = [] := by rw [hbehind]; rfl
    refine ⟨by rw [hexpand, h.exhausted_eq], hnone, fun others ↦ ?_⟩
    rw [after_of_remaining_nil hnone]
    exact usedUp_of_remaining_nil policy hnone

/-- Behind a template with one placeholder and one that is malformed, two of three arguments are
left: enough for one placeholder, and used up by three of which the last stands in a group. -/
theorem expand_after_midway :
    let arguments : List Value := [.integer 1, .text "b".toList, .null]
    let supply := (ofArguments none arguments).after .standard ["p%".toList, "p(".toList]
    (∃ markup, (supply.expand .standard "i%".toList).1 = .ok markup ∧
      (supply.expand .standard "i%".toList).2.consumed = 2 ∧
      Template.expand .standard "i%".toList [.text "b".toList, .null] = .ok markup) ∧
    (supply.expand .standard "i[x=%](b%+%)".toList).1 = .error (.exhausted ⟨none, 3⟩) ∧
    (supply.expand .standard "i[x=%](b%+%)".toList).2.remaining = [] ∧
    (supply.expand .standard "i[x=%](b%+%)".toList).2.UsedUp .standard := by
  intro arguments supply
  have hconsumed : supply.consumed = 1 := by decide +kernel
  have hremaining : supply.remaining.length = 2 := by decide +kernel
  have hholes : ∀ {template outline n}, Outline.of? template = some outline →
      (Outline.of? template).map Outline.holes = some n → Outline.holes outline = n := by
    intro template outline n houtline hn
    rw [houtline] at hn
    exact Option.some.inj hn
  have hone := expand_after .standard none arguments ["p%".toList, "p(".toList] "i%".toList
  have hthree := expand_after .standard none arguments ["p%".toList, "p(".toList]
    "i[x=%](b%+%)".toList
  obtain ⟨forest, hforest⟩ := exists_forest_of_isOk
    (show (parse "i%".toList).isOk = true by decide +kernel)
  obtain ⟨forest', hforest'⟩ := exists_forest_of_isOk
    (show (parse "i[x=%](b%+%)".toList).isOk = true by decide +kernel)
  obtain ⟨outline, houtline, henough, -⟩ := hone.2.2.2.2 forest hforest
  obtain ⟨outline', houtline', -, hfew⟩ := hthree.2.2.2.2 forest' hforest'
  have hcount : Outline.holes outline = 1 := hholes houtline (by decide +kernel)
  have hcount' : Outline.holes outline' = 3 := hholes houtline' (by decide +kernel)
  obtain ⟨markup, hmarkup, hbehind, hown⟩ := henough (by rw [hcount, hremaining]; decide)
  obtain ⟨hfault, hnone, hused⟩ := hfew (by rw [hcount', hremaining]; decide)
  rw [hcount, hconsumed] at hbehind
  rw [hconsumed] at hown
  exact ⟨⟨markup, hmarkup, hbehind, hown⟩, hfault, hnone, hused []⟩

end Supply

end Shorthand.Template
