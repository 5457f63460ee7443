import Shorthand.Proofs.Template.Demand

/-!
# Preset values

A step of filling may have an argument preset: it makes of the other arguments what another step
makes of all of them. The main statement is that a forest in which the placeholder of a decoration
is replaced by the text of a value is filled by the other arguments as the forest with the
placeholder is filled by all of them.
-/

namespace Shorthand.Template

/-- Whether the second step makes of the arguments without `value` what the first makes of those
with it, where `k` arguments stand in front of it. -/
def Step.Presets {α : Type} (value : Value) (k : Nat) (step step' : Step α) : Prop :=
  ∀ front behind : List Value, front.length = k →
    step (front ++ value :: behind) = step' (front ++ behind)

section Steps

variable {α β : Type} {value : Value} {k m : Nat}

/-- Presetting an argument exchanges it for none. -/
theorem Step.presets_iff {step step' : Step α} :
    Step.Presets value k step step' ↔
      Step.Exchanges (fun here here' ↦ here = [value] ∧ here' = []) k step step' := by
  constructor
  · rintro h before _ _ behind hbefore ⟨rfl, rfl⟩
    exact h before behind hbefore
  · intro h front behind hfront
    exact h front [value] [] behind hfront ⟨rfl, rfl⟩

/-- An argument that is preset for a step is preset for what the step begins. -/
theorem Step.Presets.andThen {first first' : Step α} (second : α → Step β)
    (h : Step.Presets value k first first') :
    Step.Presets value k (first.andThen second) (first'.andThen second) :=
  Step.presets_iff.mpr ((Step.presets_iff.mp h).andThen second)

/-- An argument that is preset for a step comes later by what the steps in front of it take. -/
theorem Step.Takes.presets {first : Step α} {second second' : α → Step β}
    (h : Step.Takes m first) (h' : ∀ a, Step.Presets value k (second a) (second' a)) :
    Step.Presets value (m + k) (first.andThen second) (first.andThen second') :=
  Step.presets_iff.mpr (h.exchanges fun a ↦ Step.presets_iff.mp (h' a))

end Steps

/-! ### Decorations -/

/-- A decoration with a value in place of its placeholder has the argument preset. -/
theorem presets_withValue {value : Value} {d : Decoration} (collected : Contributions)
    (before behind : List Decoration) (h : d.isPlaceholder = true) (hvalue : value ≠ .null) :
    Step.Presets value (decorationHoles before)
      (fillDecorations collected (before ++ d :: behind))
      (fillDecorations collected (before ++ d.withValue (some value.toText) :: behind)) := by
  have hfilled : (d.withValue (some value.toText)).isPlaceholder = false := rfl
  have hkept : leavesOut value = false := by simp [leavesOut, hvalue]
  have hhere : ∀ collected, Step.Presets value 0 (fillDecoration collected d)
      (fillDecoration collected (d.withValue (some value.toText))) := by
    intro collected front behind hfront
    obtain rfl : front = [] := List.length_eq_zero_iff.mp hfront
    rw [fillDecoration_of_isPlaceholder collected h,
      fillDecoration_of_not_isPlaceholder collected hfilled]
    simp [Step.andThen, takeArgument, Step.done, settle, hkept]
  rw [fillDecorations_append, fillDecorations_append]
  apply (takes_fillDecorations collected before).presets (k := 0)
  intro collected
  rw [fillDecorations_cons, fillDecorations_cons]
  exact (hhere collected).andThen _

/-- One segment has an argument preset in its decorations and is otherwise like another one, but
for the text that it was read from. -/
structure PresetSegment (value : Value) (k : Nat) (segment segment' : Segment) : Prop where
  tag : segment'.tag? = segment.tag?
  splice : ∀ content, isSplice segment' content = isSplice segment content
  decorations : ∀ collected, Step.Presets value k (fillDecorations collected segment.decorations)
    (fillDecorations collected segment'.decorations)

/-- Putting the text of a value in place of a placeholder presets the argument of the segment. -/
theorem presetSegment_withValue {value : Value} {d : Decoration} (raw raw' : Text)
    (tag? : Option Text) (before behind : List Decoration) (h : d.isPlaceholder = true)
    (hvalue : value ≠ .null) :
    PresetSegment value (decorationHoles before) ⟨raw, tag?, before ++ d :: behind⟩
      ⟨raw', tag?, before ++ d.withValue (some value.toText) :: behind⟩ where
  tag := rfl
  splice content := by
    have hsome : ∀ d' : Decoration, (before ++ d' :: behind).isEmpty = false := by
      intro d'
      cases before <;> rfl
    rw [isSplice, isSplice, hsome, hsome]
  decorations collected := presets_withValue collected before behind h hvalue

/-! ### Forests -/

/-- One forest has an argument preset in the decorations of one item and is otherwise like another
one, but for the texts that the items around it were read from. -/
inductive PresetForest (value : Value) : Nat → Forest → Forest → Prop where
  | here {k : Nat} {segment segment' : Segment} (content : Content) (next : Forest)
      (h : PresetSegment value k segment segment') :
      PresetForest value k (.item segment content next) (.item segment' content next)
  | inside {k : Nat} {children children' : Forest} (segment : Segment) (raw : Text) (next : Forest)
      (h : PresetForest value k children children') :
      PresetForest value (decorationHoles segment.decorations + k)
        (.item segment (.group children) next)
        (.item { segment with raw := raw } (.group children') next)
  | behind {k : Nat} {next next' : Forest} (segment : Segment) (content : Content)
      (h : PresetForest value k next next') :
      PresetForest value (decorationHoles segment.decorations + (content.holes + k))
        (.item segment content next) (.item segment content next')

/-- A forest with an argument preset is filled by the others as the forest without is by all. -/
theorem PresetForest.fill (policy : Policy) {value : Value} {k : Nat} {forest forest' : Forest}
    (h : PresetForest value k forest forest') :
    Step.Presets value k (Template.fill policy forest) (Template.fill policy forest') := by
  induction h with
  | here content next h =>
    rename_i segment segment'
    have haround : markupAround policy segment' content = markupAround policy segment content := by
      funext collected inside
      rw [markupAround, markupAround, h.splice, itemMarkup, itemMarkup, Segment.tag, Segment.tag,
        h.tag]
    rw [fill_item, fill_item, haround]
    exact (h.decorations _).andThen _
  | inside segment raw next h ih =>
    rw [fill_item, fill_item]
    exact (takes_fillDecorations _ _).presets fun collected ↦ ih.andThen _
  | behind segment content h ih =>
    rw [fill_item, fill_item]
    exact (takes_fillDecorations _ _).presets fun collected ↦
      (takes_fillContent policy content).presets fun inside ↦ ih.andThen _

end Shorthand.Template
