import Mathlib.Data.List.DropRight
import Mathlib.Data.List.Induction
import Shorthand.Attributes.Contributions

/-!
# Runs of contributions

Decorations are taken in and left out in any order. What one step does to an attribute depends on
its contributions so far alone, so a run of steps is followed attribute by attribute. The main
statement tells the value of every attribute and the order of all from the steps: classes are joined
over the whole run, ids since the last attribute in brackets replaced them, and of any other
attribute the last step decides.
-/

namespace Shorthand.Contributions

/-- One step of a run: a decoration is taken in, or it is left out. -/
inductive Step where
  | add (d : Decoration)
  | leaveOut (d : Decoration)
  deriving DecidableEq, Repr

namespace Step

/-- The decoration that a step is about. -/
def decoration : Step → Decoration
  | add d => d
  | leaveOut d => d

/-- The attribute that a step is about. -/
def attributeName (step : Step) : Text := step.decoration.attributeName

/-- What a step contributes, if it takes its decoration in. -/
def contribution? : Step → Option Text
  | add d => some d.contribution
  | leaveOut _ => none

/-- Whether a step is about an attribute in brackets. -/
def isBracketed (name : Text) (step : Step) : Bool := step.decoration.target = .attribute name

/-- Whether a step takes in a decoration for an attribute. -/
def adds (name : Text) : Step → Bool
  | add d => d.attributeName = name
  | leaveOut _ => false

/-- Whether a step removes an attribute: one in brackets is left out, and it is not the class. -/
def removes (name : Text) : Step → Bool
  | add _ => false
  | leaveOut d => d.target = .attribute name ∧ name ≠ className

end Step

/-- What has been collected once a step is made. -/
def after (collected : Contributions) : Step → Contributions
  | .add d => collected.add d
  | .leaveOut d => collected.leaveOut d

/-- What a run of steps collects. -/
def run (steps : List Step) : Contributions := steps.foldl after .empty

/-- The last step of a run with a property. -/
def lastStep? (p : Step → Bool) (steps : List Step) : Option Step := steps.reverse.find? p

/-- The steps of a run behind the last one with a property. -/
def since (p : Step → Bool) (steps : List Step) : List Step := steps.rtakeWhile (!p ·)

/-- The place of the first step that takes in a decoration for an attribute behind the last step
that removes the attribute. -/
def place (name : Text) (steps : List Step) : Nat :=
  let kept := since (Step.removes name) steps
  steps.length - kept.length + kept.findIdx (Step.adds name)

/-- What the steps of a run that have a property contribute. -/
def partsOf (p : Step → Bool) (steps : List Step) : List Text :=
  (steps.filter p).filterMap Step.contribution?

/-- The contributions of a run to the class. -/
def classParts (steps : List Step) : List Text := partsOf (·.attributeName = className) steps

/-- The contributions of a run to the id: those behind hashes since an id in brackets was the last
to replace what was there, and in front of them its own. -/
def idParts (steps : List Step) : List Text :=
  ((lastStep? (Step.isBracketed idName) steps).bind Step.contribution?).toList ++
    partsOf (·.decoration.target = .ids) (since (Step.isBracketed idName) steps)

/-- The contributions to an attribute, which is not set if there are none. -/
def present? (parts : List Text) : Option (List Text) := if parts = [] then none else some parts

/-! ### Runs that go on -/

section Concat

variable (p : Step → Bool) (steps : List Step) (step : Step)

/-- The last step of a run is taken behind the others. -/
theorem run_concat : run (steps ++ [step]) = (run steps).after step := by
  rw [run, List.foldl_append]
  rfl

/-- A run ends in a step with a property, or the last such step is among the others. -/
theorem lastStep?_concat :
    lastStep? p (steps ++ [step]) = if p step then some step else lastStep? p steps := by
  rw [lastStep?, List.reverse_append, List.reverse_singleton, List.singleton_append,
    List.find?_cons]
  cases p step <;> rfl

/-- Nothing stands behind a last step with a property, and one without it stands behind the others.
-/
theorem since_concat :
    since p (steps ++ [step]) = if p step then [] else since p steps ++ [step] := by
  rw [since, List.rtakeWhile_concat]
  cases p step <;> rfl

/-- A last step with a property contributes behind the others. -/
theorem partsOf_concat :
    partsOf p (steps ++ [step]) =
      partsOf p steps ++ if p step then step.contribution?.toList else [] := by
  rw [partsOf, List.filter_append, List.filterMap_append, ← partsOf, List.filter_singleton]
  cases p step <;> cases step <;> rfl

/-- The steps behind the last one with a property are no more than those of the run. -/
theorem length_since_le : (since p steps).length ≤ steps.length :=
  (List.rtakeWhile_suffix _ _).length_le

end Concat

/-! ### One step -/

variable {collected : Contributions} {name : Text}

/-- What a step makes of the contributions to an attribute. -/
def Step.effect (name : Text) (step : Step) (earlier? : Option (List Text)) : Option (List Text) :=
  if step.attributeName ≠ name then earlier?
  else match step with
    | .add d =>
      some (if d.target.collects then earlier?.getD [] ++ [d.contribution] else [d.contribution])
    | .leaveOut d => if d.target.collects then earlier? else none

/-- A step changes each attribute by itself. -/
theorem get?_after (collected : Contributions) (step : Step) (name : Text) :
    (collected.after step).get? name = step.effect name (collected.get? name) := by
  cases step with
  | add d =>
    rw [after, add, Attributes.get?_update, Step.effect, Step.attributeName, Step.decoration]
    by_cases hname : d.attributeName = name
    · subst hname
      simp
    · simp [hname, Ne.symm hname]
  | leaveOut d =>
    rw [after, Contributions.leaveOut, Step.effect, Step.attributeName, Step.decoration]
    by_cases hname : d.attributeName = name
    · subst hname
      cases d.target.collects <;> simp [Attributes.get?_erase]
    · cases d.target.collects <;> simp [Attributes.get?_erase, hname, Ne.symm hname]

/-- The last step of a run has its effect on what the others have collected for an attribute. -/
theorem get?_run_concat (steps : List Step) (step : Step) (name : Text) :
    (run (steps ++ [step])).get? name = step.effect name ((run steps).get? name) := by
  rw [run_concat, get?_after]

section Effect

variable {step : Step}

/-- A step about another attribute changes nothing. -/
theorem Step.effect_of_ne (h : step.attributeName ≠ name) (earlier? : Option (List Text)) :
    step.effect name earlier? = earlier? :=
  if_pos h

/-- A step about a target that collects adds its contribution, if it makes one. -/
theorem Step.effect_of_collects (h : step.attributeName = name)
    (hcollects : step.decoration.target.collects = true) (parts : List Text) :
    step.effect name (present? parts) = present? (parts ++ step.contribution?.toList) := by
  cases step with
  | add d =>
    have hget : (present? parts).getD [] = parts := by
      by_cases hparts : parts = [] <;> simp [present?, hparts]
    have hsome : present? (parts ++ [d.contribution]) = some (parts ++ [d.contribution]) :=
      if_neg (List.append_ne_nil_of_right_ne_nil _ (List.cons_ne_nil _ _))
    have hcollects : d.target.collects = true := hcollects
    rw [Step.effect, if_neg (not_not_intro h), if_pos hcollects, hget]
    exact hsome.symm
  | leaveOut d =>
    have hcollects : d.target.collects = true := hcollects
    rw [Step.effect, if_neg (not_not_intro h), if_pos hcollects]
    exact congrArg present? (List.append_nil parts).symm

/-- A step about any other target leaves its own contribution, if it makes one. -/
theorem Step.effect_of_not_collects (h : step.attributeName = name)
    (hcollects : step.decoration.target.collects = false) (earlier? : Option (List Text)) :
    step.effect name earlier? = present? step.contribution?.toList := by
  cases step with
  | add d =>
    have hcollects : d.target.collects = false := hcollects
    rw [Step.effect, if_neg (not_not_intro h), hcollects]
    rfl
  | leaveOut d =>
    have hcollects : d.target.collects = false := hcollects
    rw [Step.effect, if_neg (not_not_intro h), hcollects]
    rfl

end Effect

/-! ### Values -/

private theorem collects_of_className :
    ∀ {target : Target}, target.attributeName = className → target.collects = true
  | .ids, _ => rfl
  | .classes, _ => rfl
  | .attribute _, h => decide_eq_true h

private theorem eq_ids_of_idName :
    ∀ {target : Target}, target.attributeName = idName → target ≠ .attribute idName → target = .ids
  | .ids, _, _ => rfl
  | .classes, h, _ => absurd h (by decide)
  | .attribute _, h, hbracket => absurd (congrArg Target.attribute h) hbracket

private theorem eq_attribute_of_ne :
    ∀ {target : Target}, target.attributeName ≠ className → target.attributeName ≠ idName →
      target = .attribute target.attributeName
  | .ids, _, hid => absurd rfl hid
  | .classes, hclass, _ => absurd rfl hclass
  | .attribute _, _, _ => rfl

/-- The class collects over the whole run. -/
theorem get?_run_className (steps : List Step) :
    (run steps).get? className = present? (classParts steps) := by
  induction steps using List.reverseRecOn with
  | nil => rfl
  | append_singleton steps step ih =>
    rw [get?_run_concat, ih, classParts, classParts, partsOf_concat]
    by_cases hname : step.attributeName = className
    · rw [Step.effect_of_collects hname (collects_of_className hname),
        if_pos (decide_eq_true hname)]
    · rw [Step.effect_of_ne hname, if_neg (by simpa using hname), List.append_nil]

/-- The id collects behind hashes, and an id in brackets replaces what was collected. -/
theorem get?_run_idName (steps : List Step) :
    (run steps).get? idName = present? (idParts steps) := by
  induction steps using List.reverseRecOn with
  | nil => rfl
  | append_singleton steps step ih =>
    rw [get?_run_concat, ih, idParts, idParts, lastStep?_concat, since_concat]
    by_cases hbracket : step.isBracketed idName
    · have htarget : step.decoration.target = .attribute idName := of_decide_eq_true hbracket
      have hname : step.attributeName = idName := congrArg Target.attributeName htarget
      rw [if_pos hbracket, if_pos hbracket,
        Step.effect_of_not_collects hname (by rw [htarget]; rfl)]
      exact congrArg present? (List.append_nil _).symm
    · rw [if_neg hbracket, if_neg hbracket, partsOf_concat, ← List.append_assoc]
      have htarget : step.decoration.target ≠ .attribute idName := by
        simpa [Step.isBracketed] using hbracket
      by_cases hname : step.attributeName = idName
      · have hids := eq_ids_of_idName hname htarget
        rw [Step.effect_of_collects hname (by rw [hids]; rfl), if_pos (decide_eq_true hids)]
      · have hids : step.decoration.target ≠ .ids := fun h ↦ hname (congrArg Target.attributeName h)
        rw [Step.effect_of_ne hname, if_neg (by simpa using hids), List.append_nil]

/-- Of any other attribute the last step decides. -/
theorem get?_run_of_ne {name : Text} (hclass : name ≠ className) (hid : name ≠ idName)
    (steps : List Step) :
    (run steps).get? name =
      present? ((lastStep? (·.attributeName = name) steps).bind Step.contribution?).toList := by
  induction steps using List.reverseRecOn with
  | nil => rfl
  | append_singleton steps step ih =>
    rw [get?_run_concat, ih, lastStep?_concat]
    by_cases hname : step.attributeName = name
    · subst hname
      have htarget := eq_attribute_of_ne hclass hid
      rw [Step.effect_of_not_collects rfl (by rw [htarget]; exact decide_eq_false hclass),
        if_pos (decide_eq_true rfl)]
      rfl
    · rw [Step.effect_of_ne hname, if_neg (by simpa using hname)]

/-- The contributions to an attribute depend on the steps about it alone. -/
theorem get?_run_filter (name : Text) (steps : List Step) :
    (run (steps.filter (·.attributeName = name))).get? name = (run steps).get? name := by
  induction steps using List.reverseRecOn with
  | nil => rfl
  | append_singleton steps step ih =>
    rw [get?_run_concat, List.filter_append, List.filter_singleton]
    by_cases hname : step.attributeName = name
    · rw [decide_eq_true hname, cond_true, get?_run_concat, ih]
    · rw [decide_eq_false hname, cond_false, List.append_nil, ih, Step.effect_of_ne hname]

/-! ### Order -/

private theorem removes_leaveOut_iff {d : Decoration} {name : Text} :
    (Step.leaveOut d).removes name = true ↔
      d.target.collects = false ∧ d.attributeName = name := by
  obtain ⟨target, value?, isPlaceholder⟩ := d
  rw [Step.removes, decide_eq_true_eq]
  match target with
  | .ids => exact ⟨fun h ↦ absurd h.1 nofun, fun h ↦ absurd h.1 nofun⟩
  | .classes => exact ⟨fun h ↦ absurd h.1 nofun, fun h ↦ absurd h.1 nofun⟩
  | .attribute n =>
    constructor
    · rintro ⟨heq, hclass⟩
      obtain rfl : n = name := Target.attribute.inj heq
      exact ⟨decide_eq_false hclass, rfl⟩
    · rintro ⟨hcollects, rfl⟩
      exact ⟨rfl, of_decide_eq_false hcollects⟩

private theorem names_after_add (collected : Contributions) (d : Decoration) :
    (collected.after (.add d)).names =
      if d.attributeName ∈ collected.names then collected.names
      else collected.names ++ [d.attributeName] :=
  Attributes.names_update ..

private theorem names_after_leaveOut (collected : Contributions) (d : Decoration) :
    (collected.after (.leaveOut d)).names =
      collected.names.filter (!(Step.leaveOut d).removes ·) := by
  rw [after, Contributions.leaveOut]
  split
  · next hcollects =>
    refine (List.filter_eq_self.mpr fun n _ ↦ ?_).symm
    rw [Bool.not_eq_true', ← Bool.not_eq_true, removes_leaveOut_iff, hcollects]
    exact fun h ↦ absurd h.1.symm Bool.false_ne_true
  · next hcollects =>
    rw [Attributes.names_erase]
    apply List.filter_congr
    intro n _
    have hcollects : d.target.collects = false := by simpa using hcollects
    rw [Bool.eq_iff_iff, decide_eq_true_eq, Bool.not_eq_true', ← Bool.not_eq_true,
      removes_leaveOut_iff, and_iff_right hcollects, ne_comm]

private theorem mem_names_after {collected : Contributions} {step : Step} {name : Text} :
    name ∈ (collected.after step).names ↔
      name ∈ collected.names ∧ step.removes name = false ∨ step.adds name = true := by
  cases step with
  | add d =>
    have hadds : (Step.add d).adds name = true ↔ d.attributeName = name := decide_eq_true_iff
    have hkeeps : (Step.add d).removes name = false := rfl
    rw [names_after_add, hadds, hkeeps, and_iff_left rfl]
    split
    · next hmem => exact ⟨.inl, fun h ↦ h.elim id fun heq ↦ heq ▸ hmem⟩
    · rw [List.mem_append, List.mem_singleton, eq_comm]
  | leaveOut d =>
    have hadds : (Step.leaveOut d).adds name = false := rfl
    rw [names_after_leaveOut, List.mem_filter, Bool.not_eq_true', hadds]
    simp

/-- The attributes that are set are those that some step adds to behind their last removal. -/
theorem mem_names_run {name : Text} (steps : List Step) :
    name ∈ (run steps).names ↔ ∃ step ∈ since (Step.removes name) steps, step.adds name = true := by
  induction steps using List.reverseRecOn with
  | nil => simp [run, since]
  | append_singleton steps step ih =>
    rw [run_concat, mem_names_after, since_concat, ih]
    cases hremoves : step.removes name with
    | false => simp [or_and_right, exists_or]
    | true =>
      have hadds : step.adds name = false := by
        cases step with
        | add d => exact absurd hremoves Bool.false_ne_true
        | leaveOut d => rfl
      simp [hadds]

section Place

variable {name : Text} {steps : List Step} {step : Step}

private theorem place_lt (h : name ∈ (run steps).names) : place name steps < steps.length := by
  have hfound := List.findIdx_lt_length.mpr ((mem_names_run steps).mp h)
  have hle := length_since_le (Step.removes name) steps
  simp only [place]
  omega

private theorem place_concat (h : name ∈ (run steps).names) (hremoves : step.removes name = false) :
    place name (steps ++ [step]) = place name steps := by
  have hfound := List.findIdx_lt_length.mpr ((mem_names_run steps).mp h)
  simp only [place, since_concat, hremoves, Bool.false_eq_true, if_false, List.length_append,
    List.findIdx_append, if_pos hfound, List.length_singleton]
  omega

private theorem place_concat_of_not_mem (h : name ∉ (run steps).names)
    (hremoves : step.removes name = false) (hadds : step.adds name = true) :
    place name (steps ++ [step]) = steps.length := by
  have hnone : (since (Step.removes name) steps).findIdx (Step.adds name) =
      (since (Step.removes name) steps).length := by
    rw [List.findIdx_eq_length]
    intro s hs
    rw [← Bool.not_eq_true]
    exact fun hs' ↦ h ((mem_names_run steps).mpr ⟨s, hs, hs'⟩)
  have hle := length_since_le (Step.removes name) steps
  simp only [place, since_concat, hremoves, Bool.false_eq_true, if_false, List.length_append,
    List.findIdx_append, hnone, Nat.lt_irrefl, List.length_singleton, List.findIdx_cons, hadds,
    cond_true]
  omega

end Place

/-- The attributes that are set stand in the order of their places. -/
theorem pairwise_names_run (steps : List Step) :
    (run steps).names.Pairwise fun first second ↦ place first steps < place second steps := by
  induction steps using List.reverseRecOn with
  | nil => exact List.Pairwise.nil
  | append_singleton steps step ih =>
    have hkept : ∀ names : List Text, names.Sublist (run steps).names →
        (∀ n ∈ names, step.removes n = false) →
        names.Pairwise fun first second ↦
          place first (steps ++ [step]) < place second (steps ++ [step]) := by
      intro names hsub hremoves
      refine (ih.sublist hsub).imp_of_mem fun {first second} hfirst hsecond hlt ↦ ?_
      rwa [place_concat (hsub.mem hfirst) (hremoves first hfirst),
        place_concat (hsub.mem hsecond) (hremoves second hsecond)]
    rw [run_concat]
    cases step with
    | add d =>
      rw [names_after_add]
      split
      · exact hkept _ (List.Sublist.refl _) fun _ _ ↦ rfl
      · next hnew =>
        rw [List.pairwise_append]
        refine ⟨hkept _ (List.Sublist.refl _) fun _ _ ↦ rfl, List.pairwise_singleton _ _, ?_⟩
        intro first hfirst second hsecond
        obtain rfl := List.mem_singleton.mp hsecond
        have hadds : (Step.add d).adds d.attributeName = true := decide_eq_true rfl
        rw [place_concat hfirst rfl, place_concat_of_not_mem hnew rfl hadds]
        exact place_lt hfirst
    | leaveOut d =>
      rw [names_after_leaveOut]
      refine hkept _ List.filter_sublist fun n hn ↦ ?_
      simpa using (List.mem_filter.mp hn).2

/-! ### What a run amounts to -/

private theorem get?_joined {parts : List Text} {name : Text}
    (h : collected.get? name = present? parts) :
    collected.joined.get? name = (present? parts).map joinParts := by
  rw [joined, Attributes.get?_map, h]

/-- A run amounts to these attributes. The class is set if some step takes in a decoration for it,
and joins what all these contribute in the order of the steps. The id is set if it has
contributions, which are those behind hashes since the last step about an id in brackets, with the
one of that step in front of them if it takes its decoration in. Any other attribute is set if the
last step about it takes its decoration in, and has the contribution of that step. The attributes
stand in the order of the first steps that add to them behind their last removals, and the value of
each depends on the steps about it alone. -/
theorem joined_run (steps : List Step) :
    (run steps).joined.get? className = (present? (classParts steps)).map joinParts ∧
    (run steps).joined.get? idName = (present? (idParts steps)).map joinParts ∧
    (∀ name, name ≠ className → name ≠ idName →
      (run steps).joined.get? name =
        (lastStep? (·.attributeName = name) steps).bind Step.contribution?) ∧
    ((run steps).joined.names.Pairwise fun first second ↦
      place first steps < place second steps) ∧
    ∀ name, (run (steps.filter (·.attributeName = name))).joined.get? name =
      (run steps).joined.get? name := by
  refine ⟨get?_joined (get?_run_className steps), get?_joined (get?_run_idName steps),
    fun name hclass hid ↦ ?_, ?_, fun name ↦ ?_⟩
  · rw [get?_joined (get?_run_of_ne hclass hid steps)]
    cases (lastStep? (·.attributeName = name) steps).bind Step.contribution? with
    | none => rfl
    | some part => exact congrArg some (joinParts_singleton part)
  · rw [joined, Attributes.names_map]
    exact pairwise_names_run steps
  · rw [joined, joined, Attributes.get?_map, Attributes.get?_map, get?_run_filter]

/-- An id in brackets replaces the id in front of it but not those behind it, and a title that was
left out is set again by a later one. -/
theorem joined_run_replaced :
    let title (t : String) : Decoration := ⟨.attribute "title".toList, some t.toList, false⟩
    let steps : List Step := [.add ⟨.ids, some "a".toList, false⟩, .add (title "t"),
      .add ⟨.classes, some "b".toList, false⟩, .leaveOut (title "%"),
      .add ⟨.attribute idName, none, false⟩, .leaveOut ⟨.ids, some "%".toList, true⟩,
      .add ⟨.attribute className, some [], false⟩, .add (title "u"),
      .add ⟨.ids, some "c".toList, false⟩, .add ⟨.attribute className, some "d".toList, false⟩]
    "title".toList ≠ className ∧ "title".toList ≠ idName ∧
      (run steps).joined.get? "title".toList = some "u".toList ∧
      (run steps).joined.get? idName = some "id c".toList ∧
      (run steps).joined.get? className = some "b d".toList ∧
      (run steps).joined.names = [idName, className, "title".toList] := by
  intro title steps
  obtain ⟨hclass, hid, hother, -, -⟩ := joined_run steps
  exact ⟨by decide, by decide, (hother "title".toList (by decide) (by decide)).trans (by decide),
    hid.trans (by decide), hclass.trans (by decide), by decide⟩

end Shorthand.Contributions
