import Shorthand.Proofs.Markup.Gaps
import Shorthand.Proofs.Template.Positions

/-!
# Contents of templates

An argument that becomes content is written as it stands, unless a void element is around it. The
main statement says that, once the arguments for decorations are fixed, a template expands to the
texts of the arguments that are written, in the order of the placeholders in the text and each one
once, between fragments that do not depend on any content.
-/

namespace Shorthand.Template

open Markup

/-- What becomes of the argument of a placeholder: it fills a decoration, or it is content that is
written, or that a void element drops. -/
inductive Use where
  | decoration
  | written
  | dropped
  deriving DecidableEq, Repr

/-- The role of a placeholder whose argument is put to a use. -/
def Use.role : Use → Role
  | decoration => .decoration
  | _ => .content

/-- The use that is left inside a void element. -/
def Use.drop : Use → Use
  | decoration => decoration
  | _ => dropped

/-- The uses of the placeholders among decorations. -/
def decorationUses (ds : List Decoration) : List Use :=
  .replicate (decorationHoles ds) .decoration

/-- Whether an item writes its content: it is a splice, or its element is not void. -/
def writesContent (policy : Policy) (segment : Segment) (content : Content) : Bool :=
  isSplice segment content || !policy.isVoid (policy.elementName (segment.tag policy.defaultTag))

/-- The uses that an item leaves of those in its content. -/
def usesAround (policy : Policy) (segment : Segment) (content : Content) (uses : List Use) :
    List Use :=
  if writesContent policy segment content then uses else uses.map Use.drop

/-- The uses of the placeholders in a row of items. -/
def Forest.uses (policy : Policy) : Forest → List Use
  | .nil => []
  | .leaf segment hasHole next =>
    decorationUses segment.decorations ++
      (usesAround policy segment (if hasHole then .hole else .empty)
        (if hasHole then [.written] else []) ++ next.uses policy)
  | .group segment children next =>
    decorationUses segment.decorations ++
      (usesAround policy segment (.group children) (children.uses policy) ++ next.uses policy)

/-- The uses of the placeholders in the content of an item, as far as the item writes it. -/
def Content.uses (policy : Policy) : Content → List Use
  | .empty => []
  | .hole => [.written]
  | .group children => children.uses policy

/-- An item puts arguments to use for its decorations, then for its content, then for its siblings.
-/
theorem Forest.uses_item (policy : Policy) (segment : Segment) (content : Content)
    (next : Forest) :
    (Forest.item segment content next).uses policy =
      decorationUses segment.decorations ++
        (usesAround policy segment content (content.uses policy) ++ next.uses policy) := by
  cases content <;> rfl

private theorem map_role_usesAround (policy : Policy) (segment : Segment) (content : Content)
    (uses : List Use) :
    (usesAround policy segment content uses).map Use.role = uses.map Use.role := by
  have hdrop : ∀ use : Use, use.drop.role = use.role := by
    intro use
    cases use <;> rfl
  rw [usesAround]
  split
  · rfl
  · rw [List.map_map]
    exact List.map_congr_left fun use _ ↦ hdrop use

/-- The uses of placeholders go with their roles. -/
theorem Forest.map_role_uses (policy : Policy) (forest : Forest) :
    (forest.uses policy).map Use.role = forest.roles := by
  induction forest using Forest.item_induction with
  | nil => rfl
  | item segment content next ihChildren ih =>
    have hcontent : (content.uses policy).map Use.role = content.roles := by
      cases content with
      | empty => rfl
      | hole => rfl
      | group children => exact ihChildren children rfl
    rw [uses_item, roles_item, List.map_append, List.map_append, map_role_usesAround, hcontent, ih,
      decorationUses, List.map_replicate]
    rfl

/-! ### Arguments by their use -/

/-- The arguments that are put to a use, where each argument has the use of the placeholder that
takes it. -/
def boundTo (use : Use) (uses : List Use) (arguments : List Value) : List Value :=
  ((uses.zip arguments).filter (·.1 = use)).map Prod.snd

/-- The texts of the arguments that are written. -/
def writtenTexts (uses : List Use) (arguments : List Value) : List Text :=
  (boundTo .written uses arguments).map Value.contentText

section Bound

variable {use : Use} {uses uses' : List Use} {used others : List Value}

/-- Without a placeholder no argument is put to a use. -/
@[simp] theorem boundTo_nil (use : Use) (arguments : List Value) : boundTo use [] arguments = [] :=
  rfl

/-- The first argument is put to the use of the first placeholder. -/
@[simp] theorem boundTo_cons (use first : Use) (uses : List Use) (value : Value)
    (arguments : List Value) :
    boundTo use (first :: uses) (value :: arguments) =
      if first = use then value :: boundTo use uses arguments
      else boundTo use uses arguments := by
  rw [boundTo, List.zip_cons_cons, List.filter_cons]
  by_cases hfirst : first = use <;> simp [hfirst, boundTo]

/-- The arguments put to a use are those in front and those behind. -/
theorem boundTo_append (h : used.length = uses.length) :
    boundTo use (uses ++ uses') (used ++ others) =
      boundTo use uses used ++ boundTo use uses' others := by
  rw [boundTo, List.zip_append h.symm, List.filter_append, List.map_append]
  rfl

/-- As many arguments are put to a use as there are placeholders for it. -/
theorem length_boundTo (h : used.length = uses.length) :
    (boundTo use uses used).length = uses.count use := by
  induction uses generalizing used with
  | nil => rfl
  | cons first uses ih =>
    obtain ⟨value, used, rfl⟩ := List.exists_cons_of_length_eq_add_one h
    have hothers := ih (Nat.succ.inj h)
    rw [boundTo_cons, List.count_cons]
    by_cases hfirst : first = use <;> simp [hfirst, hothers]

/-- The texts of the written arguments are those in front and those behind. -/
theorem writtenTexts_append (h : used.length = uses.length) :
    writtenTexts (uses ++ uses') (used ++ others) =
      writtenTexts uses used ++ writtenTexts uses' others := by
  rw [writtenTexts, boundTo_append h, List.map_append]
  rfl

/-- There are as many texts as placeholders whose arguments are written. -/
theorem length_writtenTexts (h : used.length = uses.length) :
    (writtenTexts uses used).length = uses.count .written := by
  rw [writtenTexts, List.length_map, length_boundTo h]

/-- Arguments whose decorations are fixed can be told apart into those in front and those behind. -/
theorem exists_boundTo {fixed fixed' : List Value} (hused : used.length = (uses ++ uses').length)
    (hfixed : fixed.length = uses.count .decoration)
    (hbound : boundTo .decoration (uses ++ uses') used = fixed ++ fixed') :
    ∃ first second, used = first ++ second ∧
      (first.length = uses.length ∧ boundTo .decoration uses first = fixed) ∧
        second.length = uses'.length ∧ boundTo .decoration uses' second = fixed' := by
  rw [List.length_append] at hused
  obtain ⟨first, second, rfl, hfirst⟩ := Step.exists_front (Nat.le.intro hused.symm)
  rw [boundTo_append hfirst] at hbound
  obtain ⟨hfront, hbehind⟩ := List.append_inj hbound (by rw [length_boundTo hfirst, hfixed])
  rw [List.length_append] at hused
  exact ⟨first, second, rfl, ⟨hfirst, hfront⟩, by omega, hbehind⟩

private theorem boundTo_replicate (use first : Use) (used : List Value) :
    boundTo use (List.replicate used.length first) used = if first = use then used else [] := by
  induction used with
  | nil => simp
  | cons value used ih =>
    rw [List.length_cons, List.replicate_succ, boundTo_cons, ih]
    by_cases hfirst : first = use <;> simp [hfirst]

private theorem boundTo_decorationUses {ds : List Decoration} (use : Use)
    (h : used.length = decorationHoles ds) :
    boundTo use (decorationUses ds) used = if .decoration = use then used else [] := by
  rw [decorationUses, ← h]
  exact boundTo_replicate use .decoration used

private theorem boundTo_map_drop (uses : List Use) (used : List Value) :
    boundTo .decoration (uses.map Use.drop) used = boundTo .decoration uses used ∧
      boundTo .written (uses.map Use.drop) used = [] := by
  induction uses generalizing used with
  | nil => exact ⟨rfl, rfl⟩
  | cons first uses ih =>
    cases used with
    | nil => simp [boundTo]
    | cons value used =>
      obtain ⟨hdecoration, hwritten⟩ := ih used
      cases first <;> simp [Use.drop, hdecoration, hwritten]

end Bound

section Around

variable (policy : Policy) (segment : Segment) (content : Content) (uses : List Use)

private theorem length_usesAround :
    (usesAround policy segment content uses).length = uses.length := by
  rw [usesAround]
  split
  · rfl
  · exact List.length_map _

private theorem count_usesAround :
    (usesAround policy segment content uses).count .decoration = uses.count .decoration ∧
      (usesAround policy segment content uses).count .written =
        if writesContent policy segment content then uses.count .written else 0 := by
  have hdrop : (uses.map Use.drop).count .decoration = uses.count .decoration ∧
      (uses.map Use.drop).count .written = 0 := by
    induction uses with
    | nil => exact ⟨rfl, rfl⟩
    | cons first uses ih => cases first <;> simp [Use.drop, ih]
  rw [usesAround]
  split
  · exact ⟨rfl, rfl⟩
  · exact hdrop

private theorem boundTo_usesAround (used : List Value) :
    boundTo .decoration (usesAround policy segment content uses) used =
        boundTo .decoration uses used ∧
      writtenTexts (usesAround policy segment content uses) used =
        if writesContent policy segment content then writtenTexts uses used else [] := by
  obtain ⟨hdecoration, hwritten⟩ := boundTo_map_drop uses used
  rw [usesAround]
  split
  · exact ⟨rfl, rfl⟩
  · exact ⟨hdecoration, by rw [writtenTexts, hwritten]; rfl⟩

/-- The markup of an item around a text with gaps. -/
def gappedAround (collected : Contributions) (inside : Gapped) : Gapped :=
  if isSplice segment content then inside
  else .element policy (segment.tag policy.defaultTag) (collected.joined.map .ofText) inside

private theorem gaps_gappedAround (collected : Contributions) (inside : Gapped) :
    (gappedAround policy segment content collected inside).gaps =
      if writesContent policy segment content then inside.gaps else 0 := by
  rw [gappedAround, writesContent]
  cases isSplice segment content with
  | true => rfl
  | false =>
    rw [if_neg Bool.false_ne_true, Gapped.gaps_element, Bool.false_or]
    cases policy.isVoid (policy.elementName (segment.tag policy.defaultTag)) <;> rfl

private theorem fill_gappedAround (collected : Contributions) {inside : Gapped}
    {inserts : List Text} (h : inserts.length = inside.gaps) :
    (gappedAround policy segment content collected inside).fill
        (if writesContent policy segment content then inserts else []) =
      markupAround policy segment content collected (inside.fill inserts) := by
  have helement := Gapped.fill_element policy (segment.tag policy.defaultTag)
    (collected.joined.map .ofText) inside h
  rw [gappedAround, writesContent, markupAround]
  cases isSplice segment content with
  | true => rfl
  | false =>
    rw [if_neg Bool.false_ne_true, if_neg Bool.false_ne_true, Bool.false_or, itemMarkup,
      ← helement]
    cases policy.isVoid (policy.elementName (segment.tag policy.defaultTag)) <;> rfl

end Around

/-! ### Filling -/

namespace Step

/-- Whether a step that takes the arguments for some uses makes of them a text with the written ones
in its gaps, provided that those for decorations are the fixed ones. -/
def Fills (uses : List Use) (fixed : List Value) (g : Gapped) (step : Step Text) : Prop :=
  g.gaps = uses.count .written ∧
    ∀ used others : List Value, used.length = uses.length →
      boundTo .decoration uses used = fixed →
        step (used ++ others) = some (g.fill (writtenTexts uses used), others)

/-- Whether what a step makes of the arguments for some uses is a text with the written ones in its
gaps, whatever the arguments for decorations are. -/
def Writes (uses : List Use) (step : Step Text) : Prop :=
  ∀ fixed : List Value, fixed.length = uses.count .decoration → ∃ g, Fills uses fixed g step

/-- A finished step writes nothing but its result. -/
theorem writes_done (s : Text) : Writes [] (done s) := by
  refine fun fixed _ ↦ ⟨.ofText s, Gapped.gaps_ofText s, fun used others hused _ ↦ ?_⟩
  obtain rfl : used = [] := List.length_eq_zero_iff.mp hused
  exact congrArg (fun t ↦ Option.some (t, others)) (Gapped.fill_ofText s).symm

/-- An argument that becomes content is written. -/
theorem writes_content :
    Writes [.written] (andThen takeArgument fun value ↦ done value.contentText) := by
  refine fun fixed _ ↦ ⟨.gap, rfl, fun used others hused _ ↦ ?_⟩
  obtain ⟨value, rfl⟩ := List.length_eq_one_iff.mp hused
  exact congrArg (fun t ↦ Option.some (t, others)) (List.append_nil value.contentText).symm

/-- Texts side by side are filled with the arguments for both, one behind the other. -/
theorem Fills.append {uses uses' : List Use} {fixed fixed' : List Value} {g g' : Gapped}
    {first second : Step Text} (hfixed : fixed.length = uses.count .decoration)
    (h : Fills uses fixed g first) (h' : Fills uses' fixed' g' second) :
    Fills (uses ++ uses') (fixed ++ fixed') (g ++ g')
      (first.andThen fun here ↦ second.andThen fun others ↦ done (here ++ others)) := by
  obtain ⟨hgaps, hfill⟩ := h
  obtain ⟨hgaps', hfill'⟩ := h'
  refine ⟨by rw [Gapped.gaps_append, List.count_append, hgaps, hgaps'], ?_⟩
  intro used others hused hbound
  obtain ⟨front, behind, rfl, ⟨hfront, hboundFront⟩, hbehind, hboundBehind⟩ :=
    exists_boundTo hused hfixed hbound
  have hinserts : (writtenTexts uses front).length = g.gaps := by
    rw [length_writtenTexts hfront, hgaps]
  rw [writtenTexts_append hfront, Gapped.fill_append hinserts, List.append_assoc, andThen,
    hfill front _ hfront hboundFront, Option.bind_some, andThen,
    hfill' behind others hbehind hboundBehind]
  rfl

end Step

variable {policy : Policy} {segment : Segment} {content : Content} {next : Forest}

private theorem fills_around {front middle : List Value} {collected : Contributions}
    {inside : Gapped} (hfront : front.length = decorationHoles segment.decorations)
    (hcollected : ∀ rest,
      fillDecorations .empty segment.decorations (front ++ rest) = some (collected, rest))
    (hinside : Step.Fills (content.uses policy) middle inside (fillContent policy content)) :
    Step.Fills
      (decorationUses segment.decorations ++
        usesAround policy segment content (content.uses policy))
      (front ++ middle) (gappedAround policy segment content collected inside)
      (Step.andThen (fillDecorations .empty segment.decorations) fun collected ↦
        Step.andThen (fillContent policy content) fun inside ↦
          .done (markupAround policy segment content collected inside)) := by
  obtain ⟨hgaps, hfill⟩ := hinside
  obtain ⟨-, hwritten⟩ := count_usesAround policy segment content (content.uses policy)
  refine ⟨?_, ?_⟩
  · have hnone : (decorationUses segment.decorations).count .written = 0 := by
      rw [decorationUses, List.count_replicate]
      rfl
    rw [gaps_gappedAround, hgaps, List.count_append, hnone, Nat.zero_add, hwritten]
  · intro used others hused hbound
    obtain ⟨first, second, rfl, ⟨hfirst, hboundFirst⟩, hsecond, hboundSecond⟩ :=
      exists_boundTo hused (by rw [decorationUses, List.count_replicate_self, hfront]) hbound
    rw [length_usesAround] at hsecond
    have hholes : first.length = decorationHoles segment.decorations := by
      rw [hfirst, decorationUses, List.length_replicate]
    obtain ⟨hboundInside, htexts⟩ :=
      boundTo_usesAround policy segment content (content.uses policy) second
    rw [boundTo_decorationUses .decoration hholes, if_pos rfl] at hboundFirst
    rw [hboundInside] at hboundSecond
    subst hboundFirst
    have hnone : writtenTexts (decorationUses segment.decorations) first = [] := by
      rw [writtenTexts, boundTo_decorationUses .written hholes, if_neg (by decide), List.map_nil]
    have hinserts : (writtenTexts (content.uses policy) second).length = inside.gaps := by
      rw [length_writtenTexts hsecond, hgaps]
    rw [writtenTexts_append hfirst, hnone, List.nil_append, htexts,
      fill_gappedAround policy segment content collected hinserts, List.append_assoc, Step.andThen,
      hcollected, Option.bind_some, Step.andThen, hfill second others hsecond hboundSecond]
    rfl

/-- An item writes what its content writes, unless it is void, and then what the items behind it
write. -/
theorem writes_fill_item (hcontent : Step.Writes (content.uses policy) (fillContent policy content))
    (hnext : Step.Writes (next.uses policy) (fill policy next)) :
    Step.Writes ((Forest.item segment content next).uses policy)
      (fill policy (.item segment content next)) := by
  intro fixed hfixed
  obtain ⟨hdecorations, -⟩ := count_usesAround policy segment content (content.uses policy)
  rw [Forest.uses_item, List.count_append, List.count_append, hdecorations, decorationUses,
    List.count_replicate_self] at hfixed
  obtain ⟨front, rest, rfl, hfront⟩ := Step.exists_front (Nat.le.intro hfixed.symm)
  rw [List.length_append, hfront, Nat.add_left_cancel_iff] at hfixed
  obtain ⟨middle, back, rfl, hmiddle⟩ := Step.exists_front (Nat.le.intro hfixed.symm)
  rw [List.length_append, hmiddle, Nat.add_left_cancel_iff] at hfixed
  obtain ⟨collected, hcollected⟩ :=
    (takes_fillDecorations .empty segment.decorations).1 front hfront
  obtain ⟨inside, hinside⟩ := hcontent middle hmiddle
  obtain ⟨behind, hbehind⟩ := hnext back hfixed
  have hlength : (front ++ middle).length = (decorationUses segment.decorations ++
      usesAround policy segment content (content.uses policy)).count .decoration := by
    rw [List.length_append, List.count_append, hdecorations, decorationUses,
      List.count_replicate_self, hfront, hmiddle]
  have hitem := (fills_around hfront hcollected hinside).append hlength hbehind
  have hsteps : fill policy (.item segment content next) =
      (Step.andThen (fillDecorations .empty segment.decorations) fun collected ↦
        Step.andThen (fillContent policy content) fun inside ↦
          .done (markupAround policy segment content collected inside)).andThen fun here ↦
        Step.andThen (fill policy next) fun others ↦ .done (here ++ others) := by
    rw [fill_item]
    funext arguments
    simp only [Step.andThen, Option.bind_assoc, Step.done, Option.bind_some]
  rw [Forest.uses_item, ← List.append_assoc, ← List.append_assoc, hsteps]
  exact ⟨_, hitem⟩

/-- A row of items writes the contents that are not inside void elements. -/
theorem writes_fill (policy : Policy) (forest : Forest) :
    Step.Writes (forest.uses policy) (fill policy forest) := by
  induction forest using Forest.item_induction with
  | nil => exact Step.writes_done []
  | item segment content next ihChildren ih =>
    refine writes_fill_item ?_ ih
    cases content with
    | empty => exact Step.writes_done []
    | hole => exact Step.writes_content
    | group children => exact ihChildren children rfl

/-- The placeholders of a template that can be read take the arguments in the order in which they
stand in the text, and for what the text shows. Once the arguments for decorations are fixed, there
are fragments such that the template expands, whatever the other arguments are, to the texts of
those for contents outside of void elements, in their order and each one between two fragments. All
arguments that have a placeholder are used up. -/
theorem expand_eq_weave (policy : Policy) {template : Text} {forest : Forest}
    (hparse : parse template = .ok forest) :
    (∃ outline, Outline.of? template = some outline ∧
      outline.roles = (forest.uses policy).map Use.role) ∧
    ∀ fixed : List Value, fixed.length = (forest.uses policy).count .decoration →
      ∃ fragments : List Text, fragments.length = (forest.uses policy).count .written + 1 ∧
        ∀ arguments : List Value, (forest.uses policy).length ≤ arguments.length →
          boundTo .decoration (forest.uses policy) arguments = fixed →
            expand policy template arguments =
                .ok (weave fragments (writtenTexts (forest.uses policy) arguments)) ∧
              ((Supply.ofArguments (some template) arguments).expand policy template).2.consumed =
                (forest.uses policy).length := by
  constructor
  · obtain ⟨outline, houtline, hroles⟩ := Grammar.exists_outline_roles_of_parse hparse
    exact ⟨outline, houtline, by rw [hroles, forest.map_role_uses policy]⟩
  · intro fixed hfixed
    obtain ⟨g, hgaps, hfill⟩ := writes_fill policy forest fixed hfixed
    refine ⟨g.fragments, by rw [Gapped.length_fragments, hgaps], fun arguments henough hbound ↦ ?_⟩
    obtain ⟨used, others, rfl, hused⟩ := Step.exists_front henough
    have hfront : ∀ use, boundTo use (forest.uses policy) (used ++ others) =
        boundTo use (forest.uses policy) used := by
      intro use
      have happend : boundTo use (forest.uses policy ++ []) (used ++ others) =
          boundTo use (forest.uses policy) used ++ boundTo use [] others := boundTo_append hused
      rwa [List.append_nil, boundTo_nil, List.append_nil] at happend
    rw [hfront] at hbound
    have htexts : writtenTexts (forest.uses policy) (used ++ others) =
        writtenTexts (forest.uses policy) used := by
      rw [writtenTexts, hfront, writtenTexts]
    have hmarkup := hfill used others hused hbound
    have hinserts : (writtenTexts (forest.uses policy) used).length = g.gaps := by
      rw [length_writtenTexts hused, hgaps]
    refine ⟨?_, ?_⟩
    · rw [Grammar.expand_of_parse policy _ hparse, hmarkup, htexts, Gapped.fill_eq_weave hinserts]
    · simp only [Supply.expand, hparse, Supply.fill, Supply.ofArguments, hmarkup, Supply.leaving,
        Supply.total, List.length_append, hused]
      omega

/-- A class, a splice, and the contents of an element, of a void element and of an element inside a
void one: the two that are not dropped are written between three fragments. -/
theorem expand_eq_weave_dropped :
    ∃ fragments : List Text, fragments.length = 3 ∧
      ∀ first second third fourth : Value,
        expand .standard "a.%(%+b%)+br%+hr(i%)".toList
            [.text "k".toList, first, second, third, fourth] =
          .ok (weave fragments [first.contentText, second.contentText]) := by
  have hok : (parse "a.%(%+b%)+br%+hr(i%)".toList).isOk = true := by decide +kernel
  obtain ⟨forest, hparse⟩ := exists_forest_of_isOk hok
  have huses : forest.uses .standard = [.decoration, .written, .written, .dropped, .dropped] := by
    have hsome : (parse "a.%(%+b%)+br%+hr(i%)".toList).toOption.map (Forest.uses .standard) =
        some [.decoration, .written, .written, .dropped, .dropped] := by
      decide +kernel
    rw [hparse] at hsome
    exact Option.some.inj hsome
  obtain ⟨-, hweave⟩ := expand_eq_weave .standard hparse
  rw [huses] at hweave
  obtain ⟨fragments, hlength, hfragments⟩ := hweave [.text "k".toList] rfl
  exact ⟨fragments, hlength, fun first second third fourth ↦
    (hfragments [.text "k".toList, first, second, third, fourth] (Nat.le_refl 5) rfl).1⟩

end Shorthand.Template
