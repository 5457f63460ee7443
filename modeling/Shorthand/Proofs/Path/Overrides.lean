import Shorthand.Proofs.Attributes.Override
import Shorthand.Proofs.Path.Expansion

/-!
# Overriding the outermost element

Overrides reach one element of a path, the last one of the outermost group. The main statements say
what its attributes are for all overrides by texts, where a class is added to the computed class,
unless it is empty, in which case it takes the computed class away, and everything else is replaced;
and that the markup of any path is the same with overrides and without, but for the attributes in
the opening tag of this element.
-/

namespace Shorthand

namespace Path

variable {policy : Policy}

/-- A path whose outermost group ends in an element is written around that element, and what is
around it and in it does not depend on the overrides. -/
theorem expand_eq_element {path : Text} {front : List Segment} {last : Segment}
    {inner : List (List Segment)} (hread : read path = .ok ⟨(front ++ [last]) :: inner⟩)
    (hsplice : last.isSplice policy = false) (content : Value)
    (overrides : Attributes AttributeValue) :
    expand policy path content overrides =
      .ok (front.flatMap (·.markup policy .empty
          (nestMarkup policy content.contentText inner) []) ++
        (last.element policy overrides (nestMarkup policy content.contentText inner)).markup
          policy) := by
  have hmarkup : markup policy overrides content.contentText ⟨(front ++ [last]) :: inner⟩ =
      groupMarkup policy overrides (nestMarkup policy content.contentText inner)
        (front ++ [last]) := rfl
  have hlast : ∀ inside : Text, last.markup policy overrides inside inside =
      (last.element policy overrides inside).markup policy := fun inside ↦
    if_neg (by rw [hsplice]; exact Bool.false_ne_true)
  rw [expand, hread, Except.map, hmarkup, groupMarkup_concat, hlast]

end Path

namespace Attributes

/-- A text that overrides the class is added to a computed class that is not empty, unless there is
nothing to add: then nothing is left. -/
theorem overridden_className {computed : Text} (hcomputed : computed ≠ []) (added : Text) :
    overridden className (.ofText added) (some (.ofText computed)) =
      .ofText (if added = [] then [] else computed ++ ' ' :: added) := by
  by_cases hadded : added = []
  · simp [overridden, AttributeValue.ofText, AttributeValue.isTruthy, Value.isTruthy, hadded]
  · simp [overridden, AttributeValue.ofText, AttributeValue.isTruthy, Value.isTruthy, hadded,
      hcomputed, AttributeValue.toText]

/-- An override replaces the value of any name but the class. -/
theorem overridden_of_ne {name : Text} (hname : name ≠ className) (value : AttributeValue)
    (computed? : Option AttributeValue) : overridden name value computed? = value := by
  cases computed? with
  | none => rfl
  | some computed => simp [overridden, hname]

end Attributes

namespace Path

open Attributes

/-- Let the outermost group of a path end in an element with a computed class that is not empty.
Then the path expands, whatever the overrides are, with this element in the same place around the
same content. The names of its attributes are the computed ones and behind them the new ones in the
order of the overrides. Its class is the computed one if no class is given, and else has the given
one added behind a space, except that an empty one leaves an empty class. Every other name has its
override, or its computed value if there is none. -/
theorem expand_overrides (policy : Policy) {path computed : Text} {front : List Segment}
    {last : Segment} {inner : List (List Segment)}
    (hread : read path = .ok ⟨(front ++ [last]) :: inner⟩)
    (hsplice : last.isSplice policy = false)
    (hclass : last.attributes.get? className = some (.ofText computed)) (hne : computed ≠ [])
    (content : Value) :
    ∃ before inside : Text, ∀ overrides : Attributes Text,
      expand policy path content (overrides.map .ofText) =
          .ok (before ++ Element.markup policy ⟨last.tag policy.defaultTag,
            last.attributes.override (overrides.map .ofText), inside⟩) ∧
        (last.attributes.override (overrides.map .ofText)).names =
          last.attributes.names ++ overrides.names.filter (· ∉ last.attributes.names) ∧
        (last.attributes.override (overrides.map .ofText)).get? className =
          some (.ofText (match overrides.get? className with
            | none => computed
            | some [] => []
            | some added => computed ++ ' ' :: added)) ∧
        ∀ name, name ≠ className →
          (last.attributes.override (overrides.map .ofText)).get? name =
            match overrides.get? name with
            | some value => some (.ofText value)
            | none => last.attributes.get? name := by
  refine ⟨_, _, fun overrides ↦ ⟨expand_eq_element hread hsplice content _, ?_, ?_, ?_⟩⟩
  · rw [names_override, names_map]
  · rw [get?_override, get?_map, hclass]
    cases overrides.get? className with
    | none => rfl
    | some added =>
      rw [Option.map_some]
      simp only [overridden_className hne]
      cases added <;> rfl
  · intro name hname
    rw [get?_override, get?_map]
    cases overrides.get? name with
    | none => rfl
    | some value => exact congrArg some (overridden_of_ne hname _ _)

/-- A class is added to the computed one, a title is replaced, and a new name comes last. -/
theorem expand_overrides_added :
    ∃ (before inside : Text) (attributes : Attributes AttributeValue),
      expand .standard "h1+p[title=t].a.b/%+em".toList (.text "x".toList)
          ((ofList [("lang".toList, "en".toList), (className, "c".toList),
            ("title".toList, "u".toList)]).map .ofText) =
        .ok (before ++ Element.markup .standard ⟨"p".toList, attributes, inside⟩) ∧
      attributes.names = ["title".toList, className, "lang".toList] ∧
      attributes.get? className = some (.ofText "a b c".toList) ∧
      attributes.get? "title".toList = some (.ofText "u".toList) := by
  have hread : read "h1+p[title=t].a.b/%+em".toList =
      .ok ⟨([⟨"h1".toList, some "h1".toList, []⟩] ++ [⟨"p[title=t].a.b".toList, some "p".toList,
          [⟨.attribute "title".toList, some "t".toList, false⟩,
            ⟨.classes, some "a".toList, false⟩, ⟨.classes, some "b".toList, false⟩]⟩]) ::
        [[⟨"%".toList, some "%".toList, []⟩, ⟨"em".toList, some "em".toList, []⟩]]⟩ :=
    eq_ok_of_toOption (by decide +kernel)
  obtain ⟨before, inside, hall⟩ := @expand_overrides .standard _ "a b".toList _ _ _ hread
    (by decide +kernel) (by decide +kernel) (by decide) (.text "x".toList)
  obtain ⟨hexpand, hnames, hclass, hother⟩ := hall (ofList [("lang".toList, "en".toList),
    (className, "c".toList), ("title".toList, "u".toList)])
  exact ⟨before, inside, _, hexpand, hnames.trans (by decide +kernel),
    hclass.trans (by decide +kernel), (hother "title".toList (by decide)).trans (by decide +kernel)⟩

/-- An empty class takes the computed class away. -/
theorem expand_overrides_empty_class :
    let last : Segment := ⟨"p.a".toList, some "p".toList, [⟨.classes, some "a".toList, false⟩]⟩
    let overrides := (ofList [(className, ([] : Text))]).map AttributeValue.ofText
    read "p.a".toList = .ok ⟨[[last]]⟩ ∧
      last.attributes.get? className = some (.ofText "a".toList) ∧
      (last.attributes.override overrides).get? className = some (.ofText []) ∧
      expand .standard "p.a".toList (.text "x".toList) overrides = .ok "<p>x</p>".toList ∧
      expand .standard "p.a".toList (.text "x".toList) .empty =
        .ok "<p class=\"a\">x</p>".toList :=
  ⟨eq_ok_of_toOption (by decide +kernel), by decide +kernel, by decide +kernel,
    eq_ok_of_toOption (by decide +kernel), eq_ok_of_toOption (by decide +kernel)⟩

/-! ### The only place that overrides reach -/

section Place

open Text

variable {policy : Policy} {path : Text}

private theorem elementName_tag {selector? : Option Text} {offset? : Option Int} {raw : Text}
    {segment : Segment} (hread : Segment.read selector? offset? raw = .ok segment) :
    policy.elementName (segment.tag policy.defaultTag) = segment.tag policy.defaultTag := by
  obtain ⟨-, rfl⟩ := Segment.read_eq_ok_iff.mp hread
  rw [Segment.tag, Segment.ofText, Segment.tagOf?, Policy.elementName]
  split
  · exact ite_self _
  · next htag => exact if_neg htag

private theorem exists_read_of_parts {found : Path} (hread : read path = .ok found)
    {front : List Part} {part : Part} {inner : List (List Part)}
    (hparts : parts path = (front ++ [part]) :: inner) :
    ∃ last segments groups, Segment.read (some path) (some part.offset) part.text = .ok last ∧
      found = ⟨(segments ++ [last]) :: groups⟩ := by
  obtain ⟨groups, hgroups, hfound⟩ := bind_eq_ok_iff.mp hread
  rw [hparts, readGroups_eq_ok_iff] at hgroups
  obtain ⟨hreadable, rfl⟩ := hgroups
  have hpart : Segment.Readable part.text :=
    hreadable _ (List.mem_cons_self ..) part (List.mem_append_right _ (List.mem_singleton_self _))
  refine ⟨Segment.ofText part.text, front.map fun part ↦ Segment.ofText part.text,
    inner.map (·.map fun part ↦ Segment.ofText part.text),
    Segment.read_eq_ok_iff.mpr ⟨hpart, rfl⟩, (Except.ok.inj hfound).symm.trans ?_⟩
  rw [List.map_cons, List.map_append]
  rfl

private theorem expand_of_isSplice {segments : List Segment} {last : Segment}
    {groups : List (List Segment)} (hread : read path = .ok ⟨(segments ++ [last]) :: groups⟩)
    (hsplice : last.isSplice policy = true) (content : Value)
    (overrides : Attributes AttributeValue) :
    expand policy path content overrides = expand policy path content .empty := by
  have hlast : ∀ (overrides : Attributes AttributeValue) (inside : Text),
      last.markup policy overrides inside inside = inside := fun _ _ ↦ if_pos hsplice
  have hmarkup : ∀ overrides : Attributes AttributeValue,
      expand policy path content overrides =
        .ok (segments.flatMap (·.markup policy .empty
          (nestMarkup policy content.contentText groups) []) ++
            nestMarkup policy content.contentText groups) := by
    intro overrides
    have hgroup := groupMarkup_concat policy overrides
      (nestMarkup policy content.contentText groups) segments last
    rw [hlast] at hgroup
    rw [expand, hread]
    exact congrArg Except.ok hgroup
  rw [hmarkup, hmarkup]

private theorem exists_markup_eq {tag : Text} (htag : policy.elementName tag = tag)
    (content : Text) : ∃ behind, ∀ attributes : Attributes AttributeValue,
      Element.markup policy ⟨tag, attributes, content⟩ =
        ('<' :: tag ++ policy.attributeText attributes ++ ['>']) ++ behind := by
  refine ⟨if policy.isVoid tag then [] else content ++ policy.closeTag tag, fun attributes ↦ ?_⟩
  rw [Element.markup, Policy.openTag, htag]
  rfl

private theorem expand_of_parts_nil (policy : Policy) (content : Value)
    (overrides : Attributes AttributeValue)
    (hparts : parts path = [] ∨ ∃ inner, parts path = [] :: inner) :
    expand policy path content overrides = expand policy path content .empty := by
  have hmarkup : ∀ found, read path = .ok found →
      markup policy overrides content.contentText found =
        markup policy .empty content.contentText found := by
    intro found hread
    obtain ⟨groups, hgroups, hfound⟩ := bind_eq_ok_iff.mp hread
    obtain ⟨-, rfl⟩ := readGroups_eq_ok_iff.mp hgroups
    obtain rfl := Except.ok.inj hfound
    rcases hparts with hnil | ⟨inner, hcons⟩
    · rw [hnil]
      rfl
    · rw [hcons]
      rfl
  rw [expand, expand]
  cases hread : read path with
  | error fault => rfl
  | ok found => exact congrArg Except.ok (hmarkup found hread)

/-- Overrides do not change whether a path expands. They change nothing if the path is blank, if its
outermost group has no part that is not blank, or if the last part of this group is a splice. In any
other path they change one opening tag, that of the last part, and nothing in front of it or behind
it: its attributes are the computed ones without overrides, and the overridden ones with them. -/
theorem expand_overrides_openTag (policy : Policy) (path : Text) (content : Value)
    (overrides : Attributes AttributeValue) :
    ((∃ result, expand policy path content overrides = .ok result) ↔
      ∃ result, expand policy path content .empty = .ok result) ∧
    ((isBlankText path = true ∨ parts path = [] ∨ ∃ inner, parts path = [] :: inner) →
      expand policy path content overrides = expand policy path content .empty) ∧
    ∀ front part inner result, parts path = (front ++ [part]) :: inner →
      expand policy path content .empty = .ok result →
      ∃ last, Segment.read (some path) (some part.offset) part.text = .ok last ∧
        (last.tag policy.defaultTag = Segment.spliceTag →
          expand policy path content overrides = .ok result) ∧
        (last.tag policy.defaultTag ≠ Segment.spliceTag → ∃ before behind : Text,
          result = before ++ ('<' :: last.tag policy.defaultTag ++
            policy.attributeText last.attributes ++ ['>']) ++ behind ∧
          expand policy path content overrides =
            .ok (before ++ ('<' :: last.tag policy.defaultTag ++
              policy.attributeText (last.attributes.override overrides) ++ ['>']) ++ behind)) := by
  refine ⟨?_, fun hnone ↦ ?_, fun front part inner result hparts hresult ↦ ?_⟩
  · rw [exists_expand_iff, exists_expand_iff]
  · rcases hnone with hblank | hnone
    · have hnil : parts path = [] :=
        congrArg (List.map _) (Part.cut_of_isBlankText (· == nestSeparator) 0 hblank)
      exact expand_of_parts_nil policy content overrides (.inl hnil)
    · exact expand_of_parts_nil policy content overrides hnone
  · obtain ⟨hreadable, rfl⟩ := expand_eq_ok_iff.mp hresult
    have hread : read path = .ok (ofText path) := read_eq_ok_iff.mpr ⟨hreadable, rfl⟩
    obtain ⟨last, segments, groups, hlast, hfound⟩ := exists_read_of_parts hread hparts
    rw [hfound] at hread
    refine ⟨last, hlast, fun htag ↦ ?_, fun htag ↦ ?_⟩
    · rw [expand_of_isSplice hread (decide_eq_true htag), hresult]
    · have helement := expand_eq_element hread (decide_eq_false htag) content
      have hname : policy.elementName (last.tag policy.defaultTag) = last.tag policy.defaultTag :=
        elementName_tag hlast
      obtain ⟨behind, hmarkup⟩ :=
        exists_markup_eq hname (nestMarkup policy content.contentText groups)
      have hplain := Except.ok.inj (hresult.symm.trans (helement .empty))
      refine ⟨segments.flatMap (·.markup policy .empty
        (nestMarkup policy content.contentText groups) []), behind, ?_, ?_⟩
      · rw [hplain, Segment.element, override_empty, hmarkup, ← List.append_assoc]
      · rw [helement, Segment.element, hmarkup, ← List.append_assoc]

/-- A class and a language reach the second element of the outer group, and no splice. -/
theorem expand_overrides_openTag_last :
    let overrides := (ofList [(className, "c".toList), ("lang".toList, "en".toList)]).map
      AttributeValue.ofText
    (∃ before behind : Text,
      expand .standard "h1.a+p.b/em.d+%".toList (.text "x".toList) .empty =
        .ok (before ++ "<p class=\"b\">".toList ++ behind) ∧
      expand .standard "h1.a+p.b/em.d+%".toList (.text "x".toList) overrides =
        .ok (before ++ "<p class=\"b c\" lang=\"en\">".toList ++ behind)) ∧
    expand .standard "h1.a+ %".toList (.text "x".toList) overrides =
      .ok "<h1 class=\"a\"></h1>x".toList := by
  intro overrides
  have hparts : parts "h1.a+p.b/em.d+%".toList =
      ([⟨"h1.a".toList, 0⟩] ++ [⟨"p.b".toList, 5⟩]) ::
        [[⟨"em.d".toList, 9⟩, ⟨"%".toList, 14⟩]] := by decide +kernel
  have hsplice : parts "h1.a+ %".toList = ([⟨"h1.a".toList, 0⟩] ++ [⟨" %".toList, 5⟩]) :: [] := by
    decide +kernel
  let segment : Segment := ⟨"p.b".toList, some "p".toList, [⟨.classes, some "b".toList, false⟩]⟩
  have hopen : '<' :: segment.tag Policy.standard.defaultTag ++
      Policy.standard.attributeText segment.attributes ++ ['>'] = "<p class=\"b\">".toList := by
    decide +kernel
  have hopen' : '<' :: segment.tag Policy.standard.defaultTag ++
      Policy.standard.attributeText (segment.attributes.override overrides) ++ ['>'] =
        "<p class=\"b c\" lang=\"en\">".toList := by
    decide +kernel
  obtain ⟨-, -, hlast⟩ := expand_overrides_openTag .standard "h1.a+p.b/em.d+%".toList
    (.text "x".toList) overrides
  obtain ⟨-, -, hnone⟩ := expand_overrides_openTag .standard "h1.a+ %".toList
    (.text "x".toList) overrides
  constructor
  · obtain ⟨last, hread, -, htag⟩ := hlast _ _ _
      "<h1 class=\"a\"></h1><p class=\"b\"><em class=\"d\"></em>x</p>".toList hparts
      (eq_ok_of_toOption (by decide +kernel))
    obtain rfl : last = segment :=
      Except.ok.inj (hread.symm.trans (eq_ok_of_toOption (by decide +kernel)))
    obtain ⟨before, behind, hplain, hoverridden⟩ := htag (by decide)
    rw [hopen] at hplain
    rw [hopen'] at hoverridden
    exact ⟨before, behind,
      (eq_ok_of_toOption (by decide +kernel)).trans (congrArg Except.ok hplain), hoverridden⟩
  · obtain ⟨last, hread, htag, -⟩ := hnone _ _ _ "<h1 class=\"a\"></h1>x".toList hsplice
      (eq_ok_of_toOption (by decide +kernel))
    obtain rfl : last = ⟨" %".toList, some "%".toList, []⟩ :=
      Except.ok.inj (hread.symm.trans (eq_ok_of_toOption (by decide +kernel)))
    exact htag (by decide)

end Place

end Path
end Shorthand
