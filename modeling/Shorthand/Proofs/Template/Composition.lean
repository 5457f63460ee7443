import Shorthand.Proofs.Segment.Language
import Shorthand.Proofs.Segment.RoundTrip
import Shorthand.Proofs.Template.Deletion
import Shorthand.Proofs.Template.Holes

/-!
# Templates put together

What is written behind a template and a plus sign cannot change how the template is read, although
reading looks ahead. The main statement is that templates with a plus sign between them are read and
filled one after the other, where the second takes the arguments that the first one leaves, and that
a template in parentheses behind a name is filled inside the element of that name.
-/

namespace Shorthand.Template

open Text

namespace Grammar

/-! ### Groups side by side -/

/-- The items of one group, and behind them those of another. -/
def Group.append : Group → Group → Group
  | .one item, behind => .more item behind
  | .more item others, behind => .more item (others.append behind)

/-- A plus sign stands between the texts of groups side by side. -/
theorem Group.text_append (front behind : Group) :
    (front.append behind).text = front.text ++ '+' :: behind.text := by
  induction front with
  | one item _ => rfl
  | more item others _ ih =>
    rw [Group.append, Group.text, Group.text, ih, List.append_assoc, List.cons_append]

/-- Groups side by side stand for the items of both. -/
theorem Group.forest_append (front behind : Group) :
    (front.append behind).forest = front.forest ++ behind.forest := by
  induction front with
  | one item _ => rw [Group.append, Group.forest, Group.forest, Forest.item_append]; rfl
  | more item others _ ih =>
    rw [Group.append, Group.forest, Group.forest, Forest.item_append, ih]

/-- Groups side by side are well formed exactly if both are. -/
theorem Group.wellFormed_append (front behind : Group) :
    (front.append behind).WellFormed ↔ front.WellFormed ∧ behind.WellFormed := by
  induction front with
  | one item _ => exact Iff.rfl
  | more item others _ ih =>
    rw [Group.append, Group.WellFormed, Group.WellFormed, ih, and_assoc]

/-- A group that begins with an item and a plus sign has this item first. -/
theorem Group.exists_others {group : Group} {item : Item} {rest : Text} (hgroup : group.WellFormed)
    (hitem : item.WellFormed) (htext : group.text = item.text ++ '+' :: rest) :
    ∃ others : Group, others.text = rest ∧ group = .more item others := by
  cases group with
  | one item' =>
    have hend : EndsItem [] := nofun
    have heq : item'.text ++ [] = item.text ++ '+' :: rest := by
      rw [List.append_nil]
      exact htext
    obtain ⟨-, hnil⟩ := Item.append_inj hgroup hitem hend (endsItem_plus rest) heq
    exact nomatch hnil
  | more item' others =>
    obtain ⟨rfl, hplus⟩ :=
      Item.append_inj hgroup.1 hitem (endsItem_plus _) (endsItem_plus rest) htext
    exact ⟨others, (List.cons.inj hplus).2, rfl⟩

/-- A group that begins with another one and a plus sign has a group behind that sign. -/
theorem Group.exists_behind {front whole : Group} {rest : Text} (hfront : front.WellFormed)
    (hwhole : whole.WellFormed) (htext : whole.text = front.text ++ '+' :: rest) :
    ∃ behind : Group, behind.text = rest ∧ whole = front.append behind := by
  induction front generalizing whole with
  | one item _ => exact Group.exists_others hwhole hfront htext
  | more item others _ ih =>
    rw [Group.text, List.append_assoc, List.cons_append] at htext
    obtain ⟨whole, hrest, rfl⟩ := Group.exists_others hwhole hfront.1 htext
    obtain ⟨behind, hbehind, rfl⟩ := ih hfront.2 hwhole.2 hrest
    exact ⟨behind, hbehind, rfl⟩

/-! ### Groups inside elements -/

/-- A group in parentheses behind a name. -/
def Group.within (name : Text) (inside : Group) : Group := .one ⟨name, [], .group inside, []⟩

section Within

variable {name : Text} {inside : Group}

/-- No character of a name ends a stretch. -/
theorem isStop_of_isName (hname : isName name = true) : ∀ c ∈ name, isStop c = false := by
  intro c hc
  rw [← Bool.not_eq_true]
  intro hstop
  have hother := (classes_of_isStop hstop).2.2
  rw [(isName_iff.mp hname).2 c hc] at hother
  exact absurd hother.symm Bool.false_ne_true

/-- The parentheses stand around the text of the group. -/
theorem Group.text_within :
    (Group.within name inside).text = name ++ '(' :: inside.text ++ [')'] := by
  simp [Group.within, Group.text, Item.text, Inner.text]

/-- A well-formed group stays so in parentheses behind a name. -/
theorem Group.WellFormed.within (h : inside.WellFormed) (hname : isName name = true) :
    (Group.within name inside).WellFormed := by
  have hne : name ≠ [] := (isName_iff.mp hname).1
  have htrim := Segment.trim_of_isName hname
  have hplain : ∀ c ∈ name, (!isStop c) = true := fun c hc ↦ by
    rw [isStop_of_isName hname c hc]
    rfl
  have hstretch : IsStretch (!isStop ·) name ('(' :: inside.text ++ [')'] ++ []) :=
    ⟨hplain, by simp [isStop]⟩
  refine ⟨⟨hstretch, ?_, trivial⟩, h, fun _ hc ↦ absurd hc List.not_mem_nil, ?_⟩
  · rw [htrim]
    exact .inr hname
  · rw [Item.text, List.append_assoc, List.append_assoc]
    exact isBlankText_of_tag (by rw [htrim]; exact hne) _

/-- A group in parentheses behind a name stands for one item with the items of the group inside
it. -/
theorem Group.forest_within (hname : isName name = true) :
    (Group.within name inside).forest =
      .group ⟨name ++ '(' :: inside.text ++ [')'], some name, []⟩ inside.forest .nil := by
  obtain ⟨hne, hchars⟩ := isName_iff.mp hname
  have htext :
      trim (name ++ '(' :: inside.text ++ [')']) = name ++ '(' :: inside.text ++ [')'] := by
    apply trim_eq_self
    · intro c hc
      obtain ⟨first, name, rfl⟩ := List.exists_cons_of_ne_nil hne
      obtain rfl : first = c := by simpa using hc
      exact (Segment.classes_of_isNameChar (hchars first (List.mem_cons_self ..))).1
    · intro c hc
      rw [List.getLast?_concat] at hc
      obtain rfl : ')' = c := Option.some.inj hc
      decide +kernel
  have hitem : (Item.mk name [] (.group inside) []).text = name ++ '(' :: inside.text ++ [')'] :=
    Group.text_within
  have htag : Item.tag? ⟨name, [], .group inside, []⟩ = some name := by
    rw [Item.tag?, Segment.trim_of_isName hname, if_neg hne]
  rw [Group.within, Group.forest, Item.segment, hitem, htext, htag]
  rfl

end Within

end Grammar

open Grammar

/-! ### Reading -/

private theorem parse_eq_ok_iff_group {template : Text} {forest : Forest}
    (hblank : isBlankText template = false) :
    parse template = .ok forest ↔
      ∃ group : Group, group.WellFormed ∧ group.text = template ∧ group.forest = forest := by
  rw [parse_eq_ok_iff, hblank]
  simp

section Reading

variable {front back name : Text} {forest : Forest}

/-- Behind a template and a plus sign stands a template, which is read as it is alone. -/
theorem parse_beside (hparse : parse front = .ok forest) (hfront : isBlankText front = false)
    (hback : isBlankText back = false) (whole : Forest) :
    parse (front ++ '+' :: back) = .ok whole ↔
      ∃ others, parse back = .ok others ∧ whole = forest ++ others := by
  have hblank : isBlankText (front ++ '+' :: back) = false := isBlankText_append_left hfront _
  obtain ⟨group, hgroup, rfl, rfl⟩ := (parse_eq_ok_iff_group hfront).mp hparse
  rw [parse_eq_ok_iff_group hblank]
  constructor
  · rintro ⟨_, hwhole, htext, rfl⟩
    obtain ⟨behind, rfl, rfl⟩ := Group.exists_behind hgroup hwhole htext
    have hbehind := ((group.wellFormed_append behind).mp hwhole).2
    exact ⟨behind.forest, parse_text hbehind, group.forest_append behind⟩
  · rintro ⟨others, hothers, rfl⟩
    obtain ⟨behind, hbehind, rfl, rfl⟩ := (parse_eq_ok_iff_group hback).mp hothers
    exact ⟨group.append behind, (group.wellFormed_append behind).mpr ⟨hgroup, hbehind⟩,
      group.text_append behind, group.forest_append behind⟩

/-- A template in parentheses behind a name is one item with the items of the template inside it. -/
theorem parse_within (hparse : parse front = .ok forest) (hfront : isBlankText front = false)
    (hname : isName name = true) :
    parse (name ++ '(' :: front ++ [')']) =
      .ok (.group ⟨name ++ '(' :: front ++ [')'], some name, []⟩ forest .nil) := by
  obtain ⟨group, hgroup, rfl, rfl⟩ := (parse_eq_ok_iff_group hfront).mp hparse
  rw [← Group.text_within, parse_text (hgroup.within hname), Group.forest_within hname,
    Group.text_within]

end Reading

/-! ### Filling -/

/-- Rows one behind the other are filled one after the other. -/
theorem fill_append (policy : Policy) (front back : Forest) :
    fill policy (front ++ back) =
      Step.andThen (fill policy front) fun markup ↦
        Step.andThen (fill policy back) fun others ↦ .done (markup ++ others) := by
  induction front using Forest.item_induction with
  | nil =>
    funext arguments
    change fill policy back arguments = (fill policy back arguments).bind some
    rw [Option.bind_fun_some]
  | item segment content next _ ih =>
    rw [Forest.item_append, fill_item, fill_item, ih]
    funext arguments
    simp only [Step.andThen, Step.done, Option.bind_assoc, Option.bind_some, List.append_assoc]

/-- An item without decorations is filled as what is inside it, in an element around that. -/
theorem fill_within (policy : Policy) (raw name : Text) (inside : Forest) :
    fill policy (.group ⟨raw, some name, []⟩ inside .nil) =
      Step.andThen (fill policy inside) fun markup ↦
        .done (Element.markup policy ⟨name, .empty, markup⟩) := by
  funext arguments
  have hitem : ∀ markup, itemMarkup policy ⟨raw, some name, []⟩ .empty markup ++ [] =
      Element.markup policy ⟨name, .empty, markup⟩ := fun markup ↦ List.append_nil _
  simp only [fill, fillDecorations, Step.andThen, Step.done, bind, pure, Option.bind_some, hitem]

/-- A template has a markup exactly if it is read and its forest is filled. -/
theorem expand_eq_ok_iff {policy : Policy} {template markup : Text} {arguments : List Value} :
    expand policy template arguments = .ok markup ↔
      ∃ forest rest, parse template = .ok forest ∧
        fill policy forest arguments = some (markup, rest) := by
  constructor
  · intro h
    cases hparse : parse template with
    | error fault =>
      simp [expand, Supply.expand, hparse] at h
    | ok forest =>
      rw [expand_of_parse policy arguments hparse] at h
      cases hfill : fill policy forest arguments with
      | none => simp [hfill] at h
      | some filled =>
        obtain ⟨found, rest⟩ := filled
        obtain rfl : found = markup := by simpa [hfill] using h
        exact ⟨forest, rest, rfl, hfill⟩
  · rintro ⟨forest, rest, hparse, hfill⟩
    rw [expand_of_parse policy arguments hparse, hfill]

section Filling

variable {front back name : Text} {forest : Forest}

private theorem exists_markup_iff (policy : Policy) (hparse : parse front = .ok forest)
    (arguments : List Value) :
    (∃ markup, expand policy front arguments = .ok markup) ↔
      forest.holes ≤ arguments.length := by
  constructor
  · rintro ⟨markup, hmarkup⟩
    rw [← Nat.not_lt]
    intro hfew
    rw [expand_of_parse policy arguments hparse,
      (takes_fill policy forest).2 arguments hfew] at hmarkup
    exact nomatch hmarkup
  · intro henough
    obtain ⟨markup, hfill, -⟩ := (takes_fill policy forest).of_le henough
    exact ⟨markup, expand_eq_ok_iff.mpr ⟨forest, _, hparse, hfill⟩⟩

private theorem consumed_eq_holes (policy : Policy) (hparse : parse front = .ok forest)
    {arguments : List Value} (henough : forest.holes ≤ arguments.length) :
    ((Supply.ofArguments (some front) arguments).expand policy front).2.consumed =
      forest.holes := by
  obtain ⟨markup, hfill, -⟩ := (takes_fill policy forest).of_le henough
  have hleft : (arguments.drop forest.holes).length = arguments.length - forest.holes :=
    List.length_drop
  simp only [Supply.expand, hparse, Supply.fill, Supply.ofArguments, hfill, Supply.leaving,
    Supply.total, hleft]
  omega

private theorem expand_beside (policy : Policy) (hparse : parse front = .ok forest)
    (hfront : isBlankText front = false) (hback : isBlankText back = false)
    {used rest : List Value} {markup result : Text}
    (hfill : fill policy forest (used ++ rest) = some (markup, rest)) :
    expand policy (front ++ '+' :: back) (used ++ rest) = .ok result ↔
      ∃ others, expand policy back rest = .ok others ∧ result = markup ++ others := by
  have hbeside : ∀ others, fill policy (forest ++ others) (used ++ rest) =
      (fill policy others rest).bind fun filled ↦ some (markup ++ filled.1, filled.2) := by
    intro others
    rw [fill_append, Step.andThen, hfill]
    rfl
  simp only [expand_eq_ok_iff, parse_beside hparse hfront hback]
  constructor
  · rintro ⟨_, left, ⟨others, hothers, rfl⟩, hwhole⟩
    rw [hbeside, Option.bind_eq_some_iff] at hwhole
    obtain ⟨⟨inside, left'⟩, hinside, hresult⟩ := hwhole
    obtain ⟨rfl, rfl⟩ := Prod.mk.inj (Option.some.inj hresult)
    exact ⟨inside, ⟨others, left', hothers, hinside⟩, rfl⟩
  · rintro ⟨inside, ⟨others, left, hothers, hinside⟩, rfl⟩
    refine ⟨forest ++ others, left, ⟨others, hothers, rfl⟩, ?_⟩
    rw [hbeside, hinside, Option.bind_some]

private theorem expand_within (policy : Policy) (hparse : parse front = .ok forest)
    (hfront : isBlankText front = false) (hname : isName name = true) {arguments : List Value}
    {result : Text} :
    expand policy (name ++ '(' :: front ++ [')']) arguments = .ok result ↔
      ∃ inside, expand policy front arguments = .ok inside ∧
        result = Element.markup policy ⟨name, .empty, inside⟩ := by
  have hwithin := parse_within hparse hfront hname
  rw [expand_of_parse policy arguments hwithin, expand_of_parse policy arguments hparse,
    fill_within, Step.andThen]
  cases fill policy forest arguments with
  | none => simp
  | some filled => simp [Step.done, eq_comm]

end Filling

/-- A template that is not blank and can be read asks for a number of arguments. Behind it and a
plus sign another template that is not blank is read as it is alone: the items of both stand one
behind the other, and the markup of the second, which takes the arguments behind that number, stands
behind the markup of the first. In parentheses behind a name the template is read as what is inside
one item, and its markup stands inside the element of that name. -/
theorem expand_beside_within (policy : Policy) {front : Text} {forest : Forest}
    (hparse : parse front = .ok forest) (hfront : isBlankText front = false) :
    (∀ arguments, ((∃ markup, expand policy front arguments = .ok markup) ↔
        forest.holes ≤ arguments.length) ∧
      (forest.holes ≤ arguments.length →
        ((Supply.ofArguments (some front) arguments).expand policy front).2.consumed =
          forest.holes)) ∧
    (∀ back, isBlankText back = false →
      (∀ whole, parse (front ++ '+' :: back) = .ok whole ↔
        ∃ others, parse back = .ok others ∧ whole = forest ++ others) ∧
      ∀ used, used.length = forest.holes →
        ∃ markup, expand policy front used = .ok markup ∧
          ∀ rest result, expand policy (front ++ '+' :: back) (used ++ rest) = .ok result ↔
            ∃ others, expand policy back rest = .ok others ∧ result = markup ++ others) ∧
    ∀ name, isName name = true →
      parse (name ++ '(' :: front ++ [')']) =
        .ok (.group ⟨name ++ '(' :: front ++ [')'], some name, []⟩ forest .nil) ∧
      ∀ arguments result, expand policy (name ++ '(' :: front ++ [')']) arguments = .ok result ↔
        ∃ inside, expand policy front arguments = .ok inside ∧
          result = Element.markup policy ⟨name, .empty, inside⟩ := by
  refine ⟨fun arguments ↦ ⟨exists_markup_iff policy hparse arguments,
      consumed_eq_holes policy hparse⟩,
    fun back hback ↦ ⟨parse_beside hparse hfront hback, fun used hused ↦ ?_⟩,
    fun name hname ↦ ⟨parse_within hparse hfront hname,
      fun arguments result ↦ expand_within policy hparse hfront hname⟩⟩
  obtain ⟨markup, hfill⟩ := (takes_fill policy forest).1 used hused
  have halone := hfill []
  rw [List.append_nil] at halone
  exact ⟨markup, expand_eq_ok_iff.mpr ⟨forest, [], hparse, halone⟩,
    fun rest result ↦ expand_beside policy hparse hfront hback (hfill rest)⟩

/-- An element with an argument for its class and one inside it, in front of one with an argument
for an attribute, and inside another element. -/
theorem expand_beside_within_mixed :
    expand .standard "p.%(%+i) + b[t=%]".toList [.text "k".toList, .integer 1, .boolean true] =
        .ok "<p class=\"k\">1<i></i></p><b t=\"True\"></b>".toList ∧
      expand .standard "x:y(p.%(%+i) )".toList [.text "k".toList, .integer 1] =
        .ok "<x:y><p class=\"k\">1<i></i></p></x:y>".toList := by
  have hok : (parse "p.%(%+i) ".toList).isOk = true := by decide +kernel
  obtain ⟨forest, hparse⟩ := exists_forest_of_isOk hok
  have hholes : forest.holes = 2 := by
    have hsome : (parse "p.%(%+i) ".toList).toOption.map Forest.holes = some 2 := by
      decide +kernel
    rw [hparse] at hsome
    exact Option.some.inj hsome
  have hfront : expand .standard "p.%(%+i) ".toList [.text "k".toList, .integer 1] =
      .ok "<p class=\"k\">1<i></i></p>".toList :=
    eq_ok_of_toOption (by decide +kernel)
  have hback : expand .standard " b[t=%]".toList [.boolean true] =
      .ok "<b t=\"True\"></b>".toList :=
    eq_ok_of_toOption (by decide +kernel)
  obtain ⟨-, hbeside, hwithin⟩ := expand_beside_within .standard hparse (by decide)
  obtain ⟨-, hfill⟩ := hbeside " b[t=%]".toList (by decide)
  obtain ⟨markup, hmarkup, hwhole⟩ := hfill [.text "k".toList, .integer 1] (by rw [hholes]; rfl)
  obtain rfl := Except.ok.inj (hfront.symm.trans hmarkup)
  exact ⟨(hwhole [.boolean true] _).mpr ⟨_, hback, by decide +kernel⟩,
    ((hwithin "x:y".toList (by decide +kernel)).2 _ _).mpr ⟨_, hfront, by decide +kernel⟩⟩

end Shorthand.Template
