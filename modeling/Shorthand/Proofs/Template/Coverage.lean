import Shorthand.Proofs.Segment.Language
import Shorthand.Proofs.Template.Reading

/-!
# What the items of a template cover

Every item keeps the text that it was read from, without the blanks around it. The main statement
says that nothing else is between the items: with the blanks and with plus signs between them they
make up the template, and those of a group what stands between its parentheses, where the item
around the group ends.
-/

namespace Shorthand

namespace Text

/-- Trimming takes no more of a text than is in front of characters that are not blank. -/
theorem trim_append_of_ends (front : Text) {s : Text} (hne : s ≠ [])
    (hfirst : ∀ c ∈ s.head?, isBlank c = false) (hlast : ∀ c ∈ s.getLast?, isBlank c = false) :
    trim (front ++ s) = trimStart front ++ s := by
  have hfront := isStretch_takeWhile isBlank front
  have hstart : trim (front ++ s) = trim (trimStart front ++ s) := by
    conv => lhs; rw [← takeWhile_append_trimStart front, List.append_assoc]
    exact trim_append_left _ hfront.1
  rw [hstart]
  apply trim_eq_self
  · intro c hc
    cases hrest : trimStart front with
    | nil =>
      rw [hrest] at hc
      exact hfirst c hc
    | cons d rest =>
      rw [hrest] at hc
      exact hfront.2 c (by rw [← trimStart, hrest]; exact hc)
  · intro c hc
    rw [List.getLast?_append, List.getLast?_eq_some_getLast hne, Option.some_or] at hc
    exact hlast c (by rw [List.getLast?_eq_some_getLast hne]; exact hc)

end Text

namespace Template

open Text Grammar

/-- The items of a row and of the groups inside them, each in front of those inside it. -/
def Forest.nodes : Forest → List (Segment × Content)
  | .nil => []
  | .leaf segment hasHole next => (segment, if hasHole then .hole else .empty) :: next.nodes
  | .group segment children next => (segment, .group children) :: (children.nodes ++ next.nodes)

/-- The items inside the content of an item. -/
def Content.nodes : Content → List (Segment × Content)
  | .group children => children.nodes
  | _ => []

/-- An item stands in front of those in its content, and these in front of those behind it. -/
theorem Forest.nodes_item (segment : Segment) (content : Content) (next : Forest) :
    (Forest.item segment content next).nodes =
      (segment, content) :: (content.nodes ++ next.nodes) := by
  cases content <;> rfl

/-- Whether a text is made up of the texts of the items of a row, each with blanks around it, and of
plus signs between them. -/
def Forest.Covers (row : Forest) (s : Text) : Prop :=
  ∃ texts : List Text, texts ≠ [] ∧ s = ['+'].intercalate texts ∧
    row.items.map (fun item ↦ item.1.raw) = texts.map trim ∧ ∀ text ∈ texts, trim text ≠ []

/-- Whether the text of an item ends with a text in parentheses that the items of a row cover. -/
def CoversGroup (segment : Segment) (children : Forest) : Prop :=
  ∃ front inside, segment.raw = front ++ '(' :: inside ++ [')'] ∧ children.Covers inside

namespace Grammar

/-- A well-formed item is not blank. -/
theorem Item.WellFormed.trim_text_ne_nil {item : Item} (h : item.WellFormed) :
    trim item.text ≠ [] := by
  obtain ⟨run, marks, inner, blanks⟩ := item
  obtain ⟨-, -, -, hblank⟩ := h
  rw [Ne, trim_eq_nil_iff, hblank]
  exact Bool.false_ne_true

/-- The items of a well-formed group cover its text. -/
theorem Group.WellFormed.covers {group : Group} (h : group.WellFormed) :
    group.forest.Covers group.text := by
  induction group with
  | one item _ =>
    refine ⟨[item.text], List.cons_ne_nil _ _, List.intercalate_singleton.symm, ?_, ?_⟩
    · rw [Group.forest, Forest.items_item]
      rfl
    · rintro text htext
      obtain rfl := List.mem_singleton.mp htext
      exact Item.WellFormed.trim_text_ne_nil h
  | more item others _ ih =>
    obtain ⟨hitem, hothers⟩ := h
    obtain ⟨texts, hne, htext, hraws, hblank⟩ := ih hothers
    refine ⟨item.text :: texts, List.cons_ne_nil _ _, ?_, ?_, ?_⟩
    · rw [List.intercalate_cons_of_ne_nil hne, ← htext, Group.text]
      simp
    · rw [Group.forest, Forest.items_item, List.map_cons, hraws]
      rfl
    · intro text hmem
      rcases List.mem_cons.mp hmem with rfl | hmem
      · exact hitem.trim_text_ne_nil
      · exact hblank text hmem

/-- An item with a group inside it ends with the group in parentheses. -/
theorem Item.WellFormed.coversGroup {item : Item} {inside : Group} (h : item.WellFormed)
    (hinner : item.inner = .group inside) : CoversGroup item.segment inside.forest := by
  have hinside := (h.inside hinner).covers
  obtain ⟨run, marks, inner, blanks⟩ := item
  obtain rfl : inner = .group inside := hinner
  obtain ⟨-, -, hblanks, -⟩ := h
  have hfirst : ∀ c ∈ ('(' :: inside.text ++ [')']).head?, isBlank c = false := by
    intro c hc
    obtain rfl : '(' = c := by simpa using hc
    decide
  have hlast : ∀ c ∈ ('(' :: inside.text ++ [')']).getLast?, isBlank c = false := by
    intro c hc
    rw [List.getLast?_concat] at hc
    obtain rfl : ')' = c := Option.some.inj hc
    decide
  refine ⟨trimStart (run ++ marksText marks), inside.text, ?_, hinside⟩
  -- The blanks behind are trimmed up to the last parenthesis, and those in front up to the first.
  change trim (run ++ marksText marks ++ ('(' :: inside.text ++ [')']) ++ blanks) = _
  rw [trim_append_right _ hblanks, List.append_assoc (trimStart _)]
  exact trim_append_of_ends _ (List.cons_ne_nil _ _) hfirst hlast

private theorem Item.WellFormed.coversGroups {item : Item} (h : item.WellFormed)
    (hinside : ∀ inside, item.inner = .group inside → inside.WellFormed →
      ∀ node ∈ inside.forest.nodes, ∀ children, node.2 = .group children →
        CoversGroup node.1 children) :
    ∀ node ∈ (item.segment, item.content) :: item.content.nodes, ∀ children,
      node.2 = .group children → CoversGroup node.1 children := by
  have hcontent : item.content = item.inner.content := by
    cases item
    rfl
  rw [hcontent]
  intro node hnode children hchildren
  cases hinner : item.inner with
  | nothing =>
    rw [hinner] at hnode
    obtain rfl := List.mem_singleton.mp hnode
    exact nomatch hchildren
  | hole =>
    rw [hinner] at hnode
    obtain rfl := List.mem_singleton.mp hnode
    exact nomatch hchildren
  | group inside =>
    rw [hinner] at hnode
    rcases List.mem_cons.mp hnode with rfl | hnode
    · obtain rfl : inside.forest = children := Content.group.inj hchildren
      exact h.coversGroup hinner
    · exact hinside inside hinner (h.inside hinner) node hnode children hchildren

/-- All groups in parentheses of a well-formed group are covered. -/
theorem Group.WellFormed.coversGroups {group : Group} (h : group.WellFormed) :
    ∀ node ∈ group.forest.nodes, ∀ children, node.2 = .group children →
      CoversGroup node.1 children := by
  induction group with
  | one item ihInside =>
    have hitem := Item.WellFormed.coversGroups h fun inside hinner hwf ↦ ihInside inside hinner hwf
    intro node hnode
    rw [Group.forest, Forest.nodes_item] at hnode
    exact hitem node (by simpa [Forest.nodes] using hnode)
  | more item others ihInside ih =>
    obtain ⟨hwf, hothers⟩ := h
    have hitem := hwf.coversGroups fun inside hinner hwf ↦ ihInside inside hinner hwf
    intro node hnode
    rw [Group.forest, Forest.nodes_item, ← List.cons_append, List.mem_append] at hnode
    exact hnode.elim (hitem node) (ih hothers node)

end Grammar

/-- The items of a template that is not blank cover it. Every item with others inside it, however
deep it stands, ends with a text in parentheses that these cover. -/
theorem parse_covers {template : Text} {forest : Forest} (h : parse template = .ok forest)
    (hblank : isBlankText template = false) :
    forest.Covers template ∧
      ∀ node ∈ forest.nodes, ∀ children, node.2 = .group children →
        CoversGroup node.1 children := by
  rcases parse_eq_ok_iff.mp h with ⟨hnone, -⟩ | ⟨group, hwf, rfl, rfl⟩
  · rw [hblank] at hnone
    exact absurd hnone Bool.false_ne_true
  · exact ⟨hwf.covers, hwf.coversGroups⟩

/-- A plus sign and a parenthesis in brackets belong to the text of an item in a group. -/
theorem parse_covers_nested :
    ∃ texts inside : List Text, texts ≠ [] ∧ inside ≠ [] ∧
      " a.x + ul( li[t=+(]% +b) ".toList = ['+'].intercalate texts ∧
      ["a.x".toList, "ul( li[t=+(]% +b)".toList] = texts.map trim ∧
      (∃ front, "ul( li[t=+(]% +b)".toList =
        front ++ '(' :: ['+'].intercalate inside ++ [')']) ∧
      ["li[t=+(]%".toList, "b".toList] = inside.map trim := by
  let children : Forest := .leaf ⟨"li[t=+(]%".toList, some "li".toList,
    [⟨.attribute "t".toList, some "+(".toList, false⟩]⟩ true
      (.leaf ⟨"b".toList, some "b".toList, []⟩ false .nil)
  let list : Segment := ⟨"ul( li[t=+(]% +b)".toList, some "ul".toList, []⟩
  let forest : Forest := .leaf ⟨"a.x".toList, some "a".toList,
    [⟨.classes, some "x".toList, false⟩]⟩ false (.group list children .nil)
  have hparse : parse " a.x + ul( li[t=+(]% +b) ".toList = .ok forest :=
    eq_ok_of_toOption (by decide +kernel)
  obtain ⟨⟨texts, hne, htexts, hraws, -⟩, hnodes⟩ := parse_covers hparse (by decide +kernel)
  obtain ⟨front, _, hraw, inside, hneInside, rfl, hrawsInside, -⟩ :=
    hnodes (list, .group children) (by decide +kernel) children rfl
  exact ⟨texts, inside, hne, hneInside, htexts, hraws, ⟨front, hraw⟩, hrawsInside⟩

end Template
end Shorthand
