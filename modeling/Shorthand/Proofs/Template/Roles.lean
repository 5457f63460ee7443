import Shorthand.Proofs.Template.Demand

/-!
# What arguments are for

An argument fills a decoration or becomes content. The roles of a forest list which of the two each
placeholder asks for, in the order in which arguments are taken. The main statements say that every
placeholder has a role, and how a property of the results of filling goes from one step to the
next if it depends on the arguments that become content.
-/

namespace Shorthand.Template

/-- What a placeholder makes of its argument. -/
inductive Role where
  | decoration
  | content
  deriving DecidableEq, Repr

/-- The roles of the placeholders among decorations. -/
def decorationRoles (ds : List Decoration) : List Role :=
  .replicate (decorationHoles ds) .decoration

/-- The roles of the placeholders in a row of items. -/
def Forest.roles : Forest → List Role
  | .nil => []
  | .leaf segment hasHole next =>
    decorationRoles segment.decorations ++ ((if hasHole then [.content] else []) ++ next.roles)
  | .group segment children next =>
    decorationRoles segment.decorations ++ (children.roles ++ next.roles)

/-- The roles of the placeholders in the content of an item. -/
def Content.roles : Content → List Role
  | .empty => []
  | .hole => [.content]
  | .group children => children.roles

/-- An item has the roles of its decorations, then those of its content, then those of its siblings.
-/
@[simp] theorem Forest.roles_item (segment : Segment) (content : Content) (next : Forest) :
    (Forest.item segment content next).roles =
      decorationRoles segment.decorations ++ (content.roles ++ next.roles) := by
  cases content <;> rfl

/-- Decorations have a role for each placeholder among them. -/
@[simp] theorem length_decorationRoles (ds : List Decoration) :
    (decorationRoles ds).length = decorationHoles ds :=
  List.length_replicate

private theorem Content.length_roles_of (content : Content)
    (h : ∀ children, content = .group children → children.roles.length = children.holes) :
    content.roles.length = content.holes := by
  cases content with
  | empty => rfl
  | hole => rfl
  | group children => exact h children rfl

/-- Every placeholder of a row of items has a role. -/
theorem Forest.length_roles (forest : Forest) : forest.roles.length = forest.holes := by
  induction forest using Forest.item_induction with
  | nil => rfl
  | item segment content next ihChildren ih =>
    rw [roles_item, holes_item, List.length_append, List.length_append, length_decorationRoles,
      content.length_roles_of ihChildren, ih, Nat.add_assoc]

/-- Every placeholder in the content of an item has a role. -/
theorem Content.length_roles (content : Content) : content.roles.length = content.holes :=
  content.length_roles_of fun children _ ↦ children.length_roles

/-- Whether the arguments that become content all satisfy `P`, where each argument has the role
of the placeholder that takes it. -/
def ContentSatisfies (P : Text → Prop) (roles : List Role) (arguments : List Value) : Prop :=
  ∀ binding ∈ roles.zip arguments, binding.1 = .content → P binding.2.contentText

/-- Each argument is checked against the role of its placeholder. -/
instance {P : Text → Prop} [DecidablePred P] (roles : List Role) (arguments : List Value) :
    Decidable (ContentSatisfies P roles arguments) :=
  List.decidableBAll (fun binding : Role × Value ↦
    binding.1 = .content → P binding.2.contentText) (roles.zip arguments)

/-- Arguments satisfy what those in front and those behind satisfy. -/
theorem contentSatisfies_append {P : Text → Prop} {roles roles' : List Role}
    {used others : List Value} (h : used.length = roles.length) :
    ContentSatisfies P (roles ++ roles') (used ++ others) ↔
      ContentSatisfies P roles used ∧ ContentSatisfies P roles' others := by
  rw [ContentSatisfies, List.zip_append h.symm, List.forall_mem_append]
  rfl

namespace Step

variable {α β : Type} {P : Text → Prop} {roles roles' : List Role} {Q : α → Prop} {R : β → Prop}

/-- Whether a step for placeholders of given roles only has results in `Q`, if the arguments that
become content satisfy `P`. -/
def Yields (P : Text → Prop) (roles : List Role) (Q : α → Prop) (step : Step α) : Prop :=
  ∀ arguments, ContentSatisfies P roles arguments →
    ∀ a rest, step arguments = some (a, rest) → Q a

/-- A finished step yields its result. -/
theorem yields_done {a : α} (h : Q a) : Yields P roles Q (done a) := by
  rintro arguments - _ _ ⟨⟩
  exact h

/-- A step yields what another one yields from the results of a step in front. -/
theorem Yields.andThen {first : Step α} {second : α → Step β} (htakes : Takes roles.length first)
    (h : Yields P roles Q first) (h' : ∀ a, Q a → Yields P roles' R (second a)) :
    Yields P (roles ++ roles') R (first.andThen second) := by
  intro arguments hcontent b rest hrun
  by_cases hfew : arguments.length < roles.length
  · rw [Step.andThen, htakes.2 arguments hfew] at hrun
    exact absurd hrun.symm (Option.some_ne_none _)
  · obtain ⟨used, others, rfl, hused⟩ := exists_front (Nat.le_of_not_lt hfew)
    obtain ⟨a, ha⟩ := htakes.1 used hused
    obtain ⟨hfront, hothers⟩ := (contentSatisfies_append hused).mp hcontent
    have hfirst : Q a := h used hfront a [] (by rw [← ha [], List.append_nil])
    rw [Step.andThen, ha, Option.bind_some] at hrun
    exact h' a hfirst others hothers b rest hrun

/-- Handing out an argument that becomes content yields a value that satisfies what such
arguments do. -/
theorem yields_takeArgument :
    Yields P [.content] (fun value ↦ P value.contentText) takeArgument := by
  intro arguments hcontent value rest htake
  cases arguments with
  | nil => exact nomatch htake
  | cons first others =>
    obtain ⟨rfl, rfl⟩ := Prod.mk.inj (Option.some.inj htake)
    exact hcontent (.content, first) (List.mem_cons_self ..) rfl

end Step

/-! ### Items -/

variable {P : Text → Prop} {policy : Policy} {segment : Segment} {content : Content}
  {next : Forest} {Q : Contributions → Prop} {R S T : Text → Prop}

/-- What filling an item yields: decorations, content and the items behind it yield something each,
and the markup put together from any of these has the property in question. -/
theorem yields_fill_item
    (hdecorations : Step.Yields P (decorationRoles segment.decorations) Q
      (fillDecorations .empty segment.decorations))
    (hcontent : Step.Yields P content.roles R (fillContent policy content))
    (hnext : Step.Yields P next.roles S (fill policy next))
    (hmarkup : ∀ collected inside others, Q collected → R inside → S others →
      T (markupAround policy segment content collected inside ++ others)) :
    Step.Yields P (Forest.item segment content next).roles T
      (fill policy (.item segment content next)) := by
  have htakesDecorations := takes_fillDecorations .empty segment.decorations
  have htakesContent := takes_fillContent policy content
  have htakesNext := takes_fill policy next
  rw [← length_decorationRoles] at htakesDecorations
  rw [← content.length_roles] at htakesContent
  rw [← next.length_roles] at htakesNext
  rw [fill_item, Forest.roles_item, ← List.append_nil next.roles]
  exact hdecorations.andThen htakesDecorations fun collected hcollected ↦
    hcontent.andThen htakesContent fun inside hinside ↦
      hnext.andThen htakesNext fun others hothers ↦
        Step.yields_done (hmarkup collected inside others hcollected hinside hothers)

end Shorthand.Template
