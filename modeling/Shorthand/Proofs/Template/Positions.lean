import Shorthand.Proofs.Template.Holes
import Shorthand.Proofs.Template.Roles

/-!
# Roles in the text

Which role a placeholder has can be told from the outline of the template alone: brackets and the
percent signs right behind a marker fill decorations, all other percent signs are content. The main
statement says that arguments are taken in the order in which the placeholders stand in the text,
each for the role that the text shows.
-/

namespace Shorthand

open Text Template

namespace Lexeme

/-- Whether a lexeme is a character that begins an id or a class. -/
def isMarker : Lexeme → Bool
  | plain c => (Marker.ofChar? c).isSome
  | bracket _ => false

/-- The role of a lexeme that waits for an argument, which may stand right behind a marker. -/
def role (behindMarker : Bool) : Lexeme → Role
  | plain _ => if behindMarker then .decoration else .content
  | bracket _ => .decoration

end Lexeme

namespace Outline

/-- The roles of the lexemes that wait for an argument, where a marker may stand right in front of
the first lexeme. -/
def rolesBehind (behindMarker : Bool) : Outline → List Role
  | [] => []
  | lexeme :: rest =>
    (if lexeme.isHole then [lexeme.role behindMarker] else []) ++ rolesBehind lexeme.isMarker rest

/-- The roles of the lexemes that wait for an argument, in their order. -/
def roles (o : Outline) : List Role := rolesBehind false o

/-- Whether an outline shows some roles and leaves no marker open, whatever follows it. -/
def Shows (o : Outline) (rs : List Role) : Prop :=
  ∀ rest, roles (o ++ rest) = rs ++ roles rest

variable {a b o : Outline} {rs rs' : List Role}

/-- The empty outline shows no role. -/
theorem shows_nil : Shows [] [] := fun _ ↦ rfl

/-- Outlines one behind the other show the roles of both. -/
theorem Shows.append (h : Shows a rs) (h' : Shows b rs') : Shows (a ++ b) (rs ++ rs') := by
  intro rest
  rw [List.append_assoc, h, h', List.append_assoc]

/-- A lexeme in front of which no marker stands, and which is none itself. -/
theorem shows_singleton {lexeme : Lexeme} (h : lexeme.isMarker = false) :
    Shows [lexeme] (if lexeme.isHole then [lexeme.role false] else []) := by
  intro rest
  rw [List.singleton_append, roles, rolesBehind, h]
  rfl

/-- An outline shows its roles to a reader that goes on behind it. -/
theorem Shows.roles_eq (h : Shows o rs) : roles o = rs := by
  have hnothing : roles (o ++ []) = rs ++ [] := h []
  rwa [List.append_nil, List.append_nil] at hnothing

end Outline

namespace Template.Grammar

open Outline

private theorem shows_plain {c : Char} (h : isStop c = false) : Shows [.plain c] [] := by
  have hmarker : Lexeme.isMarker (.plain c) = false := by
    rw [Lexeme.isMarker, ofChar?_eq_none_of_isStop h]
    rfl
  have hhole : Lexeme.isHole (.plain c) = false :=
    decide_eq_false (ne_of_isStop h (m := placeholderMark) (by decide))
  have hshows := shows_singleton hmarker
  rwa [hhole] at hshows

/-- A stretch without marks shows nothing. -/
theorem shows_plains {s : Text} (h : ∀ c ∈ s, isStop c = false) : Shows (plains s) [] := by
  induction s with
  | nil => exact shows_nil
  | cons c s ih =>
    exact (shows_plain (h c (List.mem_cons_self ..))).append
      (ih fun d hd ↦ h d (List.mem_cons_of_mem _ hd))

private theorem roles_marker (marker : Marker) (rest : Outline) :
    roles (.plain marker.char :: rest) = rolesBehind true rest := by
  cases marker <;> rfl

private theorem decorationRoles_singleton (d : Decoration) :
    decorationRoles [d] = if d.isPlaceholder then [.decoration] else [] := by
  rw [decorationRoles, decorationHoles_cons]
  cases d.isPlaceholder <;> rfl

/-- A decoration shows its own role, if it is a placeholder. -/
theorem Mark.Fits.shows {mark : Mark} {after : Text} (h : mark.Fits after) :
    Shows mark.outline (decorationRoles [mark.decoration]) := by
  cases mark with
  | hole marker =>
    intro rest
    exact roles_marker marker (.plain placeholderMark :: rest)
  | run marker value =>
    obtain ⟨c, value, rfl⟩ := List.exists_cons_of_ne_nil h.1
    have hstop := isStop_of_run h.2.1
    have hc := hstop c (List.mem_cons_self ..)
    have hhole : Lexeme.isHole (.plain c) = false :=
      decide_eq_false (ne_of_isStop hc (m := placeholderMark) (by decide))
    have hfirst : ∀ rest, rolesBehind true (.plain c :: rest) = roles (.plain c :: rest) := by
      intro rest
      rw [roles, rolesBehind, rolesBehind, hhole]
      rfl
    intro rest
    have hvalue := shows_plains hstop rest
    rw [Mark.outline, List.cons_append, roles_marker, plains, List.map_cons, List.cons_append,
      hfirst]
    exact hvalue
  | bracket body =>
    have hplaceholder : (Mark.bracket body).decoration.isPlaceholder =
        Lexeme.isHole (.bracket body) := by
      rw [Mark.decoration]
      cases Lexeme.isHole (.bracket body) <;> rfl
    rw [decorationRoles_singleton, hplaceholder]
    exact shows_singleton rfl

/-- Decorations show the roles of the placeholders among them. -/
theorem MarksFit.shows {marks : List Mark} {after : Text} (h : MarksFit after marks) :
    Shows (marksOutline marks) (decorationRoles (marks.map Mark.decoration)) := by
  induction marks with
  | nil => exact shows_nil
  | cons mark marks ih =>
    have hroles : decorationRoles ((mark :: marks).map Mark.decoration) =
        decorationRoles [mark.decoration] ++ decorationRoles (marks.map Mark.decoration) := by
      rw [decorationRoles, decorationRoles, decorationRoles, List.replicate_append_replicate,
        List.map_cons, decorationHoles_cons, decorationHoles_cons]
      rfl
    rw [hroles, marksOutline_cons]
    exact h.1.shows.append (ih h.2)

private theorem Item.WellFormed.shows {item : Item} (h : item.WellFormed)
    (ih : ∀ inside, item.inner = .group inside → Shows inside.outline inside.forest.roles) :
    Shows item.outline (decorationRoles item.segment.decorations ++ item.content.roles) := by
  obtain ⟨run, marks, inner, blanks⟩ := item
  obtain ⟨hfit, -, hblanks, -⟩ := h
  have hinner : Shows inner.outline inner.content.roles := by
    cases inner with
    | nothing => exact shows_nil
    | hole => exact @shows_singleton (.plain placeholderMark) rfl
    | group inside =>
      have hopening : Shows [.plain '('] [] := @shows_singleton (.plain '(') (by decide)
      have hclosing : Shows [.plain ')'] [] := @shows_singleton (.plain ')') (by decide)
      have hgroup := hopening.append ((ih inside rfl).append hclosing)
      rwa [List.nil_append, List.append_nil] at hgroup
  have hrun := shows_plains hfit.isStop_eq_false
  have hblank := shows_plains (isStop_of_blanks hblanks)
  have hall := ((hrun.append hfit.2.2.shows).append hinner).append hblank
  rwa [List.nil_append, List.append_nil] at hall

/-- The text of a well-formed group shows the roles of its forest. -/
theorem Group.WellFormed.shows {group : Group} (h : group.WellFormed) :
    Shows group.outline group.forest.roles := by
  induction group with
  | one item ihInside =>
    have hitem := Item.WellFormed.shows h fun inside hinner ↦
      ihInside inside hinner (Item.WellFormed.inside h hinner)
    rw [Group.outline, Group.forest, Forest.roles_item, Forest.roles, List.append_nil]
    exact hitem
  | more item others ihInside ihOthers =>
    have hitem := Item.WellFormed.shows h.1 fun inside hinner ↦
      ihInside inside hinner (Item.WellFormed.inside h.1 hinner)
    have hplus : Shows [.plain '+'] [] := @shows_singleton (.plain '+') (by decide)
    have hall := hitem.append (hplus.append (ihOthers h.2))
    rw [Group.outline, Group.forest, Forest.roles_item, ← List.append_assoc]
    rwa [List.nil_append] at hall

/-- The outline of a template that can be read shows what its placeholders are for, in the order in
which they take arguments. -/
theorem exists_outline_roles_of_parse {template : Text} {forest : Forest}
    (h : parse template = .ok forest) :
    ∃ outline, Outline.of? template = some outline ∧ outline.roles = forest.roles := by
  rcases parse_eq_ok_iff.mp h with ⟨hblank, rfl⟩ | ⟨group, hwf, rfl, rfl⟩
  · have hblanks := isStop_of_blanks (List.all_eq_true.mp hblank)
    refine ⟨plains template, ?_, (shows_plains hblanks).roles_eq⟩
    exact Outline.of?_eq_some_iff.mpr ⟨(plains_of_isStop hblanks).1, text_plains template⟩
  · exact ⟨group.outline, hwf.of?_text, hwf.shows.roles_eq⟩

end Template.Grammar
end Shorthand
