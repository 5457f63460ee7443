import Shorthand.Proofs.Segment.Language
import Shorthand.Proofs.Template.Deletion

/-!
# Missing values

A missing value leaves out the decoration that it was meant for. The main statement is that the
template without the decoration then expands to the same markup, if the decoration collects with
others or nothing in front of it sets its attribute.
-/

namespace Shorthand.Template

/-- Decorations are filled with a missing value as without the placeholder that it is for, if this
would have replaced nothing. -/
theorem fillDecorations_null {earlier later : List Decoration} {d : Decoration}
    {used : List Value} {kept : Contributions}
    (hfill : ∀ behind, fillDecorations .empty earlier (used ++ behind) = some (kept, behind))
    (hplaceholder : d.isPlaceholder = true)
    (hkeeps : d.target.collects = true ∨ d.attributeName ∉ kept.names) (behind : List Value) :
    fillDecorations .empty (earlier ++ d :: later) (used ++ .null :: behind) =
      fillDecorations .empty (earlier ++ later) (used ++ behind) := by
  have hsettle : settle kept d .null = kept := Contributions.leaveOut_eq_self hkeeps
  rw [fillDecorations_append, fillDecorations_append, Step.andThen, Step.andThen, hfill, hfill,
    Option.bind_some, Option.bind_some, fillDecorations_cons,
    fillDecoration_of_isPlaceholder kept hplaceholder]
  simp only [Step.andThen, takeArgument, Option.bind_some, Step.done, hsettle]

namespace Grammar

variable {spot : Spot}

-- The argument for a placeholder of an item stands behind those for what is in front of the item
-- and those for its decorations in front, and those for its decorations behind come next.
private theorem Spot.exists_arguments {arguments : List Value} {value : Value}
    (hwf : spot.group.WellFormed) (hplaceholder : spot.mark.decoration.isPlaceholder = true)
    (henough : Outline.holes spot.group.outline ≤ arguments.length)
    (hvalue : arguments[Outline.holes spot.front]? = some value) :
    ∃ before used used' behind,
      arguments = before ++ (used ++ value :: (used' ++ behind)) ∧
      arguments.eraseIdx (Outline.holes spot.front) = before ++ (used ++ (used' ++ behind)) ∧
      before.length = Outline.holes spot.place.before ∧
      used.length = decorationHoles (spot.earlier.map Mark.decoration) ∧
      used'.length = decorationHoles (spot.later.map Mark.decoration) := by
  have hback := spot.le_holes_back hwf
  obtain ⟨front, behind, rfl, hfront, herase⟩ := exists_around hvalue
  have hlater : decorationHoles (spot.later.map Mark.decoration) ≤ behind.length := by
    rw [spot.outline_group, Outline.holes_append, Outline.holes_append, spot.holes_mark hwf,
      if_pos hplaceholder, List.length_append, List.length_cons, hfront] at henough
    omega
  rw [spot.holes_front hwf] at hfront
  obtain ⟨before, used, rfl, hbefore⟩ := Step.exists_front (Nat.le.intro hfront.symm)
  obtain ⟨used', behind, rfl, hused'⟩ := Step.exists_front hlater
  refine ⟨before, used, used', behind, List.append_assoc .., ?_, hbefore, ?_, hused'⟩
  · rw [herase, List.append_assoc]
  · rw [List.length_append, hbefore] at hfront
    omega

/-- A missing value drops the decoration that it was meant for and no other. Where an item names a
tag, the template without one of its placeholder decorations expands, without the missing value, to
what the template with the decoration expands to. The decoration collects with others, or those in
front of it do not set its attribute. -/
theorem expand_null_deleted (policy : Policy) {template : Text} {arguments : List Value}
    (hderives : spot.group.Derives template) (htag : spot.item.tag? ≠ none)
    (hplaceholder : spot.mark.decoration.isPlaceholder = true)
    (hkeeps : spot.mark.decoration.target.collects = true ∨
      ∀ kept ∈ collect? (spot.earlier.map Mark.decoration)
          (arguments.drop (Outline.holes spot.place.before)),
        spot.mark.decoration.attributeName ∉ kept.names)
    (henough : Outline.holes spot.group.outline ≤ arguments.length)
    (hnull : arguments[Outline.holes spot.front]? = some .null) :
    ∃ markup, expand policy template arguments = .ok markup ∧
      expand policy (Outline.text (spot.front ++ spot.back))
        (arguments.eraseIdx (Outline.holes spot.front)) = .ok markup := by
  obtain ⟨hwf, rfl⟩ := hderives
  obtain ⟨markup, hmarkup⟩ := hwf.exists_expand policy henough
  obtain ⟨before, used, used', behind, harguments, herase, hbefore, hused, hused'⟩ :=
    spot.exists_arguments hwf hplaceholder henough hnull
  obtain ⟨kept, hkept⟩ := exists_collect? hused
  have hkeeps : spot.mark.decoration.target.collects = true ∨
      spot.mark.decoration.attributeName ∉ kept.names := by
    refine hkeeps.imp id fun h ↦ h kept ?_
    rw [harguments, ← hbefore, List.drop_left]
    exact (hkept _).2
  have hlength : (used ++ used').length =
      decorationHoles ((spot.earlier ++ spot.later).map Mark.decoration) := by
    rw [List.length_append, hused, hused', List.map_append]
    exact List.countP_append.symm
  obtain ⟨collected, hcollected⟩ := exists_collect? hlength
  have hfill : ∀ rest, fillDecorations .empty spot.item.segment.decorations
      ((used ++ .null :: used') ++ rest) = some (collected, rest) := by
    intro rest
    have hdecorations : spot.item.segment.decorations = spot.earlier.map Mark.decoration ++
        spot.mark.decoration :: spot.later.map Mark.decoration := List.map_append
    rw [hdecorations, List.append_assoc, List.cons_append,
      fillDecorations_null (fun behind ↦ (hkept behind).1) hplaceholder hkeeps,
      ← List.map_append, ← List.append_assoc]
    exact (hcollected rest).1
  have hsame := (spot.expand_deleted policy ⟨hwf, rfl⟩ htag hbefore hfill
    (fun rest ↦ (hcollected rest).1) (fun _ ↦ rfl) behind).2
  refine ⟨markup, hmarkup, eq_ok_of_toOption ?_⟩
  rw [herase, ← List.append_assoc used, ← hsame, List.append_assoc used, List.cons_append,
    ← harguments, hmarkup]
  rfl

/-- Between a class and an id, a missing value for the id drops neither. -/
theorem expand_null_deleted_nested :
    ∃ markup, expand .standard "b%+ul(li.a[id=%]#x)".toList [.integer 1, .null] = .ok markup ∧
      expand .standard "b%+ul(li.a#x)".toList [.integer 1] = .ok markup := by
  let host : Place := .behind ⟨"b".toList, [], .hole, []⟩ .alone
  let spot : Spot := ⟨.inside "ul".toList [] [] .alone host, "li".toList, [.run .dot "a".toList],
    .bracket "id=%".toList, [.run .hash "x".toList], .nothing, []⟩
  have hderives : spot.group.Derives "b%+ul(li.a[id=%]#x)".toList := by decide +kernel
  have hkeeps : ∀ kept ∈ collect? (spot.earlier.map Mark.decoration)
      ([Value.integer 1, .null].drop (Outline.holes spot.place.before)),
      spot.mark.decoration.attributeName ∉ kept.names := by
    decide +kernel
  exact expand_null_deleted .standard hderives (by decide +kernel) (by decide +kernel)
    (.inr hkeeps) (by decide +kernel) (by decide +kernel)

/-- An id in brackets takes away the id in front of it even if its value is missing. -/
theorem expand_null_deleted_id :
    ∃ spot : Spot, spot.group.Derives "p#a[id=%]".toList ∧ spot.item.tag? ≠ none ∧
      spot.mark.decoration.isPlaceholder = true ∧
      spot.mark.decoration.attributeName = idName ∧
      [Value.null][Outline.holes spot.front]? = some .null ∧
      expand .standard "p#a[id=%]".toList [.null] = .ok "<p></p>".toList ∧
      expand .standard (Outline.text (spot.front ++ spot.back))
        ([Value.null].eraseIdx (Outline.holes spot.front)) = .ok "<p id=\"a\"></p>".toList := by
  refine ⟨⟨.alone, "p".toList, [.run .hash "a".toList], .bracket "id=%".toList, [], .nothing, []⟩,
    by decide +kernel, by decide +kernel, by decide +kernel, by decide +kernel,
    by decide +kernel, eq_ok_of_toOption (by decide +kernel), eq_ok_of_toOption (by decide +kernel)⟩

end Grammar
end Shorthand.Template
