import Shorthand.Proofs.Segment.Language
import Shorthand.Proofs.Text.Places

/-!
# Faults in segments

Where reading a segment fails, and what the fault tells. The main statement lists the faults of a
segment: a bracket that holds no attribute, a bracket out of place, and a tag that is no name.
-/

namespace Shorthand

open Text

/-- Whether a complete bracket that stands at a place of a text holds no attribute, for a
reason. -/
def IsFaultyBracket (s : Text) (place : Nat) (bracket : Text) (reason : Reason) : Prop :=
  ∃ body, Lexeme.WellFormed (.bracket body) ∧ bracket = bracketed body ∧
    attributeParts body = .error reason ∧ StandsAt s place bracket

/-- A body is no attribute because its name is empty or none. -/
theorem reason_of_attributeParts_eq_error {body : Text} {reason : Reason}
    (h : attributeParts body = .error reason) :
    reason = .emptyAttributeName ∨ ∃ name, reason = .invalidName .attribute name := by
  simp only [attributeParts] at h
  split at h
  · exact .inl (Except.error.inj h).symm
  · split at h
    · exact absurd h ok_ne_error
    · exact .inr ⟨_, (Except.error.inj h).symm⟩

/-- A bracket in a text that stands in a larger one stands in the larger one. -/
theorem IsFaultyBracket.of_standsAt {whole s bracket : Text} {place distance : Nat}
    {reason : Reason} (h : IsFaultyBracket s distance bracket reason)
    (hs : StandsAt whole place s) : IsFaultyBracket whole (place + distance) bracket reason := by
  obtain ⟨body, hbody, hbracket, hparts, hstands⟩ := h
  exact ⟨body, hbody, hbracket, hparts, hs.trans hstands⟩

/-- No distance leads to the position itself. -/
@[simp] theorem positionBehind_zero (offset? : Option Int) :
    positionBehind offset? 0 = offset? := by
  cases offset? <;> simp [positionBehind]

/-- Positions behind each other add up. -/
theorem positionBehind_positionBehind (offset? : Option Int) (a b : Nat) :
    positionBehind (positionBehind offset? a) b = positionBehind offset? (a + b) := by
  cases offset? with
  | none => rfl
  | some offset => simp [positionBehind, Int.add_assoc]

namespace Piece

variable {pieces : List Piece} {selector? : Option Text} {offset? : Option Int}
  {fault : Malformed} {s body : Text} {place : Nat} {c : Char}

private theorem exists_body_of_decoration?_eq_error {piece : Piece}
    (h : piece.decoration? selector? offset? = .error fault) :
    ∃ body reason, piece = .bracket body ∧ attributeParts body = .error reason ∧
      fault = bracketFault selector? offset? body reason := by
  cases piece with
  | run marker value => exact absurd h ok_ne_error
  | loose c => exact absurd h ok_ne_error
  | bracket body =>
    rw [decoration?, readBracket] at h
    cases hparts : attributeParts body with
    | ok found =>
      rw [hparts] at h
      exact absurd h ok_ne_error
    | error reason =>
      rw [hparts] at h
      exact ⟨body, reason, rfl, hparts, (Except.error.inj h).symm⟩

/-- Pieces are faulty at a bracket among them that holds no attribute. -/
theorem exists_bracket_of_decorations_eq_error
    (h : decorations selector? offset? pieces = .error fault) :
    ∃ place body reason, .bracket body ∈ pieces ∧ attributeParts body = .error reason ∧
      StandsAt (pieces.flatMap text) place (bracketed body) ∧
        fault = bracketFault selector? (positionBehind offset? place) body reason := by
  induction pieces generalizing offset? with
  | nil => exact absurd h ok_ne_error
  | cons piece pieces ih =>
    rw [decorations, bind_eq_error_iff] at h
    rcases h with hpiece | ⟨here, -, h⟩
    · obtain ⟨body, reason, rfl, hparts, rfl⟩ := exists_body_of_decoration?_eq_error hpiece
      refine ⟨0, body, reason, List.mem_cons_self .., hparts, ?_, by rw [positionBehind_zero]⟩
      exact List.prefix_append ..
    · rcases bind_eq_error_iff.mp h with hothers | ⟨others, -, hok⟩
      · obtain ⟨place, body, reason, hmem, hparts, hstands, rfl⟩ := ih hothers
        refine ⟨piece.text.length + place, body, reason, List.mem_cons_of_mem _ hmem, hparts, ?_,
          by rw [positionBehind_positionBehind]⟩
        exact (standsAt_append piece.text (List.prefix_refl _)).trans hstands
      · exact absurd hok ok_ne_error

/-- The loose bracket that is found is the first one among the pieces. -/
theorem exists_pieces_of_looseBracket?_eq_some (h : looseBracket? pieces = some (place, c)) :
    ∃ front back, pieces = front ++ .loose c :: back ∧ (∀ piece ∈ front, piece.IsPlaced) ∧
      (front.flatMap text).length = place ∧ (c = openBracket ∨ c = closeBracket) := by
  induction pieces generalizing place with
  | nil => exact absurd h.symm (Option.some_ne_none _)
  | cons piece pieces ih =>
    have hbehind : ∀ length, (looseBracket? pieces).map
        (fun found ↦ (found.1 + length, found.2)) = some (place, c) →
          length = piece.text.length → piece.IsPlaced →
          ∃ front back, piece :: pieces = front ++ .loose c :: back ∧
            (∀ piece ∈ front, piece.IsPlaced) ∧ (front.flatMap text).length = place ∧
              (c = openBracket ∨ c = closeBracket) := by
      rintro length hfound rfl hplaced
      obtain ⟨⟨found, d⟩, hmem, heq⟩ := Option.map_eq_some_iff.mp hfound
      obtain ⟨rfl, rfl⟩ := Prod.mk.inj heq
      obtain ⟨front, back, rfl, hfront, rfl, hc⟩ := ih hmem
      refine ⟨piece :: front, back, rfl, List.forall_mem_cons.mpr ⟨hplaced, hfront⟩, ?_, hc⟩
      rw [List.flatMap_cons, List.length_append, Nat.add_comm]
    rw [looseBracket?] at h
    cases piece with
    | run marker value => exact hbehind _ h rfl trivial
    | bracket body => exact hbehind _ h rfl trivial
    | loose d =>
      simp only [loose?] at h
      split at h
      · next hd =>
        obtain ⟨rfl, rfl⟩ := Prod.mk.inj (Option.some.inj h)
        exact ⟨[], pieces, rfl, fun piece hpiece ↦ absurd hpiece List.not_mem_nil, rfl, hd⟩
      · next hd => exact hbehind 1 h rfl (not_or.mp hd)

/-- The loose bracket that is found is a bracket, and stands where it is found. -/
theorem getElem?_of_looseBracket?_eq_some (h : looseBracket? pieces = some (place, c)) :
    (c = openBracket ∨ c = closeBracket) ∧ (pieces.flatMap text)[place]? = some c := by
  obtain ⟨front, back, rfl, -, rfl, hc⟩ := exists_pieces_of_looseBracket?_eq_some h
  rw [List.flatMap_append, getElem?_length_append]
  exact ⟨hc, rfl⟩

end Piece

namespace Segment

variable {selector? : Option Text} {offset? : Option Int} {raw : Text} {fault : Malformed}

/-- The faults of a segment that stands at `offset?` in the selector: a bracket that holds no
attribute, a bracket out of place, and a tag that is no name. -/
inductive IsFault (selector? : Option Text) (offset? : Option Int) (raw : Text) :
    Malformed → Prop where
  | nameless {place : Nat} {body : Text} {reason : Reason}
      (h : IsFaultyBracket raw place (bracketed body) reason) :
      IsFault selector? offset? raw
        (bracketFault selector? (positionBehind offset? place) body reason)
  | loose {place : Nat} {c : Char} (hc : c = openBracket ∨ c = closeBracket)
      (hplace : raw[place]? = some c) :
      IsFault selector? offset? raw ⟨selector?.getD raw, looseBracketReason c,
        some ⟨some (selector?.getD raw), some raw, positionBehind offset? place⟩⟩
  | tag {name : Text} (hname : isTag name = false) :
      IsFault selector? offset? raw ⟨selector?.getD raw, .invalidName .tag name,
        some ⟨some (selector?.getD raw), some raw, offset?⟩⟩

private theorem eq_of_readTag_eq_error {selector leading : Text}
    (h : readTag selector offset? raw leading = .error fault) :
    isTag (trim leading) = false ∧
      fault = ⟨selector, .invalidName .tag (trim leading),
        some ⟨some selector, some raw, offset?⟩⟩ := by
  rw [readTag] at h
  split at h
  · exact absurd h ok_ne_error
  · next hempty =>
    split at h
    · exact absurd h ok_ne_error
    · next hsplice =>
      cases hname : isName (trim leading) with
      | true =>
        rw [checkName_of_isName _ _ _ _ hname] at h
        exact absurd h ok_ne_error
      | false =>
        rw [checkName_of_not_isName _ _ _ _ hname] at h
        exact ⟨by simp [isTag, hempty, hsplice, hname], (Except.error.inj h).symm⟩

/-- Reading a segment fails at a decoration, at a loose bracket or at the tag. -/
theorem read_eq_error_cases (h : read selector? offset? raw = .error fault) :
    Piece.decorations selector? offset? (Piece.scan raw) = .error fault ∨
      (∃ place c, Piece.looseBracket? (Piece.scan raw) = some (place, c) ∧
        fault = ⟨selector?.getD raw, looseBracketReason c,
          some ⟨some (selector?.getD raw), some raw, positionBehind offset? place⟩⟩) ∨
      ∃ name, isTag name = false ∧ fault = ⟨selector?.getD raw, .invalidName .tag name,
        some ⟨some (selector?.getD raw), some raw, offset?⟩⟩ := by
  rcases bind_eq_error_iff.mp h with hdecorations | ⟨decorations, -, h⟩
  · exact .inl hdecorations
  · cases hloose : Piece.looseBracket? (Piece.scan raw) with
    | some found =>
      rw [hloose] at h
      exact .inr (.inl ⟨found.1, found.2, rfl, (Except.error.inj h).symm⟩)
    | none =>
      rw [hloose] at h
      rcases bind_eq_error_iff.mp h with htag | ⟨tag?, -, hok⟩
      · exact .inr (.inr ⟨_, eq_of_readTag_eq_error htag⟩)
      · exact absurd hok ok_ne_error

/-- Reading a segment fails with one of its faults. -/
theorem isFault_of_read_eq_error (h : read selector? offset? raw = .error fault) :
    IsFault selector? offset? raw fault := by
  have htext := Piece.flatMap_text_scan raw
  rcases read_eq_error_cases h with hdecorations | ⟨place, c, hloose, rfl⟩ | ⟨name, hname, rfl⟩
  · obtain ⟨place, body, reason, hmem, hparts, hstands, rfl⟩ :=
      Piece.exists_bracket_of_decorations_eq_error hdecorations
    rw [htext] at hstands
    exact .nameless ⟨body, Piece.wellFormed_of_bracket_mem_scan hmem, rfl, hparts, hstands⟩
  · obtain ⟨hc, hplace⟩ := Piece.getElem?_of_looseBracket?_eq_some hloose
    rw [htext] at hplace
    exact .loose hc hplace
  · exact .tag hname

end Segment
end Shorthand
