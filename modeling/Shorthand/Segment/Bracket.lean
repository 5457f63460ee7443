import Shorthand.Name

/-!
# Attributes in brackets

The body of a bracket is an attribute name, optionally followed by an equals sign and a
value. The name stands between blanks, the value is everything behind the first equals sign
as it stands. A bracket is closed before another one opens.
-/

namespace Shorthand

open Text

/-- A bracket body with its brackets. -/
def bracketed (body : Text) : Text := openBracket :: body ++ [closeBracket]

/-- The body of a bracket that has just been opened, if it is closed before another opens. -/
def bracketBody? : Text → Option Text
  | [] => none
  | c :: rest =>
    if c = closeBracket then some []
    else if c = openBracket then none
    else (bracketBody? rest).map (c :: ·)

/-- The name and the value in a bracket body. -/
def attributeParts (body : Text) : Except Reason (Text × Option Text) :=
  let (name, value?) := cutAt '=' body
  if trim name = [] then .error .emptyAttributeName
  else if isName (trim name) then .ok (trim name, value?)
  else .error (.invalidName .attribute (trim name))

/-- A fault in a bracket that stands at `offset?` in the selector. Without a selector the
bracket itself is reported in its place; only an empty name is located in no selector then. -/
def bracketFault (selector? : Option Text) (offset? : Option Int) (body : Text)
    (reason : Reason) : Malformed :=
  let selector := selector?.getD (bracketed body)
  let located? := if reason = .emptyAttributeName then selector? else some selector
  ⟨selector, reason, some ⟨located?, some (bracketed body), offset?⟩⟩

/-- Read the body of a bracket that stands at `offset?` in the selector. -/
def readBracket (selector? : Option Text) (offset? : Option Int) (body : Text) :
    Except Malformed (Text × Option Text) :=
  (attributeParts body).mapError (bracketFault selector? offset? body)

/-- A body is found exactly if the text begins with it, it holds no bracket, and the closing
bracket follows. -/
theorem bracketBody?_eq_some_iff {rest body : Text} :
    bracketBody? rest = some body ↔
      openBracket ∉ body ∧ closeBracket ∉ body ∧ ∃ after, rest = body ++ closeBracket :: after := by
  induction rest generalizing body with
  | nil => simp [bracketBody?]
  | cons c rest ih =>
    rw [bracketBody?]
    split
    · next hc =>
      subst hc
      constructor
      · intro h
        obtain rfl : body = [] := by simpa using h.symm
        simp
      · rintro ⟨-, hclose, after, hafter⟩
        cases body with
        | nil => rfl
        | cons d inner =>
          simp only [List.cons_append, List.cons.injEq] at hafter
          exact absurd hafter.1 (by simp at hclose; exact hclose.1)
    · next hc =>
      split
      · next ho =>
        subst ho
        constructor
        · intro h; simp at h
        · rintro ⟨hopen, -, after, hafter⟩
          cases body with
          | nil => simp at hafter; exact absurd hafter.1 hc
          | cons d inner =>
            simp only [List.cons_append, List.cons.injEq] at hafter
            exact absurd hafter.1 (by simp at hopen; exact hopen.1)
      · next ho =>
        rw [Option.map_eq_some_iff]
        constructor
        · rintro ⟨inner, hinner, rfl⟩
          obtain ⟨hopen, hclose, after, rfl⟩ := ih.mp hinner
          exact ⟨by simp [hopen, Ne.symm ho], by simp [hclose, Ne.symm hc], after, rfl⟩
        · rintro ⟨hopen, hclose, after, hafter⟩
          cases body with
          | nil => simp at hafter; exact absurd hafter.1 hc
          | cons d inner =>
            simp only [List.cons_append, List.cons.injEq] at hafter
            obtain ⟨rfl, rfl⟩ := hafter
            simp only [List.mem_cons, not_or] at hopen hclose
            exact ⟨inner, ih.mpr ⟨hopen.2, hclose.2, after, rfl⟩, rfl⟩

end Shorthand
