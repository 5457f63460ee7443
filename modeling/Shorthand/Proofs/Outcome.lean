/-!
# Outcomes

Laws of computations that end with a value or a fault. The main statements say when two of them one
after the other end with a value, and when with a fault.
-/

namespace Shorthand

variable {ε α β : Type} {x : Except ε α} {f : α → Except ε β} {fault : ε}

/-- Two computations one after the other succeed exactly if the first does, and then the second. -/
theorem bind_eq_ok_iff {b : β} : x >>= f = .ok b ↔ ∃ a, x = .ok a ∧ f a = .ok b := by
  cases x with
  | error fault => exact ⟨nofun, nofun⟩
  | ok a => exact ⟨fun h ↦ ⟨a, rfl, h⟩, fun ⟨a', ha, h⟩ ↦ Except.ok.inj ha ▸ h⟩

/-- Two computations one after the other fail exactly if the first does, or it succeeds and then the
second does. -/
theorem bind_eq_error_iff :
    x >>= f = .error fault ↔ x = .error fault ∨ ∃ a, x = .ok a ∧ f a = .error fault := by
  cases x <;> simp [bind, Except.bind]

/-- A computation that succeeds does not fail. -/
theorem ok_ne_error {a : α} : (.ok a : Except ε α) ≠ .error fault := nofun

/-- A value that can be taken out has been reached without a fault. -/
theorem eq_ok_of_toOption {a : α} (h : x.toOption = some a) : x = .ok a := by
  cases x with
  | error fault => exact absurd h nofun
  | ok b => exact congrArg _ (Option.some.inj h)

/-- The fault that a computation ends with, if it fails. -/
def fault? : Except ε α → Option ε
  | .error fault => some fault
  | .ok _ => none

/-- A fault that can be taken out is what the computation fails with. -/
theorem eq_error_of_fault? (h : fault? x = some fault) : x = .error fault := by
  cases x with
  | error other => exact congrArg _ (Option.some.inj h)
  | ok a => exact absurd h.symm (Option.some_ne_none fault)

end Shorthand
