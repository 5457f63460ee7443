import Shorthand.Template.Fill

/-!
# Argument supplies

A supply hands out arguments one after another, to any number of templates. When a template
asks for more than are left, everything is used up; templates without placeholders can
still be filled afterwards.
-/

namespace Shorthand.Template

/-- Arguments of which the first `consumed` have been handed out. The template names the
supply in faults. -/
structure Supply where
  template? : Option Text
  consumed : Nat
  remaining : List Value
  deriving DecidableEq, Repr

namespace Supply

/-- A supply of arguments none of which has been handed out. -/
def ofArguments (template? : Option Text) (arguments : List Value) : Supply :=
  ⟨template?, 0, arguments⟩

/-- The number of arguments handed out and left. -/
def total (supply : Supply) : Nat := supply.consumed + supply.remaining.length

/-- The fault of asking for more than there is. -/
def exhausted (supply : Supply) : Exhausted := ⟨supply.template?, supply.total⟩

/-- The supply when only `rest` is left of what remains. -/
def leaving (supply : Supply) (rest : List Value) : Supply :=
  { supply with consumed := supply.total - rest.length, remaining := rest }

/-- Hand out the next argument. -/
def next (supply : Supply) : Except Exhausted Value × Supply :=
  match takeArgument supply.remaining with
  | some (value, rest) => (.ok value, supply.leaving rest)
  | none => (.error supply.exhausted, supply)

/-- Fill a row of items from the supply. -/
def fill (policy : Policy) (forest : Forest) (supply : Supply) :
    Except Exhausted Text × Supply :=
  match Template.fill policy forest supply.remaining with
  | some (markup, rest) => (.ok markup, supply.leaving rest)
  | none => (.error supply.exhausted, supply.leaving [])

/-- Expand a template from the supply. A malformed template leaves the supply as it is. -/
def expand (policy : Policy) (template : Text) (supply : Supply) :
    Except Failure Text × Supply :=
  match parse template with
  | .error fault => (.error (.malformed fault), supply)
  | .ok forest =>
    let (outcome, supply) := supply.fill policy forest
    (outcome.mapError .exhausted, supply)

end Supply

/-- Expand a template with arguments of its own. Arguments that are not asked for are
ignored. -/
def expand (policy : Policy) (template : Text) (arguments : List Value) : Except Failure Text :=
  ((Supply.ofArguments (some template) arguments).expand policy template).1

end Shorthand.Template
