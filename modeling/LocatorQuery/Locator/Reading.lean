import LocatorQuery.Text.Numeral
import LocatorQuery.Locator.Basic

/-! Computations that take values out of a locator. What they took stays taken when they fail. -/
namespace LocatorQuery

/-- A computation over a locator, its answer or error beside the locator that it leaves. -/
abbrev Reading (α : Type) := ExceptT LocatorError (StateM Locator) α

/-- `true` and `false` decide, `any` leaves the question open. -/
def flag? (dimension raw : String) : Except LocatorError (Option Bool) :=
  match raw.toLower with
  | "true" | "yes" => .ok (some true)
  | "false" | "no" => .ok (some false)
  | "any" => .ok none
  | _ => .error (.badValue dimension raw .notFlag)

namespace Reading

def run {α : Type} (r : Reading α) (l : Locator) : Except LocatorError α × Locator :=
  StateT.run (ExceptT.run r) l

/-- The answer alone. -/
def answer {α : Type} (r : Reading α) (l : Locator) : Except LocatorError α := (r.run l).1

/-- A result that does not depend on the locator. -/
def ofExcept {α : Type} (e : Except LocatorError α) : Reading α := ExceptT.mk (pure e)

/-- A step that cannot fail. -/
def step {α : Type} (f : Locator → α × Locator) : Reading α := ExceptT.lift (modifyGet f)

def value (name : String) : Reading (Option String) := step (·.take name)

def values (name : String) : Reading (List String) := step (·.takeAll name)

def lone : Reading (Option String) := step Locator.takeValue

/-- The whole locator, without taking anything. -/
def whole : Reading Locator := step fun l => (l, l)

def natural (name : String) : Reading (Option Nat) := do
  let some raw ← value name | return none
  match Text.natural? raw.toList with
  | some n => return some n
  | none => throw (.badValue name raw .notNatural)

def integer (name : String) : Reading (Option Int) := do
  let some raw ← value name | return none
  match Text.integer? raw.toList with
  | some n => return some n
  | none => throw (.badValue name raw .notInteger)

def flag (name : String) : Reading (Option Bool) := do
  let some raw ← value name | return none
  ofExcept (flag? name raw)

/-- Fails when something is left untaken. -/
def finish (supported : List String) : Reading Unit := do
  let l ← whole
  ofExcept (l.finish supported)

end Reading

end LocatorQuery
