import LocatorQuery.Locator.Written
import LocatorQuery.Locator.Reading

/-! Conditions on a number: `5`, `any`, or `(condition:more-than,value:5)`. -/
namespace LocatorQuery

inductive Comparison
  | equals
  | doesNotEqual
  | moreThan
  | noMoreThan
  | lessThan
  | noLessThan
  deriving DecidableEq, Repr

namespace Comparison

def all : List Comparison := [equals, doesNotEqual, moreThan, noMoreThan, lessThan, noLessThan]

def name : Comparison → String
  | equals => "equals"
  | doesNotEqual => "does-not-equal"
  | moreThan => "more-than"
  | noMoreThan => "no-more-than"
  | lessThan => "less-than"
  | noLessThan => "no-less-than"

def shortName : Comparison → String
  | equals => "eq"
  | doesNotEqual => "ne"
  | moreThan => "gt"
  | noMoreThan => "le"
  | lessThan => "lt"
  | noLessThan => "ge"

/-- Either name, in any case. -/
def ofName? (raw : String) : Option Comparison :=
  all.find? fun c => c.name == raw.toLower || c.shortName == raw.toLower

/-- The relation on integers that a comparison stands for. -/
def holds : Comparison → Int → Int → Prop
  | equals, a, b => a = b
  | doesNotEqual, a, b => a ≠ b
  | moreThan, a, b => a > b
  | noMoreThan, a, b => a ≤ b
  | lessThan, a, b => a < b
  | noLessThan, a, b => a ≥ b

instance (c : Comparison) (a b : Int) : Decidable (c.holds a b) := by
  cases c <;> unfold holds <;> infer_instance

end Comparison

/-- A comparison with a fixed right operand. -/
structure Condition where
  comparison : Comparison
  operand : Int
  deriving DecidableEq, Repr

namespace Condition

def accepts (c : Condition) (actual : Int) : Bool := decide (c.comparison.holds actual c.operand)

/-- The long form, once its text is known to be a list of dimensions. -/
def ofDimensions (dimension raw : String) : Reading Condition := do
  let comparison ← match ← Reading.value "condition" with
    | none => pure .equals
    | some name =>
      match Comparison.ofName? name with
      | some c => pure c
      | none =>
        throw (.badValue dimension raw
          (.unknownComparison name (Comparison.all.map Comparison.name)))
  let operand ← match ← reporting (Reading.integer "value") with
    | some n => pure n
    | none => throw (.badValue dimension raw .noOperand)
  reporting (Reading.finish ["condition", "value"])
  return { comparison, operand }
where
  reporting {α : Type} (r : Reading α) : Reading α :=
    tryCatch r fun e => throw (.badValue dimension raw (.nested e.message))

/-- The condition that a value spells; `any` is no condition. -/
def parse (dimension raw : String) : Except LocatorError (Option Condition) :=
  if raw.toLower = "any" then .ok none
  else match Text.integer? raw.toList with
    | some n => .ok (some ⟨.equals, n⟩)
    | none =>
      match Locator.parse raw with
      | .error e => .error (.badValue dimension raw (.nested e.message))
      | .ok (.single ..) => .error (.badValue dimension raw .notCondition)
      | .ok l => ((ofDimensions dimension raw).answer l).map some

end Condition

end LocatorQuery
