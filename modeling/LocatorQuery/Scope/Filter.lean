import LocatorQuery.Query.Condition
import LocatorQuery.Scope.Level
import LocatorQuery.Scope.Counters

/-! Scope filters: conditions on the key and the counters of a bucket. -/
namespace LocatorQuery

structure ScopeFilter where
  level : Option ScopeLevel := none
  /-- The exact key of the buckets to keep. -/
  value : Option String := none
  conditions : List (Counter × Condition) := []
  deriving DecidableEq, Repr

namespace ScopeFilter

def typeName : String := "type"

def valueName : String := "value"

/-- The dimensions of a filter. -/
def names : List String := typeName :: valueName :: Counter.all.map Counter.name

/-- The conditions on some counters; those set to `any` have none. -/
def readConditions (text : String) : List Counter → Reading (List (Counter × Condition))
  | [] => return []
  | counter :: rest => do
    let found ← match ← Reading.value counter.name with
      | none => pure none
      | some raw =>
        match Condition.parse counter.name raw with
        | .ok condition => pure (condition.map (counter, ·))
        | .error e => throw (.badFilter text (.nested e.message))
    return found.toList ++ (← readConditions text rest)

/-- Refuses what is left over, telling unknown names from repeated ones. -/
def checkLeftover (text : String) : Reading Unit := do
  let unused := (← Reading.whole).unused
  if unused.isEmpty then return ()
  let (repeated, unknown) := unused.partition names.contains
  throw (.badFilter text (.leftover unknown repeated names))

def ofDimensions (text : String) : Reading ScopeFilter := do
  let level ← match ← Reading.value typeName with
    | none => pure none
    | some raw => some <$> Reading.ofExcept (ScopeLevel.parse raw)
  let value ← Reading.value valueName
  let conditions ← readConditions text Counter.all
  checkLeftover text
  return { level, value, conditions }

/-- The filter that a text spells: none for a blank one, the key for a lone value. -/
def parse (text : String) : Except LocatorError ScopeFilter :=
  if Text.isBlankText text then .ok {}
  else match Locator.parse text with
    | .error e => .error (.badFilter text (.nested e.message))
    | .ok (.single value _) => .ok { value := some value }
    | .ok l => (ofDimensions text).answer l

/-- Keeps the buckets with a failure that is not muted. -/
def failedOnly : ScopeFilter := { conditions := [(.failed, ⟨.moreThan, 0⟩)] }

/-- A level alone keeps every bucket. -/
def isEmpty (f : ScopeFilter) : Bool := f.value.isNone && f.conditions.isEmpty

def accepts (f : ScopeFilter) (key : String) (counters : Counters) : Bool :=
  f.value.all (· == key) &&
    f.conditions.all fun (counter, condition) =>
      condition.accepts (Text.signed (counter.read counters))

end ScopeFilter

end LocatorQuery
