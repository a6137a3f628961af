import LocatorQuery.Query.Finder
import LocatorQuery.Item.Status

/-! Criteria that several finders share. -/
namespace LocatorQuery.Criterion

variable {α : Type}

/-- Exact equality of a text. -/
def text (name summary : String) (get : α → String) : Criterion α where
  name
  summary
  test raw := .ok (some fun item => get item == raw)

def status (name : String) (get : α → Status) : Criterion α where
  name
  summary := "SUCCESS, FAILURE or UNKNOWN"
  test raw :=
    match Status.ofWord? raw with
    | some s => .ok (some fun item => get item == s)
    | none => .error (.badValue name raw .notStatus)

def flag (name : String) (get : α → Bool) : Criterion α where
  name
  summary := "true, false or any"
  test raw := do
    let some b ← flag? name raw | return none
    return some fun item => get item == b

end LocatorQuery.Criterion
