import LocatorQuery.Text.Blank

/-! The outcome of a build or of a test run. -/
namespace LocatorQuery

/-- An unknown outcome is that of an ignored run. -/
inductive Status
  | success
  | failure
  | unknown
  deriving DecidableEq, Repr

namespace Status

def all : List Status := [success, failure, unknown]

def name : Status → String
  | success => "SUCCESS"
  | failure => "FAILURE"
  | unknown => "UNKNOWN"

/-- The words a query may use, blanks around them and their case aside. -/
def ofWord? (raw : String) : Option Status :=
  match (Text.trimmed raw).toLower with
  | "success" | "passed" | "ok" => some success
  | "failure" | "failed" | "error" => some failure
  | "unknown" | "ignored" => some unknown
  | _ => none

end Status

end LocatorQuery
