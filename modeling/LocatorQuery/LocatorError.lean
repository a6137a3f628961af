import LocatorQuery.Text.Base64Url

/-! What can be wrong with a locator, its values and its answer, and the wording of each cause. -/
namespace LocatorQuery

/-- What makes a text no locator. Positions count bytes. -/
inductive TextFault
  | blank
  | unexpectedClose (position : Nat)
  | unclosedOpen (position : Nat)
  | emptyDimension (position : Nat)
  | noColon
  | emptyName
  | invalidName (name : String)
  | looseParenthesis
  | base64 (fault : Text.Base64Url.Fault)
  | notUtf8
  | notExtensible
  deriving DecidableEq, Repr

def TextFault.message : TextFault → String
  | .blank => "locator is empty"
  | .unexpectedClose p => s!"unbalanced ')' at position {p}"
  | .unclosedOpen p => s!"unclosed '(' at position {p}"
  | .emptyDimension p => s!"empty dimension at position {p}"
  | .noColon => "dimension has no ':' separator"
  | .emptyName => "empty dimension name"
  | .invalidName name => s!"invalid dimension name '{name}'"
  | .looseParenthesis => "value contains '(' or ')' outside a single wrapping group"
  | .base64 fault => s!"invalid base64 value: {fault.message}"
  | .notUtf8 => "base64 value is not valid UTF-8"
  | .notExtensible => "cannot add dimensions to a single-value locator"

/-- What makes a dimension's value unusable. -/
inductive ValueFault
  | notNatural
  | notCount
  | notInteger
  | notFlag
  | notStatus
  | notId
  | notTestId
  | notProblem
  | notCondition
  | unknownComparison (name : String) (known : List String)
  | noOperand
  | nested (report : String)
  deriving DecidableEq, Repr

def ValueFault.message : ValueFault → String
  | .notNatural => "expected a non-negative integer"
  | .notCount => "expected a non-negative integer or -1"
  | .notInteger => "expected an integer"
  | .notFlag => "expected true, false or any"
  | .notStatus => "expected SUCCESS, FAILURE or UNKNOWN"
  | .notId => "expected a numeric id"
  | .notTestId => "expected a numeric test id"
  | .notProblem => "expected (type:<type>,identity:<identity>)"
  | .notCondition => "expected a number, 'any' or (condition:<op>,value:<n>)"
  | .unknownComparison name known =>
    s!"unknown condition '{name}', expected one of: " ++ ", ".intercalate known
  | .noOperand => "condition needs a 'value'"
  | .nested report => report

/-- What makes a scope filter unusable. -/
inductive FilterFault
  | nested (report : String)
  | leftover (unknown repeated known : List String)
  | otherType (requested grouping : String)
  | noType (known : List String)
  deriving DecidableEq, Repr

def plural (names : List String) (word : String) : String :=
  if names.length = 1 then word else word ++ "s"

def FilterFault.message : FilterFault → String
  | .nested report => report
  | .leftover unknown repeated known =>
    let strange := if unknown.isEmpty then [] else
      ["unknown filter " ++ plural unknown "key" ++ ": " ++ ", ".intercalate unknown ++
        " (supported: " ++ ", ".intercalate known ++ ")"]
    let twice := if repeated.isEmpty then [] else
      ["filter " ++ plural repeated "key" ++ " given more than once: " ++
        ", ".intercalate repeated]
    "; ".intercalate (strange ++ twice)
  | .otherType requested grouping =>
    s!"filter type '{requested}' does not match grouping scope '{grouping}'"
  | .noType known => "scope needs a type (" ++ ", ".intercalate known ++ ")"

/-- Why a locator has no answer. -/
inductive LocatorError
  | malformed (fault : TextFault) (fragment : String)
  | unusedDimensions (names supported : List String)
  | badValue (dimension value : String) (fault : ValueFault)
  | missingDimension (expected : List String)
  | notFound (locator : String)
  | ambiguous (locator : String) (matched : Nat) (used : List String)
  | unsupportedScope (scope : String) (supported : List String)
  | badFilter (filter : String) (fault : FilterFault)
  deriving DecidableEq, Repr

namespace LocatorError

def message : LocatorError → String
  | malformed fault fragment => s!"malformed locator: {fault.message} (at '{fragment}')"
  | unusedDimensions names supported =>
    "unknown locator " ++ plural names "dimension" ++ ": " ++ ", ".intercalate names ++
      if supported.isEmpty then "" else " (supported: " ++ ", ".intercalate supported ++ ")"
  | badValue dimension value fault =>
    s!"invalid value '{value}' for dimension '{dimension}': {fault.message}"
  | missingDimension expected => "locator must specify one of: " ++ ", ".intercalate expected
  | notFound locator => s!"nothing is found by locator '{locator}'"
  | ambiguous locator matched used =>
    s!"locator '{locator}' matches {matched} items, expected one (dimensions used: " ++
      ", ".intercalate used ++ ")"
  | unsupportedScope scope supported =>
    s!"unsupported scope '{scope}' (supported: " ++ ", ".intercalate supported ++ ")"
  | badFilter filter fault => s!"bad scope filter '{filter}': {fault.message}"

/-- How a client should take an error. -/
inductive Kind
  | badRequest
  | notFound
  deriving DecidableEq, Repr

def Kind.name : Kind → String
  | .badRequest => "bad_request"
  | .notFound => "not_found"

/-- Only a locator that names nothing is no fault of the request. -/
def kind : LocatorError → Kind
  | notFound _ => .notFound
  | _ => .badRequest

end LocatorError

end LocatorQuery
