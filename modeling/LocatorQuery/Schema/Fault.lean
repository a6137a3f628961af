import LocatorQuery.Decimal.Layout
import LocatorQuery.Json.Tree
import LocatorQuery.Text.Quotation

/-! What keeps a document from being a value of its schema. -/
namespace LocatorQuery

/-- What stands in a document where something else was expected. -/
inductive Found
  | null
  | bool (b : Bool)
  | number (n : Number)
  | text (s : String)
  | sequence
  | map
  deriving Repr, BEq

def Found.message : Found → String
  | .null => "null"
  | .bool b => "boolean `" ++ toString b ++ "`"
  | .number (.integer n) => s!"integer `{n}`"
  | .number (.float x) =>
    "floating point `" ++ String.ofList (Decimal.text (Decimal.shortest x.toBits)) ++ "`"
  | .text s => "string " ++ Text.quotation s
  | .sequence => "sequence"
  | .map => "map"

inductive DataFault
  /-- The text is not of the format at all. -/
  | illegible
  | wrongType (found : Found) (expected : String)
  | wrongValue (found : Found) (expected : String)
  | wrongLength (length : Nat) (expected : String)
  | missingField (name : String)
  | repeatedField (name : String)
  | unknownChoice (name : String) (known : List String)
  deriving Repr, BEq

namespace DataFault

def ticked (s : String) : String := "`" ++ s ++ "`"

/-- What is said of a fault, without its place in the text. A text that is not of the format is told of
in words of its reader, for which a mark stands. -/
def message : DataFault → String
  | illegible => "<syntax>"
  | wrongType found expected => s!"invalid type: {found.message}, expected {expected}"
  | wrongValue found expected => s!"invalid value: {found.message}, expected {expected}"
  | wrongLength length expected => s!"invalid length {length}, expected {expected}"
  | missingField name => "missing field " ++ ticked name
  | repeatedField name => "duplicate field " ++ ticked name
  | unknownChoice name known =>
    "unknown variant " ++ ticked name ++ ", expected one of " ++ ", ".intercalate (known.map ticked)

end DataFault

/-- What a tree holds, while it is legible. -/
def Json.Tree.found? : Json.Tree → Option Found
  | .null => some .null
  | .bool b => some (.bool b)
  | .number n => some (.number n)
  | .string s => some (.text s)
  | .array .. => some .sequence
  | .object .. => some .map
  | .unreadable | .broken => none

/-- A tree where something else was expected. -/
def Json.Tree.mismatch {α : Type} (t : Json.Tree) (expected : String) : Except DataFault α :=
  match t.found? with
  | some found => .error (.wrongType found expected)
  | none => .error .illegible

end LocatorQuery
