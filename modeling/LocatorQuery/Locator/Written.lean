import LocatorQuery.Text.Blank
import LocatorQuery.Locator.Value
import LocatorQuery.Locator.Basic

/-! The written form of locators: reading a text as one and writing one as text. -/
namespace LocatorQuery

open Nesting

/-- The name and the raw value of a segment. -/
def Nesting.Segment.split (s : Segment) : Except LocatorError (List Char × List Char) :=
  let fail (fault : TextFault) := .error (.malformed fault (String.ofList s.text))
  if s.text.isEmpty then fail (.emptyDimension s.offset)
  else match cut? ':' 0 s.text with
    | none => fail .noColon
    | some (name, raw) =>
      if name.isEmpty then fail .emptyName
      else if !Dimension.isName name then fail (.invalidName (String.ofList name))
      else .ok (name, raw)

def Nesting.Segment.dimension (s : Segment) : Except LocatorError Dimension := do
  let (name, raw) ← s.split
  let value ← Value.unwrap raw
  return { name := String.ofList name, value := String.ofList value }

namespace Locator

/-- A text without a top-level comma or colon is a lone value, any other a list of dimensions. -/
def parse (text : String) : Except LocatorError Locator :=
  if Text.isBlankText text then .error (.malformed .blank text)
  else do
    let segments ← segments text.toList
    if segments.length = 1 ∧ (cut? ':' 0 text.toList).isNone then
      let value ← Value.unwrap text.toList
      return .ofValue (String.ofList value)
    else
      let items ← segments.mapM Segment.dimension
      return .dimensions items

end Locator

def Dimension.chars (d : Dimension) : List Char :=
  d.name.toList ++ ':' :: Value.wrap d.value.toList

namespace Locator

/-- The canonical text, which does not show what has been taken. -/
def render : Locator → String
  | single v _ => String.ofList (Value.wrapAlone v.toList)
  | dimensions ds => String.ofList ([','].intercalate (ds.map Dimension.chars))

end Locator

end LocatorQuery
