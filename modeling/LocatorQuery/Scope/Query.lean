import LocatorQuery.Catalog.TestRuns
import LocatorQuery.Scope.Grouping

/-! Queries whose answer is a list of scopes. -/
namespace LocatorQuery

/-- Groups runs at a level given by name. The filter may repeat the level but not name another. -/
def Scope.groupInto (levelName : String) (filterText : Option String) (runs : List TestRun) :
    Except LocatorError (List Scope) := do
  let level ← ScopeLevel.parse levelName
  let filter ← match filterText with
    | some text => ScopeFilter.parse text
    | none => pure {}
  match filter.level with
  | some requested =>
    if requested = level then return group level filter runs
    else throw (.badFilter (filterText.getD "") (.otherType requested.name level.name))
  | none => return group level filter runs

namespace Finder

/-- The dimension of a locator that says how to group what the rest of it selects. -/
def scopeName : String := "scope"

/-- The runs of an optional locator without a page size, or all of them, grouped. -/
def groupInto (f : Finder TestRun) (levelName : String) (locator filterText : Option String) :
    Except LocatorError (List Scope) := do
  let l ← match locator with
    | some text => Locator.parse text
    | none => pure .empty
  let page ← (f.evaluateWith none).answer l
  Scope.groupInto levelName filterText page.entries

/-- What the scope dimension asks for, then the runs that the rest of the locator selects. -/
def readScopes (f : Finder TestRun) : Reading (List Scope) := do
  match ← Reading.values scopeName with
  | [] => throw (.missingDimension [scopeName])
  | [text] =>
    let filter ← Reading.ofExcept (ScopeFilter.parse text)
    match filter.level with
    | none => throw (.badFilter text (.noType ScopeLevel.names))
    | some level => return Scope.group level filter (← f.evaluateWith none).entries
  | _ => throw (.unusedDimensions [scopeName] (f.supported ++ [scopeName]))

/-- The scopes of a locator that names its scope once. -/
def testScopes (f : Finder TestRun) (text : String) : Except LocatorError (List Scope) := do
  f.readScopes.answer (← Locator.parse text)

end Finder

end LocatorQuery
