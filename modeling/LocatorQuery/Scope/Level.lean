import LocatorQuery.LocatorError
import LocatorQuery.Item.TestName

/-! Scope levels: packages, the suites within them and the classes within those. -/
namespace LocatorQuery

inductive ScopeLevel
  | package
  | suite
  | testClass
  deriving DecidableEq, Repr

namespace ScopeLevel

def all : List ScopeLevel := [package, suite, testClass]

def name : ScopeLevel → String
  | package => "package"
  | suite => "suite"
  | testClass => "class"

def names : List String := all.map name

/-- The level with a name, blanks around it and its case aside. -/
def parse (raw : String) : Except LocatorError ScopeLevel :=
  match all.find? fun level => level.name == (Text.trimmed raw).toLower with
  | some level => .ok level
  | none => .error (.unsupportedScope raw names)

/-- The levels that enclose a level, outermost first. -/
def outer : ScopeLevel → List ScopeLevel
  | package => []
  | suite => [package]
  | testClass => [package, suite]

/-- The grouping passes that lead to a level, outermost first. -/
def passes (level : ScopeLevel) : List ScopeLevel := level.outer ++ [level]

/-- The part of a test name by which a level groups. -/
def key (level : ScopeLevel) (name : TestName) : String :=
  match level with
  | package => name.package
  | suite => name.suite
  | testClass => name.className

end ScopeLevel

end LocatorQuery
