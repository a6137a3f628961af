import LocatorQuery.Item.TestRun
import LocatorQuery.Scope.Filter

/-! Grouping of test runs into scopes, in the order in which their keys are first seen. -/
namespace LocatorQuery

structure Scope where
  key : String
  /-- The keys of the enclosing scopes, outermost first. -/
  path : List String
  members : List TestRun
  counters : Counters
  deriving DecidableEq, Repr

namespace Scope

/-- The members are kept latest first while a scope is filled. -/
def add (run : TestRun) (s : Scope) : Scope :=
  { s with members := run :: s.members, counters := s.counters.record run.status run.muted }

def insert (path : List String) (key : String) (run : TestRun) : List Scope → List Scope
  | [] => [add run { key, path, members := [], counters := {} }]
  | s :: rest => if s.key = key then add run s :: rest else s :: insert path key run rest

/-- One pass over the runs: a scope for each key. -/
def collect (path : List String) (key : TestRun → String) (runs : List TestRun) : List Scope :=
  (runs.foldl (fun scopes run => insert path (key run) run scopes) []).map fun s =>
    { s with members := s.members.reverse }

/-- The scopes of a key that a filter accepts. -/
def groupBy (key : TestRun → String) (filter : ScopeFilter) (runs : List TestRun) : List Scope :=
  (collect [] key runs).filter fun s => filter.accepts s.key s.counters

/-- The runs of each scope of the given levels, with the keys that lead there. -/
def frontier (runs : List TestRun) : List ScopeLevel → List (List String × List TestRun)
  | levels => levels.foldl (fun groups level =>
      groups.flatMap fun (path, members) =>
        (collect path (fun run => level.key run.testName) members).map fun s =>
          (s.path ++ [s.key], s.members)) [([], runs)]

/-- The scopes of a level, grouped within those of the levels around it. Only the scopes of the last
level are filtered. -/
def group (level : ScopeLevel) (filter : ScopeFilter) (runs : List TestRun) : List Scope :=
  ((frontier runs level.outer).flatMap fun (path, members) =>
    collect path (fun run => level.key run.testName) members).filter fun s =>
      filter.accepts s.key s.counters

end Scope

end LocatorQuery
