import LocatorQuery.Catalog.TestRuns
import LocatorQuery.Catalog.Problems
import LocatorQuery.Item.Dataset

/-! Catalogs: the three finders over one dataset. -/
namespace LocatorQuery

structure Catalog where
  builds : Finder Build
  testRuns : Finder TestRun
  problems : Finder Problem

/-- The finders of test runs and of problems share the finder of builds. -/
def Catalog.ofDataset (d : Dataset) (settings : Settings) : Catalog :=
  let builds := Finder.ofBuilds d.builds settings
  { builds
    testRuns := .ofTestRuns d.testRuns builds settings
    problems := .ofProblems d.problems builds settings }

/-- Which finder a request is for. -/
inductive FinderKind
  | builds
  | testRuns
  | problems
  deriving DecidableEq, Repr

namespace FinderKind

def all : List FinderKind := [builds, testRuns, problems]

def name : FinderKind → String
  | builds => "builds"
  | testRuns => "testOccurrences"
  | problems => "problemOccurrences"

/-- The kind that a name or a short form of it stands for; blanks around it do not count. -/
def ofName? (raw : String) : Option FinderKind :=
  match Text.trimmed raw with
  | "builds" | "build" => some builds
  | "testOccurrences" | "tests" | "test" => some testRuns
  | "problemOccurrences" | "problems" | "problem" => some problems
  | _ => none

end FinderKind

end LocatorQuery
