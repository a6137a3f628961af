import LocatorQuery.Catalog.Builds
import LocatorQuery.Item.Problem

/-! The finder of build problems. -/
namespace LocatorQuery

namespace Problem

/-- The type and the identity that `(type:..,identity:..)` asks for. -/
def kindParts : Reading (Option String × Option String) := do
  let type ← Reading.value "type"
  let identity ← Reading.value "identity"
  Reading.finish ["type", "identity"]
  return (type, identity)

def ofKind : Criterion Problem where
  name := "problem"
  summary := "(type:..,identity:..)"
  test raw := do
    match ← Locator.parse raw with
    | .single .. => throw (.badValue "problem" raw .notProblem)
    | l =>
      let (type, identity) ← kindParts.answer l
      if type.isNone && identity.isNone then return none
      return some fun p => type.all (p.type == ·) && identity.all (p.identity == ·)

def inBuild (builds : Finder Build) : Criterion Problem where
  name := "build"
  summary := "build id or nested build locator"
  test raw := do
    let ids ← builds.buildIds (← Locator.parse raw)
    return some fun p => ids.contains p.buildId

def criteria (builds : Finder Build) : List (Criterion Problem) :=
  [.text "type" "problem type, e.g. TC_COMPILATION_ERROR" type,
    .text "identity" "problem identity within its type" identity,
    .flag "muted" muted,
    ofKind,
    inBuild builds]

end Problem

/-- A collection of problems must name a build or a problem. -/
def Finder.ofProblems (source : List Problem) (builds : Finder Build) (settings : Settings) :
    Finder Problem where
  name := "problemOccurrences"
  source
  key p := toString p.id
  criteria := Problem.criteria builds
  requiredAny := ["build", "problem", "type", "identity"]
  settings

end LocatorQuery
