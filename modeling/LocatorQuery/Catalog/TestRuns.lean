import LocatorQuery.Catalog.Builds
import LocatorQuery.Item.TestRun
import LocatorQuery.Query.Condition

/-! The finder of test runs. Nested build locators are asked of a finder of builds. -/
namespace LocatorQuery

namespace TestRun

/-- The id and the name that `(id:..,name:..)` asks for. -/
def testParts : Reading (Option UInt64 × Option String) := do
  let id ← match ← Reading.value "id" with
    | none => pure none
    | some text =>
      match Text.word? text.toList with
      | some id => pure (some id)
      | none => throw (.badValue "test" text .notId)
  let name ← Reading.value "name"
  Reading.finish ["id", "name"]
  return (id, name)

/-- A test by its id, or by a nested locator. -/
def ofTest : Criterion TestRun where
  name := "test"
  summary := "test id or (id:..,name:..)"
  test raw :=
    match Text.word? raw.toList with
    | some id => .ok (some fun r => r.testId == id)
    | none => do
      match ← Locator.parse raw with
      | .single .. => throw (.badValue "test" raw .notTestId)
      | l =>
        let (id, name) ← testParts.answer l
        return some fun r => id.all (r.testId == ·) && name.all (r.name == ·)

/-- The duration is compared as a signed number of 64 bits. -/
def lasting : Criterion TestRun where
  name := "duration"
  summary := "duration in ms: n, any or (condition:..,value:..)"
  test raw := do
    let some condition ← Condition.parse "duration" raw | return none
    return some fun r => condition.accepts (Text.signed r.durationMs.toNat)

def inBuild (builds : Finder Build) : Criterion TestRun where
  name := "build"
  summary := "build id or nested build locator"
  test raw := do
    let ids ← builds.buildIds (← Locator.parse raw)
    return some fun r => ids.contains r.buildId

/-- Runs in any build of a configuration, finished or not. -/
def inBuildType (builds : Finder Build) : Criterion TestRun where
  name := "buildType"
  summary := "build configuration id"
  test raw := do
    let ids ← builds.buildIds (← Locator.ofPairs [("buildType", raw), ("finished", "any")])
    return some fun r => ids.contains r.buildId

/-- The cheap criteria come first, those that ask another finder last. -/
def criteria (builds : Finder Build) : List (Criterion TestRun) :=
  [.status "status" status,
    .flag "muted" muted,
    .flag "ignored" (fun r => r.status == .unknown),
    .flag "newFailure" newFailure,
    .text "name" "full test name" name,
    ofTest,
    lasting,
    inBuild builds,
    inBuildType builds]

end TestRun

def Finder.ofTestRuns (source : List TestRun) (builds : Finder Build) (settings : Settings) :
    Finder TestRun where
  name := "testOccurrences"
  source
  key r := toString r.id
  criteria := TestRun.criteria builds
  settings

end LocatorQuery
