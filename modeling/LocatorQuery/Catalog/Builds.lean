import LocatorQuery.Catalog.Criteria
import LocatorQuery.Item.Build

/-! The finder of builds. -/
namespace LocatorQuery

namespace Build

def tagged : Criterion Build where
  name := "tag"
  summary := "tag the build carries; repeatable"
  repeatable := true
  test raw := .ok (some fun b => b.tags.contains raw)

def criteria : List (Criterion Build) :=
  [.text "number" "build number" number,
    .text "buildType" "build configuration id" buildType,
    .status "status" status,
    .text "branch" "branch name, 'default' for builds without one" branchName,
    .flag "finished" finished,
    tagged]

end Build

/-- Without a locator only finished builds are listed. -/
def Finder.ofBuilds (source : List Build) (settings : Settings) : Finder Build where
  name := "builds"
  source
  key b := toString b.id
  criteria := Build.criteria
  defaultLocator := some "finished:true"
  settings

/-- The ids of all builds that a locator selects. -/
def Finder.buildIds (builds : Finder Build) (l : Locator) : Except LocatorError (List UInt64) := do
  let page ← (builds.evaluateWith none).answer l
  return page.entries.map Build.id

end LocatorQuery
