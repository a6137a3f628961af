import LocatorQuery.Item.TestRun
import LocatorQuery.Item.Problem

/-! Datasets: the items that queries range over, in source order. -/
namespace LocatorQuery

structure Dataset where
  builds : List Build := []
  testRuns : List TestRun := []
  problems : List Problem := []
  deriving DecidableEq, Repr

namespace Dataset

def fields : Fields (List Build × List TestRun × List Problem × Unit) :=
  .cons { name := "builds", absent := some [] } (.list Build.schema) <|
  .cons { name := "test_runs", otherName := some "tests", absent := some [] }
    (.list TestRun.schema) <|
  .cons { name := "problems", absent := some [] } (.list Problem.schema) .nil

def schema : Schema Dataset :=
  .record "Dataset" fields
    (fun (builds, testRuns, problems, _) => { builds, testRuns, problems })
    (fun d => (d.builds, d.testRuns, d.problems, ()))

end Dataset

end LocatorQuery
