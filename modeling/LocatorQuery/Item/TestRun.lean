import LocatorQuery.Item.Build
import LocatorQuery.Item.TestName

/-! Runs of a test within a build. -/
namespace LocatorQuery

structure TestRun where
  id : UInt64
  testId : UInt64
  /-- The full name, in the convention of `TestName`. -/
  name : String
  buildId : UInt64
  status : Status
  muted : Bool := false
  newFailure : Bool := false
  durationMs : UInt64 := 0
  deriving DecidableEq, Repr

namespace TestRun

def fields : Fields
    (UInt64 × UInt64 × String × UInt64 × Status × Bool × Bool × UInt64 × Unit) :=
  .cons { name := "id" } .word <|
  .cons { name := "test_id" } .word <|
  .cons { name := "name" } .text <|
  .cons { name := "build_id" } .word <|
  .cons { name := "status" } Status.schema <|
  .cons { name := "muted", absent := some false } .flag <|
  .cons { name := "new_failure", absent := some false } .flag <|
  .cons { name := "duration_ms", absent := some 0 } .word .nil

def schema : Schema TestRun :=
  .record "TestRun" fields
    (fun (id, testId, name, buildId, status, muted, newFailure, durationMs, _) =>
      { id, testId, name, buildId, status, muted, newFailure, durationMs })
    (fun r =>
      (r.id, r.testId, r.name, r.buildId, r.status, r.muted, r.newFailure, r.durationMs, ()))

def testName (r : TestRun) : TestName := TestName.parse r.name

end TestRun

end LocatorQuery
