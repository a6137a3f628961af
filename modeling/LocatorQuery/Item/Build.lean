import LocatorQuery.Item.Status
import LocatorQuery.Schema.Basic

/-! Builds of a build configuration. -/
namespace LocatorQuery

def Status.schema : Schema Status := .choice (Status.all.map fun s => (s.name, s)) Status.name

structure Build where
  id : UInt64
  buildType : String
  number : String
  /-- None on the default branch. -/
  branch : Option String := none
  status : Status
  finished : Bool := true
  tags : List String := []
  deriving DecidableEq, Repr

namespace Build

def fields : Fields
    (UInt64 × String × String × Option String × Status × Bool × List String × Unit) :=
  .cons { name := "id" } .word <|
  .cons { name := "build_type" } .text <|
  .cons { name := "number" } .text <|
  .cons { name := "branch", absent := some none, hidden := Option.isNone } (.optional .text) <|
  .cons { name := "status" } Status.schema <|
  .cons { name := "finished", absent := some true } .flag <|
  .cons { name := "tags", absent := some [], hidden := List.isEmpty } (.list .text) .nil

def schema : Schema Build :=
  .record "Build" fields
    (fun (id, buildType, number, branch, status, finished, tags, _) =>
      { id, buildType, number, branch, status, finished, tags })
    (fun b => (b.id, b.buildType, b.number, b.branch, b.status, b.finished, b.tags, ()))

/-- The branch under which a query finds a build. -/
def branchName (b : Build) : String := b.branch.getD "default"

end Build

end LocatorQuery
