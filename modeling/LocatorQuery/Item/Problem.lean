import LocatorQuery.Schema.Basic

/-! Problems that occurred in a build. -/
namespace LocatorQuery

structure Problem where
  id : UInt64
  buildId : UInt64
  type : String
  /-- Tells apart the problems of one type. -/
  identity : String
  details : String := ""
  muted : Bool := false
  deriving DecidableEq, Repr

namespace Problem

def fields : Fields (UInt64 × UInt64 × String × String × String × Bool × Unit) :=
  .cons { name := "id" } .word <|
  .cons { name := "build_id" } .word <|
  .cons { name := "type" } .text <|
  .cons { name := "identity" } .text <|
  .cons { name := "details", absent := some "" } .text <|
  .cons { name := "muted", absent := some false } .flag .nil

def schema : Schema Problem :=
  .record "ProblemOccurrence" fields
    (fun (id, buildId, type, identity, details, muted, _) =>
      { id, buildId, type, identity, details, muted })
    (fun p => (p.id, p.buildId, p.type, p.identity, p.details, p.muted, ()))

end Problem

end LocatorQuery
