import LocatorQuery.Text.Bytes
import LocatorQuery.Json.Printer
import LocatorQuery.Service.Handler

/-! Requests and responses, one JSON text a line. -/
namespace LocatorQuery

structure Request where
  id : Json := .null
  method : String
  params : Json := .null
  deriving Repr

namespace Request

/-- The values inside a request may go one level less deep than a text may. -/
def schema : Schema Request :=
  .record "RpcRequest"
    (.cons { name := "id", absent := some .null } (.json (Json.maxNesting - 1)) <|
      .cons { name := "method" } .text <|
      .cons { name := "params", absent := some .null } (.json (Json.maxNesting - 1)) .nil)
    (fun (id, method, params, _) => { id, method, params })
    (fun r => (r.id, r.method, r.params, ()))

/-- The request of a line. A line that is no JSON is reported as such, whatever else is wrong. -/
def ofLine (line : String) : Except DataFault Request :=
  match schema.ofText line with
  | .ok r => .ok r
  | .error fault => .error (if (Json.parse? line).isSome then fault else .illegible)

end Request

/-- A response holds either a result or an error. -/
def response (id : Json) : Result Json → Json
  | .ok result => .object [("id", id), ("result", result)]
  | .error failure =>
    .object
      [("id", id),
        ("error", .object
          [("kind", .string failure.kind.name), ("message", .string failure.message)])]

namespace Catalog

def respond (c : Catalog) (r : Request) : String :=
  (response r.id (c.handle r.method r.params)).compact

/-- The response to one request given as texts; an id that is no JSON is a string. -/
def call (c : Catalog) (method params id : String) : Result String :=
  match Json.parse? params with
  | none => .error (.during .parsingParams (.data .illegible))
  | some params =>
    .ok (c.respond { id := (Json.parse? id).getD (.string id), method, params })

def respondLine (c : Catalog) (line : String) : String :=
  match Request.ofLine line with
  | .ok r => c.respond r
  | .error fault =>
    (response .null (.error (.during .readingRequest (.data fault)))).compact

end Catalog

namespace Lines

/-- The first line, without its end, and what follows it if the line has an end. -/
def first : List UInt8 → List UInt8 × Option (List UInt8)
  | [] => ([], none)
  | b :: bs =>
    if b = 10 then ([], some bs)
    else
      let (line, rest) := first bs
      (b :: line, rest)

/-- A carriage return ahead of the end of a line belongs to the end. -/
def withoutReturn (line : List UInt8) : List UInt8 :=
  if line.getLast? = some 13 then line.dropLast else line

theorem length_first_lt {bs line rest : List UInt8} (h : first bs = (line, some rest)) :
    rest.length < bs.length := by
  induction bs generalizing line with
  | nil => simp [first] at h
  | cons b bs ih =>
    unfold first at h
    split at h
    · simp_all
    · have := @ih (first bs).1 (by simp_all [Prod.ext_iff])
      simp
      omega

/-- The lines of an input; the last one need not be ended. -/
def split (bs : List UInt8) : List (List UInt8) :=
  match _found : first bs with
  | (line, some rest) => withoutReturn line :: split rest
  | (line, none) => if line.isEmpty then [] else [line]
termination_by bs.length
decreasing_by exact length_first_lt (by assumption)

end Lines

namespace Catalog

/-- The responses to the lines in turn; a line that is not text ends the session, a blank one has no
response. -/
def respondLines (c : Catalog) : List (List UInt8) → List String
  | [] => []
  | line :: rest =>
    match Text.ofBytes? line with
    | none => []
    | some text =>
      if Text.isBlankText text then c.respondLines rest
      else c.respondLine text :: c.respondLines rest

def serve (c : Catalog) (input : List UInt8) : List String := c.respondLines (Lines.split input)

end Catalog

end LocatorQuery
