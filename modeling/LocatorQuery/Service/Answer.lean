import LocatorQuery.Json.Basic
import LocatorQuery.Query.Page
import LocatorQuery.Scope.Grouping

/-! Answers as JSON. -/
namespace LocatorQuery

def Locator.toJson (l : Locator) : Json :=
  let lone := l.value?.map fun v => ("single_value", Json.string v)
  let items := l.items.map fun d => .object [("name", .string d.name), ("value", .string d.value)]
  .object (lone.toList ++ [("dimensions", .array items)])

/-- A page; what it has nothing to say about is left out, except for the count. -/
def Page.toJson {α : Type} (item : α → Json) (p : Page α) : Json :=
  let next := p.nextStart.map fun n => ("next_start", Json.natural n)
  let limit := p.lookupLimit.map fun n => ("lookup_limit", Json.natural n)
  .object <|
    [("entries", .array (p.entries.map item)),
      ("start", .natural p.start),
      ("count", .ofOption (p.count.map .natural)),
      ("examined", .natural p.examined),
      ("matched", .natural p.matched)] ++
    next.toList ++ limit.toList ++ [("lookup_limit_reached", .bool p.lookupLimitReached)]

def Counters.toJson (c : Counters) : Json :=
  .object (Counter.all.map fun counter => (counter.name, .natural (counter.read c)))

def Scope.toJson (s : Scope) : Json :=
  .object
    [("key", .string s.key),
      ("path", .strings s.path),
      ("members", .array (s.members.map TestRun.schema.write)),
      ("counters", s.counters.toJson)]

end LocatorQuery
