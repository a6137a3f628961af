import LocatorQuery.Catalog.Basic
import LocatorQuery.Scope.Level

/-! The methods of the service and what it says about itself. -/
namespace LocatorQuery

inductive Method
  | help
  | listMethods
  | parseLocator
  | findOne
  | findMany
  | groupInto
  | testScopes
  deriving DecidableEq, Repr

namespace Method

def all : List Method :=
  [help, listMethods, parseLocator, findOne, findMany, groupInto, testScopes]

def name : Method → String
  | help => "help"
  | listMethods => "list_methods"
  | parseLocator => "parse_locator"
  | findOne => "find_one"
  | findMany => "find_many"
  | groupInto => "group_into"
  | testScopes => "test_scopes"

def names : List String := all.map name

def ofName? (name : String) : Option Method := all.find? fun m => m.name == name

def summary : Method → String
  | help => "Show RPC help, finder dimensions, and examples."
  | listMethods => "List supported methods with short descriptions."
  | parseLocator => "Parse a locator and echo its dimensions and canonical form."
  | findOne => "Resolve a locator that must match exactly one item."
  | findMany => "Evaluate a collection locator and return one page of matches."
  | groupInto => "Group test occurrences into package, suite or class scopes."
  | testScopes => "Test-occurrence locator with a scope:(type:..) dimension, grouped."

/-- The parameters that matter most. -/
def keyParams : Method → List String
  | help => []
  | listMethods => ["format (details|names)"]
  | parseLocator => ["locator"]
  | findOne => ["finder", "locator"]
  | findMany => ["finder", "locator"]
  | groupInto => ["scope", "locator", "filter"]
  | testScopes => ["locator"]

def toJson (m : Method) : Json :=
  let params := if m.keyParams.isEmpty then [] else [("key_params", Json.strings m.keyParams)]
  .object ([("name", .string m.name), ("summary", .string m.summary)] ++ params)

/-- Every method with its summary, and the names alone. -/
def listing : Json :=
  .object [("methods", .array (all.map toJson)), ("names", .strings names)]

end Method

def Finder.summariesJson {α : Type} (f : Finder α) : Json :=
  .array <| f.summaries.map fun (name, summary) =>
    .object [("name", .string name), ("description", .string summary)]

def Catalog.summariesJson (c : Catalog) : FinderKind → Json
  | .builds => c.builds.summariesJson
  | .testRuns => c.testRuns.summariesJson
  | .problems => c.problems.summariesJson

namespace Help

def sample (method : Method) (params : List (String × String)) : Json :=
  .object
    [("method", .string method.name),
      ("params", .object (params.map fun (name, value) => (name, .string value)))]

def samples : List Json :=
  [sample .parseLocator [("locator", "buildType:Core,status:FAILURE,count:5")],
    sample .findOne [("finder", "builds"), ("locator", "42")],
    sample .findMany
      [("finder", "testOccurrences"),
        ("locator", "build:(buildType:Core),status:FAILURE,start:0,count:20")],
    sample .groupInto
      [("scope", "package"), ("locator", "build:42"),
        ("filter", "failed:(condition:more-than,value:0)")],
    sample .testScopes
      [("locator", "build:42,scope:(type:class,failed:(condition:more-than,value:0))")]]

def commands : List String :=
  ["locq parse 'buildType:Core,tag:(nightly)'",
    "locq find --data dataset.json --finder builds --locator 'status:FAILURE'",
    "locq group --data dataset.json --scope suite --locator 'build:42'",
    "locq request --data dataset.json --method find_one --params " ++
      "'\x7b\"finder\":\"builds\",\"locator\":\"42\"\x7d'",
    "locq serve --data dataset.json"]

end Help

/-- All that the service says about itself. -/
def Catalog.help (c : Catalog) : Json :=
  .object
    [("summary", .string <| "locq evaluates locator strings against builds, test occurrences " ++
        "and build problems, and serves JSONL RPC over stdin/stdout."),
      ("locator_syntax", .string <| "name:value,name:(nested:value,...); a bare value is an id; " ++
        "$base64:<url-safe> escapes values with unbalanced parentheses"),
      ("paging", .string <| "start, count (-1 for unbounded), lookupLimit; results carry " ++
        "next_start when more matches exist"),
      ("methods", .strings Method.names),
      ("method_docs", .array (Method.all.map Method.toJson)),
      ("finders", .object (FinderKind.all.map fun kind => (kind.name, c.summariesJson kind))),
      ("scopes", .strings ScopeLevel.names),
      ("examples", .array Help.samples),
      ("cli_examples", .strings Help.commands)]

end LocatorQuery
