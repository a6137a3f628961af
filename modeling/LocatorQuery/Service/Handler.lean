import LocatorQuery.Schema.FromJson
import LocatorQuery.Scope.Query
import LocatorQuery.Service.Answer
import LocatorQuery.Service.Failure
import LocatorQuery.Service.Method

/-! What the service answers to a method with parameters. -/
namespace LocatorQuery

namespace Params

def listMethods : Schema (Option String × Unit) :=
  .record "ListMethodsParams"
    (.cons { name := "format", absent := some none, omissible := false } (.optional .text) .nil)
    id id

def parseLocator : Schema (String × Unit) :=
  .record "ParseLocatorParams" (.cons { name := "locator" } .text .nil) id id

def findOne : Schema (String × String × Unit) :=
  .record "FindOneParams"
    (.cons { name := "finder" } .text <| .cons { name := "locator" } .text .nil) id id

def findMany : Schema (String × Option String × Unit) :=
  .record "FindManyParams"
    (.cons { name := "finder" } .text <|
      .cons { name := "locator", absent := some none, omissible := false } (.optional .text) .nil)
    id id

def groupInto : Schema (String × Option String × Option String × Unit) :=
  .record "GroupIntoParams"
    (.cons { name := "scope" } .text <|
      .cons { name := "locator", absent := some none, omissible := false } (.optional .text) <|
      .cons { name := "filter", absent := some none, omissible := false } (.optional .text) .nil)
    id id

def testScopes : Schema (String × Unit) :=
  .record "TestScopesParams" (.cons { name := "locator" } .text .nil) id id

/-- The parameters of a method; null stands for none. -/
def read {α : Type} (method : Method) (schema : Schema α) (params : Json) : Result α :=
  let params := match params with
    | .null => .object []
    | j => j
  (Result.ofData (schema.ofJson params)).during (.readingParams method.name)

end Params

namespace Catalog

def listMethods (params : Json) : Result Json := do
  let format ← match params with
    | .null => pure none
    | j =>
      let (format, _) ← Result.ofData (Params.listMethods.ofJson j)
      pure format
  if ["names", "name", "list"].contains (Text.trimmed (format.getD "details")).toLower then
    return .strings Method.names
  else return Method.listing

def parseLocator (text : String) : Result Json := do
  let l ← Result.ofLocator (Locator.parse text)
  return .object [("locator", l.toJson), ("canonical", .string l.render)]

/-- The one item of a locator, members in field order. -/
def findOne (c : Catalog) (kind : FinderKind) (text : String) : Except LocatorError Json :=
  match kind with
  | .builds => Build.schema.write <$> c.builds.findOne text
  | .testRuns => TestRun.schema.write <$> c.testRuns.findOne text
  | .problems => Problem.schema.write <$> c.problems.findOne text

/-- The page of a locator, members in field order. -/
def findMany (c : Catalog) (kind : FinderKind) (text : Option String) :
    Except LocatorError Json :=
  match kind with
  | .builds => (Page.toJson Build.schema.write) <$> c.builds.findMany text
  | .testRuns => (Page.toJson TestRun.schema.write) <$> c.testRuns.findMany text
  | .problems => (Page.toJson Problem.schema.write) <$> c.problems.findMany text

def scopesJson (scopes : List Scope) : Json := .array (scopes.map Scope.toJson)

def answer (c : Catalog) (method : Method) (params : Json) : Result Json :=
  match method with
  | .help => return c.help
  | .listMethods => listMethods params
  | .parseLocator => do
    let (text, _) ← Params.read method Params.parseLocator params
    parseLocator text
  | .findOne => do
    let (finder, text, _) ← Params.read method Params.findOne params
    let kind ← FinderKind.parse finder
    .ofLocator (c.findOne kind text)
  | .findMany => do
    let (finder, text, _) ← Params.read method Params.findMany params
    let kind ← FinderKind.parse finder
    .ofLocator (c.findMany kind text)
  | .groupInto => do
    let (level, locator, filter, _) ← Params.read method Params.groupInto params
    .ofLocator (scopesJson <$> c.testRuns.groupInto level locator filter)
  | .testScopes => do
    let (text, _) ← Params.read method Params.testScopes params
    .ofLocator (scopesJson <$> c.testRuns.testScopes text)

/-- The answer to a method given by name, all members in order of their names. -/
def handle (c : Catalog) (method : String) (params : Json) : Result Json :=
  match Method.ofName? method with
  | some m => Json.sorted <$> c.answer m params
  | none => .error (.unknownMethod method Method.names)

end Catalog

end LocatorQuery
