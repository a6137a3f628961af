import LocatorQuery.Command.Arguments
import LocatorQuery.Command.Environment
import LocatorQuery.Command.Files
import LocatorQuery.Service.Session

/-! What the program does with its arguments, variables, files and input. -/
namespace LocatorQuery

structure Outcome where
  exitCode : UInt8
  stdout : String := ""
  stderr : String := ""
  deriving DecidableEq, Repr

namespace Command

def catalog (env : Environment) (files : Files) (path : String) : Result Catalog := do
  let dataset ← Dataset.load files path
  return .ofDataset dataset env.settings

def printed (j : Json) : String := j.indented ++ "\n"

/-- What a command prints. Files are read before locators. -/
def run (env : Environment) (files : Files) (input : List UInt8) : Command → Result String
  | parse locator => do
    return printed (← Catalog.parseLocator locator).sorted
  | find data finder locator one => do
    let c ← catalog env files data
    if one then
      return printed (← Result.ofLocator (c.findOne finder (locator.getD "")))
    else
      return printed (← Result.ofLocator (c.findMany finder locator))
  | group data scope locator filter => do
    let c ← catalog env files data
    let scopes ← Result.ofLocator (c.testRuns.groupInto scope locator filter)
    return printed (Catalog.scopesJson scopes)
  | request data method params paramsFile id => do
    let c ← catalog env files data
    let params ← match paramsFile with
      | some path => files.read path
      | none => pure params
    return (← c.call method params id) ++ "\n"
  | serve data => do
    let c ← catalog env files data
    return String.join ((c.serve input).map (· ++ "\n"))

end Command

/-- A failure for a person to read, with what led to it. -/
def Failure.report (f : Failure) : String :=
  match f.chain with
  | [] => ""
  | [top] => s!"Error: {top}\n"
  | [top, cause] => s!"Error: {top}\n\nCaused by:\n    {cause}\n"
  | top :: causes =>
    s!"Error: {top}\n\nCaused by:\n" ++
      String.join (causes.zipIdx.map fun (cause, i) => s!"    {i}: {cause}\n")

def usage : String :=
  "Locator query engine over builds, test occurrences and build problems\n\n" ++
  "Usage: locq <COMMAND>\n\nCommands:\n" ++
  "  parse LOCATOR\n" ++
  "  find --data FILE --finder FINDER [--locator LOCATOR] [--one]\n" ++
  "  group --data FILE --scope SCOPE [--locator LOCATOR] [--filter FILTER]\n" ++
  "  request --data FILE --method METHOD [--params JSON] [--params-file FILE] [--id ID]\n" ++
  "  serve --data FILE\n"

def Invocation.run (env : Environment) (files : Files) (input : List UInt8) :
    Invocation → Outcome
  | .version => { exitCode := 0, stdout := "locq 0.1.0\n" }
  | .help => { exitCode := 0, stdout := usage }
  | .misuse => { exitCode := 2, stderr := usage }
  | .command c =>
    match c.run env files input with
    | .ok text => { exitCode := 0, stdout := text }
    | .error f => { exitCode := 1, stderr := f.report }

end LocatorQuery
