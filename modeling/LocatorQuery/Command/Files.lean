import LocatorQuery.Schema.FromJson
import LocatorQuery.Schema.FromYaml
import LocatorQuery.Service.Failure

/-! Files by path, and the dataset that one of them holds. -/
namespace LocatorQuery

/-- What there is to read under a path. -/
abbrev Files := String → Except FileFault String

namespace Path

/-- The names on the way to a file; dots for the directory itself do not count. -/
def parts (path : String) : List String :=
  (path.splitOn "/").filter fun part => part != "" && part != "."

/-- The part of a file's name behind its last dot, in lower case. A name that starts with its only
dot has none. -/
def extension (path : String) : String :=
  match (parts path).getLast? with
  | none => ""
  | some name =>
    let cs := name.toList
    let last := (cs.reverse.takeWhile (· != '.')).reverse
    if name = ".." || last.length = cs.length || last.length + 1 = cs.length then ""
    else (String.ofList last).toLower

end Path

def Files.read (files : Files) (path : String) : Result String :=
  Result.during (.reading path) ((files path).mapError .file)

namespace Dataset

def ofJson (text : String) : Result Dataset :=
  (Result.ofData (schema.ofText text)).during .parsingJson

def ofYaml (text : String) : Result Dataset :=
  Result.during .parsingYaml <|
    match schema.ofYaml? text with
    | some d => .ok d
    | none => .error .yaml

/-- The dataset of a file, in the format that its extension names. -/
def load (files : Files) (path : String) : Result Dataset := do
  let content ← files.read path
  match Path.extension path with
  | "yaml" | "yml" => (ofYaml content).during (.loading path)
  | "json" | "" => (ofJson content).during (.loading path)
  | extension => throw (.unsupportedFormat extension path)

end Dataset

end LocatorQuery
