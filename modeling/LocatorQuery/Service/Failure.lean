import LocatorQuery.LocatorError
import LocatorQuery.Schema.Fault
import LocatorQuery.Catalog.Basic

/-! Failures of the program, each with the activities during which it arose. -/
namespace LocatorQuery

/-- Why a file cannot be read. -/
inductive FileFault
  | absent
  | denied
  | directory
  | notDirectory
  | nameTooLong
  /-- The path holds the character that ends every path. -/
  | nulInPath
  | notUtf8
  deriving DecidableEq, Repr

def FileFault.message : FileFault → String
  | .absent => "No such file or directory (os error 2)"
  | .denied => "Permission denied (os error 13)"
  | .directory => "Is a directory (os error 21)"
  | .notDirectory => "Not a directory (os error 20)"
  | .nameTooLong => "File name too long (os error 36)"
  | .nulInPath => "file name contained an unexpected NUL byte"
  | .notUtf8 => "stream did not contain valid UTF-8"

inductive Activity
  | reading (path : String)
  | loading (path : String)
  | parsingJson
  | parsingYaml
  | parsingParams
  | readingParams (method : String)
  | readingRequest
  deriving DecidableEq, Repr

def Activity.message : Activity → String
  | .reading path => "read " ++ path
  | .loading path => "load dataset " ++ path
  | .parsingJson => "parse dataset JSON"
  | .parsingYaml => "parse dataset YAML"
  | .parsingParams => "parse params JSON"
  | .readingParams method => "invalid params for " ++ method
  | .readingRequest => "invalid request"

inductive Failure
  | locator (error : LocatorError)
  | unknownFinder (name : String)
  | unknownMethod (name : String) (known : List String)
  | unsupportedFormat (extension path : String)
  | data (fault : DataFault)
  /-- A YAML document that is no value of its schema. -/
  | yaml
  | file (fault : FileFault)
  | during (activity : Activity) (cause : Failure)
  deriving Repr

namespace Failure

/-- The messages of a failure, the outermost activity first. A mark stands for what the reader of YAML
says in its own words. -/
def chain : Failure → List String
  | locator e => [e.message]
  | unknownFinder name =>
    [s!"unknown finder '{name}' (supported: " ++
      ", ".intercalate (FinderKind.all.map FinderKind.name) ++ ")"]
  | unknownMethod name known =>
    [s!"unknown method '{name}' (supported: " ++ ", ".intercalate known ++ ")"]
  | unsupportedFormat extension path =>
    [s!"unsupported dataset format '{extension}' for {path}"]
  | data fault => [fault.message]
  | yaml => ["<yaml>"]
  | file fault => [fault.message]
  | during activity cause => activity.message :: cause.chain

def message (f : Failure) : String := ": ".intercalate f.chain

/-- Every failure but that of a locator that names nothing is the request's fault. -/
def kind : Failure → LocatorError.Kind
  | locator e => e.kind
  | during _ cause => cause.kind
  | _ => .badRequest

end Failure

/-- Results that a client sees. -/
abbrev Result (α : Type) := Except Failure α

def Result.ofLocator {α : Type} (e : Except LocatorError α) : Result α := e.mapError .locator

def Result.ofData {α : Type} (e : Except DataFault α) : Result α := e.mapError .data

def Result.during {α : Type} (activity : Activity) (r : Result α) : Result α :=
  r.mapError (.during activity)

/-- The kind with a name; a name that is none is reported without the blanks around it. -/
def FinderKind.parse (raw : String) : Result FinderKind :=
  match FinderKind.ofName? raw with
  | some kind => .ok kind
  | none => .error (.unknownFinder (Text.trimmed raw))

end LocatorQuery
