import LocatorQuery.Catalog.Basic

/-! What the arguments of the program ask for. -/
namespace LocatorQuery

inductive Command
  | parse (locator : String)
  | find (data : String) (finder : FinderKind) (locator : Option String) (one : Bool)
  | group (data scope : String) (locator filter : Option String)
  | request (data method params : String) (paramsFile : Option String) (id : String)
  | serve (data : String)
  deriving Repr

/-- What to do with arguments: a command, a text to show, or nothing because they make no sense. -/
inductive Invocation
  | command (c : Command)
  | version
  | help
  | misuse
  deriving Repr

/-- The options and the operands of a command line; only flags come without a value. -/
structure Arguments where
  options : List (String × String) := []
  flags : List String := []
  operands : List String := []
  deriving Repr

namespace Arguments

/-- Why arguments are not read to their end. -/
inductive Stop
  | help
  | misuse
  deriving DecidableEq, Repr

/-- The values that an option takes. -/
inductive ValueKind
  | text
  | path
  | finder

def ValueKind.accepts : ValueKind → String → Bool
  | text, _ => true
  | path, value => value != ""
  | finder, value => (FinderKind.ofName? value).isSome

/-- Which options and flags a subcommand has, and how many operands. -/
structure Shape where
  options : List (String × ValueKind)
  flags : List String := []
  operands : Nat := 0

def looksLikeOption (arg : String) : Bool := arg.startsWith "-" && arg != "-"

/-- Help is asked for by its long name, or by its letter ahead of all others. -/
def asksHelp (arg : String) : Bool :=
  arg == "--help" || (arg.startsWith "-h" && !arg.startsWith "--")

/-- The name of a long option and the value behind its equals sign. -/
def splitOption (arg : String) : String × Option String :=
  let cs := (arg.drop 2).toString.toList
  let name := cs.takeWhile (· != '=')
  (String.ofList name,
    if name.length = cs.length then none else some (String.ofList (cs.drop (name.length + 1))))

def addOption (name : String) (kind : ValueKind) (value : String) (found : Arguments) :
    Except Stop Arguments :=
  if (found.options.lookup name).isSome || !kind.accepts value then .error .misuse
  else .ok { found with options := found.options ++ [(name, value)] }

def addFlag (name : String) (found : Arguments) : Except Stop Arguments :=
  if found.flags.contains name then .error .misuse
  else .ok { found with flags := name :: found.flags }

def addOperand (shape : Shape) (value : String) (found : Arguments) : Except Stop Arguments :=
  if found.operands.length < shape.operands then
    .ok { found with operands := found.operands ++ [value] }
  else .error .misuse

/-- Reads arguments from left to right, up to the first that asks for help or makes no sense. Each
option and flag is given at most once, an option's value does not look like an option unless an
equals sign joins them, and all is an operand behind two hyphens. -/
def read (shape : Shape) : List String → Arguments → Except Stop Arguments
  | [], found => .ok found
  | arg :: rest, found =>
    if arg = "--" then rest.foldlM (fun found value => found.addOperand shape value) found
    else if asksHelp arg then .error .help
    else if !looksLikeOption arg then (found.addOperand shape arg).bind (read shape rest)
    else if !arg.startsWith "--" then .error .misuse
    else
      let (name, value) := splitOption arg
      if shape.flags.contains name then
        if value.isSome then .error .misuse else (found.addFlag name).bind (read shape rest)
      else match shape.options.lookup name, value, rest with
        | some kind, some value, rest => (found.addOption name kind value).bind (read shape rest)
        | some kind, none, value :: rest =>
          if looksLikeOption value then .error .misuse
          else (found.addOption name kind value).bind (read shape rest)
        | _, _, _ => .error .misuse

def option? (found : Arguments) (name : String) : Option String := found.options.lookup name

end Arguments

namespace Command

open Arguments (Shape)

def shapes : List (String × Shape) :=
  [("parse", { options := [], operands := 1 }),
    ("find",
      { options := [("data", .path), ("finder", .finder), ("locator", .text)], flags := ["one"] }),
    ("group",
      { options := [("data", .path), ("scope", .text), ("locator", .text), ("filter", .text)] }),
    ("request",
      { options := [("data", .path), ("method", .text), ("params", .text),
          ("params-file", .path), ("id", .text)] }),
    ("serve", { options := [("data", .path)] })]

/-- The command with a name and its arguments, if none that it needs is missing. -/
def ofArguments? (name : String) (found : Arguments) : Option Command :=
  match name with
  | "parse" => found.operands.head?.map parse
  | "find" => do
    let data ← found.option? "data"
    let finder ← FinderKind.ofName? (← found.option? "finder")
    return find data finder (found.option? "locator") (found.flags.contains "one")
  | "group" => do
    let data ← found.option? "data"
    let scope ← found.option? "scope"
    return group data scope (found.option? "locator") (found.option? "filter")
  | "request" => do
    let data ← found.option? "data"
    let method ← found.option? "method"
    return request data method ((found.option? "params").getD "\x7b\x7d")
      (found.option? "params-file") ((found.option? "id").getD "1")
  | "serve" => (found.option? "data").map serve
  | _ => none

/-- The files that a command reads. -/
def paths : Command → List String
  | parse _ => []
  | find data .. | group data .. | serve data => [data]
  | request data _ _ paramsFile _ => data :: paramsFile.toList

end Command

namespace Invocation

/-- Help on the program or on one subcommand. -/
def ofTopic : List String → Invocation
  | [] | ["help"] => .help
  | [topic] => if (Command.shapes.lookup topic).isSome then .help else .misuse
  | _ => .misuse

/-- The subcommand with a name, given the arguments behind it. -/
def ofSubcommand (name : String) (args : List String) : Invocation :=
  match Command.shapes.lookup name with
  | none => .misuse
  | some shape =>
    match Arguments.read shape args {} with
    | .error .help => .help
    | .error .misuse => .misuse
    | .ok found =>
      match Command.ofArguments? name found with
      | some c => .command c
      | none => .misuse

/-- The first argument decides. -/
def ofArguments : List String → Invocation
  | [] => .misuse
  | "--version" :: _ => .version
  | "help" :: topic => ofTopic topic
  | name :: args =>
    if Arguments.asksHelp name then .help
    else if name.startsWith "-V" then .version
    else ofSubcommand name args

end Invocation

end LocatorQuery
