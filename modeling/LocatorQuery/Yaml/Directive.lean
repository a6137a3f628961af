import LocatorQuery.Yaml.Property

/-! Directives, which stand on lines of their own ahead of a document. -/
namespace LocatorQuery.Yaml

inductive Directive
  | version (major minor : Nat)
  /-- What a handle stands for. -/
  | handle (name meaning : String)
  deriving DecidableEq, Repr

namespace Directive

def skipSpaces (cs : List Cell) : List Cell := cs.dropWhile fun c => isSpace c.char

/-- One to nine digits. -/
def number? (cs : List Cell) : Option (Nat × List Cell) :=
  let (digits, rest) := spanChars Char.isDigit cs
  if digits.length ≤ 9 then (Text.digits? digits).map fun n => (n, rest) else none

def version? (cs : List Cell) : Option (Directive × List Cell) := do
  let (major, rest) ← number? (skipSpaces cs)
  if atChar (· == '.') rest then
    let (minor, rest) ← number? (rest.drop 1)
    return (version major minor, rest)
  else none

/-- A handle is one exclamation mark, or two with a name between them. -/
def handleName? (cs : List Cell) : Option (String × List Cell) :=
  if atChar (· == '!') cs then
    let (name, rest) := spanChars isNameChar (cs.drop 1)
    if atChar (· == '!') rest then some (String.ofList ('!' :: name ++ ['!']), rest.drop 1)
    else if name.isEmpty then some ("!", rest)
    else none
  else none

def handle? (cs : List Cell) : Option (Directive × List Cell) := do
  let (name, rest) ← handleName? (skipSpaces cs)
  if atChar isSpace rest then
    let (meaning, rest) ← fullTag? (skipSpaces rest)
    if atBlank rest then return (handle name meaning, rest) else none
  else none

/-- The line from behind its percent sign on, with a comment at its end. -/
def parse? (cs : List Cell) : Option (Directive × List Cell) := do
  let (name, rest) := spanChars isNameChar cs
  if !atBlank rest then none
  let (directive, rest) ← match String.ofList name with
    | "YAML" => version? rest
    | "TAG" => handle? rest
    | _ => none
  let rest := afterComment rest
  if rest.isEmpty || atChar isBreak rest then return (directive, rest.drop 1) else none

/-- What handles mean where no directive says otherwise. -/
def knownHandles : List (String × String) := [("!", "!"), ("!!", "tag:yaml.org,2002:")]

end Directive

end LocatorQuery.Yaml
