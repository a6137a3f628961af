import LocatorQuery.Text.Blank

/-! Test names in the convention `suite: package.Class.method(parameters)`. -/
namespace LocatorQuery

structure TestName where
  suite : String
  package : String
  className : String
  method : String
  deriving DecidableEq, Repr

namespace TestName

/-- The package of a test that names none. -/
def defaultPackage : String := "<default>"

/-- The parts before and after the first colon with a space behind it. -/
def cutSuite : List Char → Option (List Char × List Char)
  | [] => none
  | ':' :: ' ' :: rest => some ([], rest)
  | c :: cs => (cutSuite cs).map fun (a, b) => (c :: a, b)

/-- The suite and the rest of a name, both trimmed. The mark between them counts only ahead of the
first parenthesis. -/
def splitSuite (full : List Char) : List Char × List Char :=
  match cutSuite (full.takeWhile (· != '(')) with
  | some (suite, _) => (Text.trim suite, Text.trim (full.drop (suite.length + 2)))
  | none => ([], Text.trim full)

/-- The part of a reversed text up to the parenthesis that opens its first group, still reversed,
and what is left; `d` groups are open already. -/
def cutGroup : Nat → List Char → Option (List Char × List Char)
  | _, [] => none
  | d, ')' :: cs => (cutGroup (d + 1) cs).map fun (a, b) => (')' :: a, b)
  | d, '(' :: cs =>
    if d ≤ 1 then some (['('], cs)
    else (cutGroup (d - 1) cs).map fun (a, b) => ('(' :: a, b)
  | d, c :: cs => (cutGroup d cs).map fun (a, b) => (c :: a, b)

/-- The text ahead of a trailing group, and the group. -/
def splitParameters (text : List Char) : List Char × List Char :=
  match text.reverse with
  | ')' :: _ =>
    match cutGroup 0 text.reverse with
    | some (group, head) => (head.reverse, group.reverse)
    | none => (text, [])
  | _ => (text, [])

/-- The parts before and after the last dot; without a dot all of it is the second part. -/
def splitLastDot (text : List Char) : List Char × List Char :=
  let last := (text.reverse.takeWhile (· != '.')).reverse
  if text.contains '.' then (text.take (text.length - last.length - 1), last) else ([], text)

def ofChars (full : List Char) : TestName :=
  let (suite, rest) := splitSuite full
  let (head, parameters) := splitParameters rest
  let (path, method) := splitLastDot head
  let (package, className) := splitLastDot path
  { suite := String.ofList suite
    package := if package.isEmpty then defaultPackage else String.ofList package
    className := String.ofList className
    method := String.ofList (method ++ parameters) }

def parse (full : String) : TestName := ofChars full.toList

end TestName

end LocatorQuery
