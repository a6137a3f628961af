import LocatorQuery.LocatorError

/-! Locators: a lone value, or a list of named values of which each is taken at most once. -/
namespace LocatorQuery

/-- A named value of a locator, marked once it has been taken. -/
structure Dimension where
  name : String
  value : String
  taken : Bool := false
  deriving DecidableEq, Repr

inductive Locator
  | single (value : String) (taken : Bool)
  | dimensions (items : List Dimension)
  deriving DecidableEq, Repr

namespace Dimension

def isOpen (name : String) (d : Dimension) : Bool := !d.taken && d.name == name

/-- The value of the first open dimension of a name, and the list with it marked. -/
def takeFirst (name : String) : List Dimension → Option (String × List Dimension)
  | [] => none
  | d :: ds =>
    if d.isOpen name then some (d.value, { d with taken := true } :: ds)
    else (takeFirst name ds).map fun (v, rest) => (v, d :: rest)

/-- Every open dimension of a name is marked. -/
def markAll (name : String) (ds : List Dimension) : List Dimension :=
  ds.map fun d => if d.isOpen name then { d with taken := true } else d

/-- A name is a word of ASCII letters, digits, underscores, hyphens and dots. -/
def isNameChar (c : Char) : Bool := c.isAlphanum || c == '_' || c == '-' || c == '.'

def isName (cs : List Char) : Bool := !cs.isEmpty && cs.all isNameChar

end Dimension

namespace Locator

/-- The locator without dimensions, which asks for everything. -/
def empty : Locator := .dimensions []

def ofValue (value : String) : Locator := .single value false

def items : Locator → List Dimension
  | single .. => []
  | dimensions ds => ds

def value? : Locator → Option String
  | single v _ => some v
  | dimensions _ => none

def isSingle (l : Locator) : Bool := l.value?.isSome

def isEmpty (l : Locator) : Bool := !l.isSingle && l.items.isEmpty

/-- The locator with nothing taken. -/
def fresh : Locator → Locator
  | single v _ => .single v false
  | dimensions ds => .dimensions (ds.map fun d => { d with taken := false })

/-- Two locators say the same when they differ at most in what has been taken. -/
def same (a b : Locator) : Bool := decide (a.fresh = b.fresh)

/-- Appends a dimension; a lone value takes none. -/
def add (name value : String) (l : Locator) : Except LocatorError Locator :=
  if Dimension.isName name.toList then
    match l with
    | single .. => .error (.malformed .notExtensible name)
    | dimensions ds => .ok (.dimensions (ds ++ [{ name, value }]))
  else .error (.malformed (.invalidName name) name)

def ofPairs (pairs : List (String × String)) : Except LocatorError Locator :=
  pairs.foldlM (fun l (name, value) => l.add name value) empty

/-- The first value of a name, taken or not. -/
def peek? (name : String) (l : Locator) : Option String :=
  (l.items.find? fun d => d.name == name).map Dimension.value

def isPresent (name : String) (l : Locator) : Bool := l.items.any fun d => d.name == name

/-- Drops every dimension of a name. -/
def erase (name : String) : Locator → Locator
  | single v t => .single v t
  | dimensions ds => .dimensions (ds.filter fun d => d.name != name)

/-- Takes the lone value. -/
def takeValue : Locator → Option String × Locator
  | single v _ => (some v, .single v true)
  | dimensions ds => (none, .dimensions ds)

/-- Takes the first value of a name that is still open. -/
def take (name : String) (l : Locator) : Option String × Locator :=
  match l with
  | single .. => (none, l)
  | dimensions ds =>
    match Dimension.takeFirst name ds with
    | some (v, rest) => (some v, .dimensions rest)
    | none => (none, l)

/-- Takes all values of a name that are still open, in order. -/
def takeAll (name : String) (l : Locator) : List String × Locator :=
  match l with
  | single .. => ([], l)
  | dimensions ds =>
    ((ds.filter fun d => d.isOpen name).map Dimension.value,
      .dimensions (Dimension.markAll name ds))

/-- How an untaken lone value is reported. -/
def loneName : String := "<single value>"

/-- Each name with an untaken value, by first untaken occurrence. -/
def unused : Locator → List String
  | single _ taken => if taken then [] else [loneName]
  | dimensions ds => ((ds.filter fun d => !d.taken).map Dimension.name).eraseDups

/-- Each name with a taken value, by first taken occurrence. -/
def used (l : Locator) : List String :=
  ((l.items.filter Dimension.taken).map Dimension.name).eraseDups

/-- Refuses a locator with untaken values, naming what would have been understood. -/
def finish (supported : List String) (l : Locator) : Except LocatorError Unit :=
  if l.unused.isEmpty then .ok () else .error (.unusedDimensions l.unused supported)

end Locator

end LocatorQuery
