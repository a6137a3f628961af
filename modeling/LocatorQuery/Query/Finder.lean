import LocatorQuery.Locator.Written
import LocatorQuery.Locator.Reading
import LocatorQuery.Query.Page

/-! Finders: an ordered source of items, a table of criteria, and the queries over them. -/
namespace LocatorQuery

/-- A dimension that a finder understands. Its test is built from the value; no test means that the
value leaves the item free. A repeatable criterion takes all values of its name. -/
structure Criterion (α : Type) where
  name : String
  summary : String
  repeatable : Bool := false
  test : String → Except LocatorError (Option (α → Bool))

structure Settings where
  /-- The count of a query that gives none; no page size means all matches. -/
  pageSize : Option Nat := some 100
  lookupLimit : Option Nat := none
  /-- Whether a value that nobody took fails the query. -/
  strict : Bool := true
  deriving DecidableEq, Repr

structure Finder (α : Type) where
  name : String
  source : List α
  /-- The text under which a lone value finds an item. -/
  key : α → String
  criteria : List (Criterion α)
  /-- A query must name one of these or the key; none means that it need not. -/
  requiredAny : List String := []
  /-- What is asked when no locator is given. -/
  defaultLocator : Option String := none
  settings : Settings := {}

namespace Finder

variable {α : Type}

/-- The dimension that holds an item's key. -/
def keyName : String := "id"

def startName : String := "start"

def countName : String := "count"

def limitName : String := "lookupLimit"

/-- Every understood name, in the order in which they are read. -/
def supported (f : Finder α) : List String :=
  keyName :: f.criteria.map Criterion.name ++ [startName, countName, limitName]

/-- The understood names with what they mean. -/
def summaries (f : Finder α) : List (String × String) :=
  (keyName, "primary identifier") :: f.criteria.map (fun c => (c.name, c.summary)) ++
    [(startName, "offset of the first returned match"),
      (countName, "page size, -1 for unbounded"),
      (limitName, "maximum number of source items examined, 0 for unbounded")]

def byKey? (f : Finder α) (key : String) : Option α :=
  f.source.find? fun item => f.key item == key

/-- The count that a locator asks for, given the one to use when it says nothing. -/
def readCount (default : Option Nat) : Reading (Option Nat) := do
  let some raw ← Reading.value countName | return default
  if raw = "-1" then return none
  match Text.natural? raw.toList with
  | some n => return some n
  | none => throw (.badValue countName raw .notCount)

/-- The lookup limit of a locator or else of the settings; zero lifts it. -/
def readLimit (default : Option Nat) : Reading (Option Nat) := do
  match ← Reading.natural limitName with
  | some 0 => return none
  | some n => return some n
  | none => return default

def readWindow (f : Finder α) (defaultCount : Option Nat) : Reading Window := do
  let start := (← Reading.natural startName).getD 0
  let count ← readCount defaultCount
  let lookupLimit ← readLimit f.settings.lookupLimit
  return { start, count, lookupLimit }

def checkRequired (f : Finder α) : Reading Unit := do
  let l ← Reading.whole
  if f.requiredAny.isEmpty || l.isPresent keyName || f.requiredAny.any l.isPresent then return ()
  else throw (.missingDimension f.requiredAny)

/-- The values that one criterion takes. -/
def readValues (c : Criterion α) : Reading (List String) :=
  if c.repeatable then Reading.values c.name
  else return (← Reading.value c.name).toList

/-- The tests of one criterion, one for each value that asks for something. -/
def readTests (c : Criterion α) : Reading (List (α → Bool)) := do
  let tests ← Reading.ofExcept ((← readValues c).mapM c.test)
  return tests.reduceOption

/-- All tests of a locator: the key's, then those of the table in its order. -/
def readAllTests (f : Finder α) : Reading (List (α → Bool)) := do
  let key ← Reading.value keyName
  let tests ← f.criteria.mapM readTests
  return (key.map fun k item => f.key item == k).toList ++ tests.flatten

/-- The page a locator asks for. A lone value finds by key; otherwise the window is read first, then
what is required is checked, then the tests are built in table order, and what is left over is
refused last. -/
def evaluateWith (f : Finder α) (defaultCount : Option Nat) : Reading (Page α) := do
  match ← Reading.lone with
  | some key => return .ofItems (f.byKey? key).toList
  | none =>
    let window ← f.readWindow defaultCount
    f.checkRequired
    let tests ← f.readAllTests
    if f.settings.strict then Reading.finish f.supported
    return .ofScan window (fun item => tests.all fun test => test item) f.source

def evaluate (f : Finder α) : Reading (Page α) := f.evaluateWith f.settings.pageSize

/-- The key that a locator gives alone, so that no scan is needed. -/
def loneKey? : Locator → Option String
  | .single key _ => some key
  | .dimensions [d] => if d.name = keyName then some d.value else none
  | .dimensions _ => none

/-- The one item that a text names. -/
def findOne (f : Finder α) (text : String) : Except LocatorError α := do
  let l ← Locator.parse text
  match loneKey? l with
  | some key =>
    match f.byKey? key with
    | some item => return item
    | none => throw (.notFound text)
  | none =>
    let (page, left) := (f.evaluateWith none).run l
    match (← page) with
    | { entries := [], .. } => throw (.notFound text)
    | { entries := [item], .. } => return item
    | { matched, .. } => throw (.ambiguous text matched left.used)

/-- The page that a text asks for; without one the finder's own locator is asked, and failing that
everything. -/
def findMany (f : Finder α) (text : Option String) : Except LocatorError (Page α) := do
  let l ← match text.or f.defaultLocator with
    | some text => Locator.parse text
    | none => pure .empty
  f.evaluate.answer l

end Finder

end LocatorQuery
