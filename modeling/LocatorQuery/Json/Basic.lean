/-! JSON values. Members keep the order in which they are listed. -/
namespace LocatorQuery

/-- An integer of 64 bits, signed or not, or a finite binary64 number. -/
inductive Number
  | integer (n : Int)
  | float (x : Float)
  deriving Repr, BEq, Inhabited

inductive Json
  | null
  | bool (b : Bool)
  | number (n : Number)
  | string (s : String)
  | array (items : List Json)
  | object (members : List (String × Json))
  deriving Repr, BEq, Inhabited

namespace Json

def natural (n : Nat) : Json := .number (.integer n)

def ofOption : Option Json → Json
  | none => .null
  | some j => j

def strings (ss : List String) : Json := .array (ss.map .string)

/-- Puts a member in its place among members in strict order of their names. A name that is there
already gets the new value. -/
def insert (name : String) (value : Json) : List (String × Json) → List (String × Json)
  | [] => [(name, value)]
  | (n, v) :: rest =>
    if name < n then (name, value) :: (n, v) :: rest
    else if name = n then (name, value) :: rest
    else (n, v) :: insert name value rest

mutual

/-- The value with all members in order of their names. -/
def sorted : Json → Json
  | .array items => .array (sortedItems items)
  | .object members => .object (sortedMembers members [])
  | j => j

def sortedItems : List Json → List Json
  | [] => []
  | j :: js => j.sorted :: sortedItems js

def sortedMembers : List (String × Json) → List (String × Json) → List (String × Json)
  | [], done => done
  | (n, j) :: ms, done => sortedMembers ms (insert n j.sorted done)

end

end Json

end LocatorQuery
