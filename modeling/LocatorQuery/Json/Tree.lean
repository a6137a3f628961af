import LocatorQuery.Json.Token

/-! Trees of JSON text, kept as far as the text is well formed. -/
namespace LocatorQuery.Json

/-- What was read of a value. An array or object that is not closed ends where the text stops being
JSON; a broken value is one that does not even start; an unreadable one is well formed but stands
for no value. -/
inductive Tree
  | null
  | bool (b : Bool)
  | number (n : Number)
  | string (s : String)
  | array (items : List Tree) (closed : Bool)
  | object (members : List (Option String × Tree)) (closed : Bool)
  | unreadable
  | broken
  deriving Repr, Inhabited

namespace Tree

mutual

/-- The value in front of the tokens, and what follows it while the text is well formed. -/
def ofTokens : Nat → List Token → Tree × Option (List Token)
  | 0, _ => (.broken, none)
  | fuel + 1, ts =>
    match ts with
    | .null :: ts => (.null, some ts)
    | .bool b :: ts => (.bool b, some ts)
    | .number (some n) :: ts => (.number n, some ts)
    | .string (some s) :: ts => (.string s, some ts)
    | .number none :: ts => (.unreadable, some ts)
    | .string none :: ts => (.unreadable, some ts)
    | .openArray :: .closeArray :: ts => (.array [] true, some ts)
    | .openArray :: ts =>
      let (items, rest) := itemsOfTokens fuel ts
      (.array items rest.isSome, rest)
    | .openObject :: .closeObject :: ts => (.object [] true, some ts)
    | .openObject :: ts =>
      let (members, rest) := membersOfTokens fuel ts
      (.object members rest.isSome, rest)
    | _ => (.broken, none)

/-- At least one item and the closing bracket. -/
def itemsOfTokens : Nat → List Token → List Tree × Option (List Token)
  | 0, _ => ([], none)
  | fuel + 1, ts =>
    match ofTokens fuel ts with
    | (t, some (.comma :: ts)) =>
      let (items, rest) := itemsOfTokens fuel ts
      (t :: items, rest)
    | (t, some (.closeArray :: ts)) => ([t], some ts)
    | (t, _) => ([t], none)

/-- At least one member and the closing brace. -/
def membersOfTokens : Nat → List Token → List (Option String × Tree) × Option (List Token)
  | 0, _ => ([], none)
  | fuel + 1, ts =>
    match ts with
    | .string name :: .colon :: ts =>
      match ofTokens fuel ts with
      | (t, some (.comma :: ts)) =>
        let (members, rest) := membersOfTokens fuel ts
        ((name, t) :: members, rest)
      | (t, some (.closeObject :: ts)) => ([(name, t)], some ts)
      | (t, _) => ([(name, t)], none)
    | .string name :: _ => ([(name, .broken)], none)
    | _ => ([], none)

end

/-- The tree of a text, and whether the text holds a value and nothing else. -/
def ofText (text : String) : Tree × Bool :=
  let ts := tokens text.toList
  match ofTokens (2 * ts.length + 1) ts with
  | (t, some []) => (t, true)
  | (t, _) => (t, false)

mutual

/-- Whether a value that nobody looks at is well formed. -/
def isLegible : Tree → Bool
  | .array items closed => itemsLegible items && closed
  | .object members closed => membersLegible members && closed
  | .broken => false
  | _ => true

def itemsLegible : List Tree → Bool
  | [] => true
  | t :: ts => t.isLegible && itemsLegible ts

def membersLegible : List (Option String × Tree) → Bool
  | [] => true
  | (_, t) :: ms => t.isLegible && membersLegible ms

end

mutual

/-- The value of a tree that holds at most so many arrays and objects inside each other. Members are
put in order of their names, and of a repeated name the last value counts. -/
def value? : Nat → Tree → Option Json
  | _, .null => some .null
  | _, .bool b => some (.bool b)
  | _, .number n => some (.number n)
  | _, .string s => some (.string s)
  | levels + 1, .array items true => (items? levels items).map .array
  | levels + 1, .object members true => (members? levels members []).map .object
  | _, _ => none

def items? (levels : Nat) : List Tree → Option (List Json)
  | [] => some []
  | t :: ts => do return (← t.value? levels) :: (← items? levels ts)

def members? (levels : Nat) :
    List (Option String × Tree) → List (String × Json) → Option (List (String × Json))
  | [], done => some done
  | (some name, t) :: ms, done => do members? levels ms (insert name (← t.value? levels) done)
  | (none, _) :: _, _ => none

end

mutual

/-- A value as the tree of its text. -/
def ofJson : Json → Tree
  | .null => .null
  | .bool b => .bool b
  | .number n => .number n
  | .string s => .string s
  | .array items => .array (ofItems items) true
  | .object members => .object (ofMembers members) true

def ofItems : List Json → List Tree
  | [] => []
  | j :: js => ofJson j :: ofItems js

def ofMembers : List (String × Json) → List (Option String × Tree)
  | [] => []
  | (n, j) :: ms => (some n, ofJson j) :: ofMembers ms

end

end Tree

/-- How many arrays and objects may be open at once. -/
def maxNesting : Nat := 127

/-- The value that a text holds. -/
def parse? (text : String) : Option Json :=
  match Tree.ofText text with
  | (t, true) => t.value? maxNesting
  | (_, false) => none

end LocatorQuery.Json
