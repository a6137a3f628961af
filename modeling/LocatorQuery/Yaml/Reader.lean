import LocatorQuery.Yaml.Node

/-! Nodes from tokens. Signs decide where a node may stand and where nothing stands for one. -/
namespace LocatorQuery.Yaml

/-- The tokens still to be read and what names in them mean. -/
structure Unread where
  tokens : List Token
  handles : List (String × String) := Directive.knownHandles
  /-- The names of the anchors so far, each once and with its number. -/
  anchors : List (String × Nat) := []

abbrev Reader := StateT Unread Option

namespace Reader

/-- The next token, which stays. -/
def peek : Reader (Option Token) := do return (← get).tokens.head?

def drop : Reader Unit := modify fun u => { u with tokens := u.tokens.drop 1 }

def next : Reader (Option Token) := do
  let t ← peek
  drop
  return t

/-- Whether a token comes next, which is then gone. -/
def accept (t : Token) : Reader Bool := do
  if (← peek) == some t then
    drop
    return true
  else return false

def expect (t : Token) : Reader Unit := do
  if ← accept t then return else failure

/-- A node, or nothing where one of some tokens comes next. -/
def orNothing (stops : List Token) (node : Reader Node) : Reader Node := do
  match ← peek with
  | some t => if stops.contains t then return .nothing else node
  | none => node

/-- The number of an anchor, if one comes next: how many names there were. A name that comes again
takes a new number. -/
def anchor? : Reader (Option Nat) := do
  match ← peek with
  | some (.anchor name) =>
    drop
    let u ← get
    let number := u.anchors.length
    set { u with anchors := (name, number) :: u.anchors.filter (·.1 != name) }
    return some number
  | _ => return none

/-- The whole tag, if one comes next. -/
def tag? : Reader (Option String) := do
  match ← peek with
  | some (.tag t) =>
    drop
    if t.handle = "" then return some t.suffix
    else match (← get).handles.lookup t.handle with
      | some meaning => return some (meaning ++ t.suffix)
      | none => failure
  | _ => return none

/-- An anchor and a tag in either order, each at most once. -/
def properties : Reader Properties := do
  let first ← anchor?
  let tag ← tag?
  let anchor ← if first.isSome then pure first else anchor?
  return { anchor, tag }

end Reader

open Reader

/-- Properties without a node are those of an empty scalar. -/
def Properties.alone (p : Properties) : Reader Node :=
  if p.anchor.isSome || p.tag.isSome then return .scalar p .plain "" else failure

mutual

/-- A node. Block collections stand outside brackets; `indentless` lists have their entries in the
column of the map around them. -/
def node : Nat → (block indentless : Bool) → Reader Node
  | 0, _, _ => failure
  | fuel + 1, block, indentless => do
    match ← peek with
    | some (.alias name) =>
      drop
      match (← get).anchors.lookup name with
      | some number => return .alias number
      | none => failure
    | _ =>
      let p ← properties
      match ← peek with
      | some (.scalar style text) =>
        drop
        return .scalar p style text
      | some .flowListStart =>
        drop
        return .list p (← flowItems fuel true)
      | some .flowMapStart =>
        drop
        return .map p (← flowMembers fuel true)
      | some .listStart =>
        if block then
          drop
          return .list p (← blockItems fuel)
        else p.alone
      | some .mapStart =>
        if block then
          drop
          return .map p (← blockMembers fuel)
        else p.alone
      | some .entry =>
        if indentless then return .list p (← indentlessItems fuel) else p.alone
      | _ => p.alone

def blockItems : Nat → Reader (List Node)
  | 0 => failure
  | fuel + 1 => do
    match ← next with
    | some .entry =>
      let item ← orNothing [.entry, .blockEnd] (node fuel true false)
      return item :: (← blockItems fuel)
    | some .blockEnd => return []
    | _ => failure

def indentlessItems : Nat → Reader (List Node)
  | 0 => failure
  | fuel + 1 => do
    if ← accept .entry then
      let item ← orNothing [.entry, .key, .value, .blockEnd] (node fuel true false)
      return item :: (← indentlessItems fuel)
    else return []

/-- A key may lack its value, and a value its key. -/
def blockMembers : Nat → Reader (List (Node × Node))
  | 0 => failure
  | fuel + 1 => do
    match ← next with
    | some .key =>
      let key ← orNothing [.key, .value, .blockEnd] (node fuel true true)
      let value ← if ← accept .value then
          orNothing [.key, .value, .blockEnd] (node fuel true true)
        else pure .nothing
      return (key, value) :: (← blockMembers fuel)
    | some .blockEnd => return []
    | _ => failure

/-- Items with commas between them and perhaps behind the last. A pair among them is a map. -/
def flowItems : Nat → (first : Bool) → Reader (List Node)
  | 0, _ => failure
  | fuel + 1, first => do
    if ← accept .flowListEnd then return []
    if !first then expect .comma
    if ← accept .flowListEnd then return []
    if ← accept .key then
      let key ← pairKey fuel
      let value ← if ← accept .value then
          orNothing [.comma, .flowListEnd] (node fuel false false)
        else pure .nothing
      return .map {} [(key, value)] :: (← flowItems fuel false)
    else
      let item ← node fuel false false
      return item :: (← flowItems fuel false)

/-- The key of a pair in a list. Where there is none, the token in its place goes with it. -/
def pairKey : Nat → Reader Node
  | 0 => failure
  | fuel + 1 => do
    match ← peek with
    | some .value | some .comma | some .flowListEnd =>
      drop
      return .nothing
    | _ => node fuel false false

/-- Members with commas between them and perhaps behind the last. -/
def flowMembers : Nat → (first : Bool) → Reader (List (Node × Node))
  | 0, _ => failure
  | fuel + 1, first => do
    if ← accept .flowMapEnd then return []
    if !first then expect .comma
    if ← accept .flowMapEnd then return []
    if ← accept .key then
      let key ← orNothing [.value, .comma, .flowMapEnd] (node fuel false false)
      let value ← if ← accept .value then
          orNothing [.comma, .flowMapEnd] (node fuel false false)
        else pure .nothing
      return (key, value) :: (← flowMembers fuel false)
    else
      let key ← node fuel false false
      return (key, .nothing) :: (← flowMembers fuel false)

end

end LocatorQuery.Yaml
