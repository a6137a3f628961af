import LocatorQuery.Schema.Basic
import LocatorQuery.Schema.Fault

/-! Values of a schema from JSON. Of several faults the first one in the document counts. -/
namespace LocatorQuery

open Json (Tree)

/-- Whether a tree comes from text or from a value that has been read before. Text that goes on
where a record ends is illegible, a value is only too long. -/
inductive Origin
  | text
  | value
  deriving DecidableEq, Repr

def choose {α : Type} (options : List (String × α)) (name : String) : Except DataFault α :=
  match options.lookup name with
  | some a => .ok a
  | none => .error (.unknownChoice name (options.map Prod.fst))

/-- The content of a constant given as the one member of an object. -/
def readUnit : Tree → Except DataFault Unit
  | .null => .ok ()
  | t => t.mismatch "unit"

/-- One of some constants, as its name or as an object with its name and null. -/
def readChoice {α : Type} (origin : Origin) (options : List (String × α)) :
    Tree → Except DataFault α
  | .string s => choose options s
  | .object ((some name, content) :: more) closed =>
    match origin with
    | .value =>
      if more.isEmpty then do
        let a ← choose options name
        readUnit content
        return a
      else .error (.wrongValue .map "map with a single key")
    | .text => do
      let a ← choose options name
      readUnit content
      if more.isEmpty && closed then return a else throw .illegible
  | t =>
    match origin, t with
    | .value, .object .. => .error (.wrongValue .map "map with a single key")
    | .value, t => t.mismatch "string or map"
    | .text, _ => .error .illegible

def elements (n : Nat) : String := if n = 1 then s!"{n} element" else s!"{n} elements"

mutual

def Schema.read {α : Type} (origin : Origin) : Schema α → Tree → Except DataFault α
  | .word, t =>
    match t with
    | .number (.integer n) =>
      if 0 ≤ n then .ok (UInt64.ofNat n.toNat)
      else .error (.wrongValue (.number (.integer n)) "u64")
    | t => t.mismatch "u64"
  | .text, t =>
    match t with
    | .string s => .ok s
    | t => t.mismatch "a string"
  | .flag, t =>
    match t with
    | .bool b => .ok b
    | t => t.mismatch "a boolean"
  | .choice options _, t => readChoice origin options t
  | .optional item, t =>
    match t with
    | .null => .ok none
    | t => return some (← item.read origin t)
  | .list item, t =>
    match t with
    | .array items closed => do
      let values ← items.mapM (item.read origin)
      if closed then return values else throw .illegible
    | t => t.mismatch "a sequence"
  | .record name fields ofFields _, t =>
    match t with
    | .array items closed => do
      let expected := s!"struct {name} with " ++ elements fields.size
      let (values, surplus) ← fields.readItems origin expected 0 items closed
      if surplus.isEmpty then
        if closed then return ofFields values else throw .illegible
      else match origin with
        | .text => throw .illegible
        | .value => throw (.wrongLength items.length "fewer elements in array")
    | .object members closed => do
      let draft ← members.foldlM (fun draft (name, t) =>
        match name with
        | some name => fields.put origin draft name t
        | none => .error .illegible) fields.blank
      if closed then return ofFields (← fields.complete draft) else throw .illegible
    | t => t.mismatch s!"struct {name}"
  | .json levels, t =>
    match t.value? levels with
    | some j => .ok j
    | none => .error .illegible

/-- The fields from the items of a list, and the items left over; `i` fields came before. -/
def Fields.readItems {α : Type} (origin : Origin) (expected : String) :
    Fields α → Nat → List Tree → Bool → Except DataFault (α × List Tree)
  | .nil, _, items, _ => .ok ((), items)
  | .cons label schema rest, i, items, closed => do
    match items with
    | t :: items =>
      let v ← schema.read origin t
      let (vs, surplus) ← rest.readItems origin expected (i + 1) items closed
      return ((v, vs), surplus)
    | [] =>
      if !closed then throw .illegible
      match label.absent, label.omissible with
      | some v, true =>
        let (vs, surplus) ← rest.readItems origin expected (i + 1) [] closed
        return ((v, vs), surplus)
      | _, _ => throw (.wrongLength i expected)

/-- Adds a member to a draft; a member that no field accepts only has to be legible. -/
def Fields.put {α : Type} (origin : Origin) :
    (fs : Fields α) → fs.Draft → String → Tree → Except DataFault fs.Draft
  | .nil, draft, _, t => if t.isLegible then .ok draft else .error .illegible
  | .cons label schema rest, draft, name, t =>
    if label.accepts name then
      match draft.1 with
      | some _ => .error (.repeatedField label.name)
      | none => do return (some (← schema.read origin t), draft.2)
    else do return (draft.1, ← rest.put origin draft.2 name t)

/-- The fields of a draft, with the values of those that may be absent. -/
def Fields.complete {α : Type} : (fs : Fields α) → fs.Draft → Except DataFault α
  | .nil, _ => .ok ()
  | .cons label _ rest, draft =>
    match draft.1.or label.absent with
    | some v => do return (v, ← rest.complete draft.2)
    | none => .error (.missingField label.name)

end

namespace Schema

/-- The value that a JSON text holds. -/
def ofText {α : Type} (s : Schema α) (text : String) : Except DataFault α := do
  let (tree, whole) := Tree.ofText text
  let value ← s.read .text tree
  if whole then return value else throw .illegible

def ofJson {α : Type} (s : Schema α) (j : Json) : Except DataFault α :=
  s.read .value (Tree.ofJson j)

end Schema

end LocatorQuery
