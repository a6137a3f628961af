import LocatorQuery.Schema.Basic
import LocatorQuery.Text.Bytes
import LocatorQuery.Text.Numeral
import LocatorQuery.Yaml.Document

/-! Values of a schema from YAML, where the schema decides what a scalar stands for. -/
namespace LocatorQuery

open Yaml (Node Document Properties Style)

namespace Yaml

/-- The number that digits of a base stand for, of which there is at least one. -/
def digits? (base : Nat) (cs : List Char) : Option Nat :=
  if cs.isEmpty then none else Text.ofBase? base cs

/-- Decimal digits without a superfluous zero ahead, or digits of another base behind its mark; a
plus sign may come first. -/
def word? (text : String) : Option UInt64 := do
  let cs := match text.toList with
    | '+' :: cs => cs
    | cs => cs
  let n ← match cs with
    | '0' :: 'x' :: ds => digits? 16 ds
    | '0' :: 'o' :: ds => digits? 8 ds
    | '0' :: 'b' :: ds => digits? 2 ds
    | '0' :: _ :: _ => none
    | ds => Text.digits? ds
  if n < Text.unsignedBound then return UInt64.ofNat n else none

def flag? (text : String) : Option Bool :=
  if ["true", "True", "TRUE"].contains text then some true
  else if ["false", "False", "FALSE"].contains text then some false
  else none

def isNull (text : String) : Bool := ["~", "null", "Null", "NULL"].contains text

/-- The tag of a type that every document knows. -/
def typeTag (name : String) : String := "tag:yaml.org,2002:" ++ name

/-- What a scalar says where a value of a type is expected: plain ones count whatever their tag,
literal ones only with the tag of the type. -/
def typedText? (type : String) : Node → Option String
  | .scalar _ .plain text => some text
  | .scalar p .literal text => if p.tag = some (typeTag type) then some text else none
  | _ => none

/-- A plain scalar without text is empty, and stands for empty collections too. -/
def isEmptyScalar : Node → Bool
  | .scalar _ .plain text => text.isEmpty
  | _ => false

/-- Whether a scalar is no value at all where one need not be there, if it can be told: the tag of
null does not go with other text. -/
def isAbsent? : Node → Option Bool
  | .scalar p .plain text =>
    match p.tag with
    | none => some (text.isEmpty || isNull text)
    | some tag => if tag = typeTag "null" then if isNull text then some true else none
      else some false
  | _ => some false

/-- The name that the tag of a node gives, which is the text in its octets. -/
def Properties.choice? (p : Properties) : Option String := do
  match (← p.tag).toList with
  | '!' :: [] => return "!"
  | '!' :: name => Text.ofBytes? (name.map fun octet => UInt8.ofNat octet.toNat)
  | _ => none

/-- The name of a constant: a scalar's tag with no text beside it, or else its text. -/
def choiceName? : Node → Option String
  | .scalar p style text =>
    match p.choice? with
    | some name => if style = .plain && (text.isEmpty || isNull text) then some name else none
    | none => some text
  | _ => none

end Yaml

mutual

/-- Any scalar is a text. Aliases stand for their nodes. -/
def Schema.readYaml {α : Type} (d : Document) : Schema α → Node → Option α
  | .word, node => do Yaml.word? (← Yaml.typedText? "int" (← d.resolve? node))
  | .text, node => do
    match ← d.resolve? node with
    | .scalar _ _ text => return text
    | _ => none
  | .flag, node => do Yaml.flag? (← Yaml.typedText? "bool" (← d.resolve? node))
  | .choice options _, node => do options.lookup (← Yaml.choiceName? (← d.resolve? node))
  | .optional item, node => do
    if ← Yaml.isAbsent? (← d.resolve? node) then return none
    else return some (← item.readYaml d node)
  | .list item, node => do
    match ← d.resolve? node with
    | .list _ items => items.mapM (item.readYaml d)
    | node => if Yaml.isEmptyScalar node then return [] else none
  | .record _ fields ofFields _, node => do
    match ← d.resolve? node with
    | .map _ members =>
      let draft ← members.foldlM (fun draft (key, node) => do
        match ← d.resolve? key with
        | .scalar _ _ name => fields.putYaml d draft name node
        | _ => none) fields.blank
      return ofFields (← fields.completeYaml draft)
    | node =>
      if Yaml.isEmptyScalar node then return ofFields (← fields.completeYaml fields.blank) else none
  | .json _, _ => none

/-- Sets the field with a name; a name that is no field's is passed over with its node. -/
def Fields.putYaml {α : Type} (d : Document) :
    (fs : Fields α) → fs.Draft → String → Node → Option fs.Draft
  | .nil, draft, _, _ => some draft
  | .cons label schema rest, draft, name, node =>
    if label.accepts name then
      match draft.1 with
      | some _ => none
      | none => do return (some (← schema.readYaml d node), draft.2)
    else do return (draft.1, ← rest.putYaml d draft.2 name node)

def Fields.completeYaml {α : Type} : (fs : Fields α) → fs.Draft → Option α
  | .nil, _ => some ()
  | .cons label _ rest, draft => do
    let v ← draft.1.or label.absent
    return (v, ← rest.completeYaml draft.2)

end

mutual

/-- How many aliases are followed where a node is read. -/
def Schema.aliasesIn {α : Type} (d : Document) : Schema α → Node → Nat
  | .optional item, node => item.aliasesIn d node
  | .list item, node =>
    node.ownAliases + match d.resolve? node with
      | some (.list _ items) => (items.map (item.aliasesIn d)).sum
      | _ => 0
  | .record _ fields _ _, node =>
    node.ownAliases + match d.resolve? node with
      | some (.map _ members) =>
        (members.map fun (key, value) => key.ownAliases + match d.resolve? key with
          | some (.scalar _ _ name) => fields.aliasesIn d name value
          | _ => 0).sum
      | _ => 0
  | _, node => node.ownAliases

def Fields.aliasesIn {α : Type} (d : Document) : Fields α → String → Node → Nat
  | .nil, _, _ => 0
  | .cons label schema rest, name, node =>
    if label.accepts name then schema.aliasesIn d node else rest.aliasesIn d name node

end

/-- The value that a YAML text holds. Aliases are followed at most a hundred times as often as the
document has parts. -/
def Schema.ofYaml? {α : Type} (s : Schema α) (text : String) : Option α := do
  let d ← Yaml.parse? text
  if s.aliasesIn d d.root ≤ 100 * d.root.parts then s.readYaml d d.root else none

end LocatorQuery
