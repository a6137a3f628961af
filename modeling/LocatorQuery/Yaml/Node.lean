import LocatorQuery.Yaml.Token

/-! The nodes of a YAML document. -/
namespace LocatorQuery.Yaml

/-- What stands ahead of a node: the number of its anchor and the whole tag. -/
structure Properties where
  anchor : Option Nat := none
  tag : Option String := none
  deriving DecidableEq, Repr

/-- Collections, scalars, and aliases for the node with a numbered anchor. -/
inductive Node
  | alias (number : Nat)
  | scalar (properties : Properties) (style : Style) (text : String)
  | list (properties : Properties) (items : List Node)
  | map (properties : Properties) (members : List (Node × Node))
  deriving Repr, Inhabited

/-- What stands where nothing is written. -/
def Node.nothing : Node := .scalar {} .plain ""

/-- One for an alias, none for other nodes. -/
def Node.ownAliases : Node → Nat
  | .alias _ => 1
  | _ => 0

mutual

/-- How many parts a node has: scalars, aliases, and the two ends of each collection. -/
def Node.parts : Node → Nat
  | .alias _ | .scalar .. => 1
  | .list _ items => partsOfItems items + 2
  | .map _ members => partsOfMembers members + 2

def partsOfItems : List Node → Nat
  | [] => 0
  | item :: items => item.parts + partsOfItems items

def partsOfMembers : List (Node × Node) → Nat
  | [] => 0
  | (key, value) :: members => key.parts + value.parts + partsOfMembers members

end

/-- A node under the number of its anchor, if it has one. -/
def Properties.entries (p : Properties) (node : Node) : List (Nat × Node) :=
  (p.anchor.map fun number => (number, node)).toList

mutual

/-- The nodes with anchors in the order of the text. -/
def Node.anchored : Node → List (Nat × Node)
  | .alias _ => []
  | .scalar p style text => p.entries (.scalar p style text)
  | .list p items => p.entries (.list p items) ++ anchoredItems items
  | .map p members => p.entries (.map p members) ++ anchoredMembers members

def anchoredItems : List Node → List (Nat × Node)
  | [] => []
  | item :: items => item.anchored ++ anchoredItems items

def anchoredMembers : List (Node × Node) → List (Nat × Node)
  | [] => []
  | (key, value) :: members => key.anchored ++ value.anchored ++ anchoredMembers members

end

end LocatorQuery.Yaml
