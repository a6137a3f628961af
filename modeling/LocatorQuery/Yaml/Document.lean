import LocatorQuery.Yaml.Outline
import LocatorQuery.Yaml.Reader

/-! The one document of a YAML text. -/
namespace LocatorQuery.Yaml

open Reader

/-- A root and the nodes that aliases in it may stand for. -/
structure Document where
  root : Node
  /-- The nodes with anchors by their numbers; of two with one number the first counts. -/
  anchored : List (Nat × Node)
  deriving Repr

/-- The last of the nodes with a number is the one that its aliases stand for. -/
def Document.ofRoot (root : Node) : Document := { root, anchored := root.anchored.reverse }

/-- The node that a node stands for. -/
def Document.resolve? (d : Document) : Node → Option Node
  | .alias number => d.anchored.lookup number
  | node => some node

/-- What the directives ahead of a document say of handles, each of which is given once. They may also
name the version once. -/
def directives : Nat → Bool → List (String × String) → Reader (List (String × String))
  | 0, _, _ => failure
  | fuel + 1, versioned, handles => do
    match ← peek with
    | some (.directive (.version major minor)) =>
      drop
      if versioned || major ≠ 1 || (minor ≠ 1 && minor ≠ 2) then failure
      directives fuel true handles
    | some (.directive (.handle name meaning)) =>
      drop
      if (handles.lookup name).isSome then failure
      directives fuel versioned ((name, meaning) :: handles)
    | _ => return handles

/-- The content of a document without a start of its own. -/
def content : Reader Node := do node (4 * (← get).tokens.length + 4) true false

/-- What comes behind the start of a document, which may be nothing. -/
def startedContent : Reader Node := do
  match ← peek with
  | none | some (.directive _) | some .documentStart | some .documentEnd => return .nothing
  | _ => content

/-- The root of the document; a text without one holds nothing. -/
def rootNode : Reader Node := do
  match ← peek with
  | none => return .nothing
  | some (.directive _) | some .documentStart =>
    let handles ← directives ((← get).tokens.length + 1) false []
    modify fun u => { u with handles := handles ++ Directive.knownHandles }
    expect .documentStart
    startedContent
  | _ => content

/-- Only ends of documents follow the one document. -/
def Document.ofTokens? (tokens : List Token) : Option Document := do
  let (root, unread) ← rootNode.run { tokens }
  if unread.tokens.all (· == .documentEnd) then return .ofRoot root else none

def parse? (text : String) : Option Document := do Document.ofTokens? (← tokens? text)

end LocatorQuery.Yaml
