import LocatorQuery.Yaml.Scalar.Block
import LocatorQuery.Yaml.Scalar.Quoted
import LocatorQuery.Yaml.Token

/-! The outline of a YAML text: its tokens, with those that only indentation and colons show. A key
need not have a sign of its own, so what may be one is remembered until its colon comes. -/
namespace LocatorQuery.Yaml

/-- What may turn out to be a key. -/
structure Candidate where
  /-- How many tokens come ahead of it. -/
  index : Nat
  start : Cell
  /-- Whether only a key may stand there. -/
  required : Bool
  deriving Repr

/-- A key stands on one line and ends within 1024 bytes. -/
def Candidate.isStale (k : Candidate) (here : Cell) : Bool :=
  k.start.line < here.line || k.start.offset + 1024 < here.offset

structure Outline where
  tokens : Array Token := #[]
  /-- The columns of the block collections that are open, the innermost first. -/
  columns : List Nat := []
  candidate : Option Candidate := none
  /-- The candidates ahead of the open brackets, the innermost first. -/
  outer : List (Option Candidate) := []
  /-- Whether a key may start here. -/
  keyAllowed : Bool := true
  deriving Repr

namespace Outline

def inFlow (o : Outline) : Bool := !o.outer.isEmpty

/-- The leftmost column inside the innermost block collection. -/
def floor (o : Outline) : Nat :=
  match o.columns with
  | [] => 0
  | column :: _ => column + 1

/-- A token more, and whether a key may follow it. -/
def push (t : Token) (keyAllowed : Bool) (o : Outline) : Outline :=
  { o with tokens := o.tokens.push t, keyAllowed }

/-- Gives up the candidate, which a required one does not allow. -/
def settle (o : Outline) : Option Outline :=
  if o.candidate.any Candidate.required then none else some { o with candidate := none }

/-- Remembers what starts here as a candidate where a key may start. -/
def offer (here : Cell) (o : Outline) : Option Outline :=
  if o.keyAllowed then do
    let required := !o.inFlow && o.columns.head? == some here.column
    return { ← o.settle with
      candidate := some { index := o.tokens.size, start := here, required } }
  else some o

/-- Forgets candidates that are no key any more. -/
def expire (here : Cell) (o : Outline) : Option Outline := do
  let fresh : Option Candidate → Option (Option Candidate)
    | none => some none
    | some k =>
      if !k.isStale here then some (some k) else if k.required then none else some none
  return { o with candidate := ← fresh o.candidate, outer := ← o.outer.mapM fresh }

/-- Opens a block collection ahead of the token with an index, unless one is open in the column or
right of it. -/
def openBlock (start : Token) (column index : Nat) (o : Outline) : Outline :=
  if o.inFlow || column < o.floor then o
  else { o with
    columns := column :: o.columns
    tokens := o.tokens.insertIdxIfInBounds index start }

/-- Closes the block collections from a column on. -/
def closeBlocks (column : Nat) (o : Outline) : Outline :=
  if o.inFlow then o
  else { o with
    columns := o.columns.dropWhile (column ≤ ·)
    tokens := o.tokens ++ (o.columns.takeWhile (column ≤ ·)).toArray.map fun _ => .blockEnd }

/-- Outside brackets a sign of a block collection stands where a key may start. -/
def beginItem (start : Token) (here : Cell) (o : Outline) : Option Outline :=
  if o.inFlow then some o
  else if o.keyAllowed then some (o.openBlock start here.column o.tokens.size)
  else none

def bound (t : Token) (o : Outline) : Option Outline := do
  return (← (o.closeBlocks 0).settle).push t false

def openBracket (t : Token) (here : Cell) (o : Outline) : Option Outline := do
  let o ← o.offer here
  return { o with candidate := none, outer := o.candidate :: o.outer }.push t true

def closeBracket (t : Token) (o : Outline) : Option Outline := do
  let o ← o.settle
  return { o with candidate := o.outer.head?.join, outer := o.outer.drop 1 }.push t false

def entry (here : Cell) (o : Outline) : Option Outline := do
  return (← (← o.beginItem .listStart here).settle).push .entry true

def key (here : Cell) (o : Outline) : Option Outline := do
  return (← (← o.beginItem .mapStart here).settle).push .key (!o.inFlow)

/-- A colon makes the candidate a key. -/
def value (here : Cell) (o : Outline) : Option Outline :=
  match o.candidate with
  | some k =>
    let marked := { o with
      candidate := none
      tokens := o.tokens.insertIdxIfInBounds k.index .key }
    some ((marked.openBlock .mapStart k.start.column k.index).push .value false)
  | none => (o.beginItem .mapStart here).map (push .value (!o.inFlow))

/-- Adds what starts with a cell that no blank precedes; gives what comes after it. -/
def step (here : Cell) (next : List Cell) (o : Outline) : Option (Outline × List Cell) :=
  if here.column = 0 && here.char = '%' then do
    let (directive, rest) ← Directive.parse? next
    return (← o.bound (.directive directive), rest)
  else if atMarker '-' (here :: next) then (o.bound .documentStart).map (·, next.drop 2)
  else if atMarker '.' (here :: next) then (o.bound .documentEnd).map (·, next.drop 2)
  else if here.char = '-' && atBlank next then (o.entry here).map (·, next)
  else if here.char = '?' && (o.inFlow || atBlank next) then (o.key here).map (·, next)
  else if here.char = ':' && (o.inFlow || atBlank next) then (o.value here).map (·, next)
  else match here.char with
  | '[' => (o.openBracket .flowListStart here).map (·, next)
  | '\x7b' => (o.openBracket .flowMapStart here).map (·, next)
  | ']' => (o.closeBracket .flowListEnd).map (·, next)
  | '\x7d' => (o.closeBracket .flowMapEnd).map (·, next)
  | ',' => o.settle.map fun o => (o.push .comma true, next)
  | '*' => do
    let (name, rest) ← anchorName? next
    return ((← o.offer here).push (.alias name) false, rest)
  | '&' => do
    let (name, rest) ← anchorName? next
    return ((← o.offer here).push (.anchor name) false, rest)
  | '!' => do
    let (tag, rest) ← tag? o.inFlow next
    return ((← o.offer here).push (.tag tag) false, rest)
  | '\'' => do
    let (text, rest) ← quoted? .single next
    return ((← o.offer here).push (.scalar .quoted text) false, rest)
  | '"' => do
    let (text, rest) ← quoted? .double next
    return ((← o.offer here).push (.scalar .quoted text) false, rest)
  | c =>
    if (c = '|' || c = '>') && !o.inFlow then do
      let (text, rest) ← block? (c == '|') o.floor next
      return ((← o.settle).push (.scalar (if c = '|' then .literal else .folded) text) true, rest)
    else if startsPlain o.inFlow c next then do
      let (text, ended, rest) ← plain? o.inFlow o.floor (here :: next)
      return ((← o.offer here).push (.scalar .plain text) ended, rest)
    else none

/-- What comes after blanks, breaks and comments, and whether a key may start there. A line that
ends outside brackets may be followed by a key; no tab stands where one may start. -/
def skip (flow : Bool) : Bool → Bool → List Cell → Bool × List Cell
  | _, keyAllowed, [] => (keyAllowed, [])
  | comment, keyAllowed, c :: cs =>
    if isBreak c.char then skip flow false (!flow || keyAllowed) cs
    else if comment then skip flow true keyAllowed cs
    else if c.char = ' ' || (c.char = '\t' && (flow || !keyAllowed)) ||
        (c.char = orderMark && c.column = 0) then skip flow false keyAllowed cs
    else if c.char = '#' then skip flow true keyAllowed cs
    else (keyAllowed, c :: cs)

def run : Nat → Outline → List Cell → Option Outline
  | 0, _, _ => none
  | fuel + 1, o, cs =>
    match skip o.inFlow false o.keyAllowed cs with
    | (_, []) => (o.closeBlocks 0).settle
    | (keyAllowed, here :: next) => do
      let o ← { o with keyAllowed }.expire here
      let (o, rest) ← (o.closeBlocks (here.column + 1)).step here next
      run fuel o rest

end Outline

/-- The tokens of a text. -/
def tokens? (text : String) : Option (List Token) := do
  let cs ← cells? text
  return (← Outline.run (cs.length + 1) {} cs).tokens.toList

end LocatorQuery.Yaml
