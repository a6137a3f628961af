import LocatorQuery.Text.Bytes
import LocatorQuery.LocatorError

/-! Nesting of parentheses in a text: balance, the groups at top level and the cuts between them. -/
namespace LocatorQuery.Nesting

/-- The number of open groups after a text that starts inside `d` groups, unless it closes more
groups than are open. -/
def depth? : Nat → List Char → Option Nat
  | d, [] => some d
  | d, '(' :: cs => depth? (d + 1) cs
  | 0, ')' :: _ => none
  | d + 1, ')' :: cs => depth? d cs
  | d, _ :: cs => depth? d cs

def isBalanced (cs : List Char) : Bool := depth? 0 cs == some 0

/-- The parts before and after the first `needle` outside all groups. -/
def cut? (needle : Char) : Nat → List Char → Option (List Char × List Char)
  | _, [] => none
  | d, '(' :: cs => (cut? needle (d + 1) cs).map fun (a, b) => ('(' :: a, b)
  | d, ')' :: cs => (cut? needle (d - 1) cs).map fun (a, b) => (')' :: a, b)
  | d, c :: cs =>
    if c = needle ∧ d = 0 then some ([], cs)
    else (cut? needle d cs).map fun (a, b) => (c :: a, b)

/-- The byte position of that `needle`. -/
def find? (needle : Char) (cs : List Char) : Option Nat :=
  (cut? needle 0 cs).map fun (before, _) => Text.byteLength before

/-- The text of an open group, when the parenthesis that closes it is the last character; `d` counts
the groups open inside it. -/
def body? : Nat → List Char → Option (List Char)
  | _, [] => none
  | d, '(' :: cs => (body? (d + 1) cs).map ('(' :: ·)
  | 0, ')' :: cs => if cs.isEmpty then some [] else none
  | d + 1, ')' :: cs => (body? d cs).map (')' :: ·)
  | d, c :: cs => (body? d cs).map (c :: ·)

/-- A part between top-level commas, with the byte position at which it starts. -/
structure Segment where
  offset : Nat
  text : List Char
  deriving DecidableEq, Repr

/-- At most 32 characters are shown of a text in an error. -/
def fragment (cs : List Char) : String := String.ofList (cs.take 32)

/-- The rest of the current segment and the segments after it; `opened` holds each open
parenthesis, innermost first, as its position and the text from there. -/
def segmentsFrom (pos : Nat) (opened : List (Nat × List Char)) :
    List Char → Except LocatorError (List Char × List Segment)
  | [] =>
    match opened.getLast? with
    | some (p, text) => .error (.malformed (.unclosedOpen p) (fragment text))
    | none => .ok ([], [])
  | '(' :: cs => do
    let (text, rest) ← segmentsFrom (pos + 1) ((pos, '(' :: cs) :: opened) cs
    return ('(' :: text, rest)
  | ')' :: cs =>
    match opened with
    | [] => .error (.malformed (.unexpectedClose pos) (fragment (')' :: cs)))
    | _ :: outer => do
      let (text, rest) ← segmentsFrom (pos + 1) outer cs
      return (')' :: text, rest)
  | c :: cs => do
    let next := pos + c.utf8Size
    let (text, rest) ← segmentsFrom next opened cs
    if c = ',' ∧ opened.isEmpty then return ([], ⟨next, text⟩ :: rest)
    else return (c :: text, rest)

/-- The parts between the commas that are outside all groups. -/
def segments (cs : List Char) : Except LocatorError (List Segment) := do
  let (text, rest) ← segmentsFrom 0 [] cs
  return ⟨0, text⟩ :: rest

end LocatorQuery.Nesting
