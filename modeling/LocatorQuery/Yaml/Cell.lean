/-! Characters of a YAML text with the places where they stand. -/
namespace LocatorQuery.Yaml

/-- A character with its line, its column and the bytes ahead of it. -/
structure Cell where
  char : Char
  offset : Nat
  line : Nat
  column : Nat
  deriving DecidableEq, Repr

/-- Characters that a text may hold. -/
def isAllowed (c : Char) : Bool :=
  let n := c.toNat
  n == 9 || n == 10 || n == 13 || (0x20 ≤ n && n ≤ 0x7E) || n == 0x85 ||
    (0xA0 ≤ n && n ≤ 0xFFFD) || 0x10000 ≤ n

/-- Separators of lines and of paragraphs end a line as line feeds do, but keep their identity. -/
def isBreak (c : Char) : Bool := c == '\n' || c == '\u2028' || c == '\u2029'

def isSpace (c : Char) : Bool := c == ' ' || c == '\t'

def isBlank (c : Char) : Bool := isSpace c || isBreak c

/-- The cells of a text, in which all other line ends become line feeds. -/
def cellsFrom (offset line column : Nat) : List Char → List Cell
  | [] => []
  | '\r' :: '\n' :: cs => ⟨'\n', offset, line, column⟩ :: cellsFrom (offset + 2) (line + 1) 0 cs
  | c :: cs =>
    let read := if c = '\r' || c = '\u0085' then '\n' else c
    let next := offset + c.utf8Size
    ⟨read, offset, line, column⟩ ::
      if isBreak read then cellsFrom next (line + 1) 0 cs else cellsFrom next line (column + 1) cs

/-- The mark of byte order. One may stand ahead of a line, where it takes the first column. -/
def orderMark : Char := '\uFEFF'

def cells? (text : String) : Option (List Cell) :=
  let cs := text.toList
  if cs.all isAllowed then some (cellsFrom 0 0 0 cs) else none

/-- Whether the next character satisfies a test. -/
def atChar (p : Char → Bool) : List Cell → Bool
  | [] => false
  | c :: _ => p c.char

/-- Whether a blank, a break or the end of the text comes next. -/
def atBlank : List Cell → Bool
  | [] => true
  | c :: _ => isBlank c.char

/-- Whether a line starts here with three times the given sign, which bounds a document. -/
def atMarker (sign : Char) : List Cell → Bool
  | a :: b :: c :: cs =>
    a.column == 0 && a.char == sign && b.char == sign && c.char == sign && atBlank cs
  | _ => false

def atBound (cs : List Cell) : Bool := atMarker '-' cs || atMarker '.' cs

/-- The characters up to the first that fails a test, and the cells from there on. -/
def spanChars (p : Char → Bool) : List Cell → List Char × List Cell
  | [] => ([], [])
  | c :: cs =>
    if p c.char then
      let (taken, rest) := spanChars p cs
      (c.char :: taken, rest)
    else ([], c :: cs)

/-- What comes after spaces, tabs and a comment on the line. -/
def afterComment (cs : List Cell) : List Cell :=
  let rest := cs.dropWhile fun c => isSpace c.char
  if atChar (· == '#') rest then rest.dropWhile fun c => !isBreak c.char else rest

theorem length_spanChars_le (p : Char → Bool) (cs : List Cell) :
    (spanChars p cs).2.length ≤ cs.length := by
  induction cs with
  | nil => simp [spanChars]
  | cons c cs ih =>
    cases h : p c.char with
    | false => simp [spanChars, h]
    | true =>
      simp only [spanChars, h, if_true, List.length_cons]
      omega

end LocatorQuery.Yaml
