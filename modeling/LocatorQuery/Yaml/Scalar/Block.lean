import LocatorQuery.Yaml.Cell

/-! Scalars that are indented lines, taken literally or folded. -/
namespace LocatorQuery.Yaml

/-- What becomes of the breaks at the end of a block scalar. -/
inductive Chomping
  | strip
  | clip
  | keep
  deriving DecidableEq, Repr

/-- What stands behind the sign of a block scalar. -/
structure BlockHeader where
  chomping : Chomping := .clip
  /-- How far the lines are indented, where that is said. -/
  increment : Option Nat := none
  deriving DecidableEq, Repr

def chomping? : List Cell → Option (Chomping × List Cell)
  | [] => none
  | c :: cs =>
    if c.char = '+' then some (.keep, cs) else if c.char = '-' then some (.strip, cs) else none

/-- A digit other than zero, which is an error. -/
def increment? : List Cell → Option (Option Nat × List Cell)
  | [] => some (none, [])
  | c :: cs =>
    if c.char = '0' then none
    else if c.char.isDigit then some (some (c.char.toNat - 48), cs)
    else some (none, c :: cs)

/-- Chomping and indentation in either order; only a comment may follow on the line. -/
def blockHeader? (cs : List Cell) : Option (BlockHeader × List Cell) := do
  let (header, rest) ← match chomping? cs with
    | some (chomping, rest) => do
      let (increment, rest) ← increment? rest
      some ({ chomping, increment }, rest)
    | none => do
      let (increment, rest) ← increment? cs
      match increment, chomping? rest with
      | some _, some (chomping, rest) => some ({ chomping, increment }, rest)
      | _, _ => some ({ increment }, rest)
  match afterComment rest with
  | [] => return (header, [])
  | c :: rest => if isBreak c.char then return (header, rest) else none

/-- What comes after the spaces ahead of a line, with the breaks of the lines that hold nothing else
and the rightmost column where one of them or the text ahead starts. Only spaces left of `limit`
are skipped, and no tab stands among them. -/
def indentation (limit : Option Nat) : List Cell → Option (List Char × Nat × List Cell)
  | [] => some ([], 0, [])
  | c :: cs =>
    if c.char = ' ' && limit.all (c.column < ·) then indentation limit cs
    else if c.char = '\t' && limit.all (c.column < ·) then none
    else if isBreak c.char then
      (indentation limit cs).map fun (breaks, column, rest) =>
        (c.char :: breaks, max c.column column, rest)
    else some ([], c.column, c :: cs)

theorem length_of_indentation {limit : Option Nat} {cs rest : List Cell} {breaks : List Char}
    {column : Nat} (h : indentation limit cs = some (breaks, column, rest)) :
    rest.length ≤ cs.length := by
  induction cs generalizing breaks column with
  | nil =>
    simp only [indentation, Option.some.injEq, Prod.mk.injEq] at h
    simp [← h.2.2]
  | cons c cs ih =>
    unfold indentation at h
    split at h
    · exact Nat.le_succ_of_le (ih h)
    · split at h
      · contradiction
      · split at h
        · obtain ⟨⟨tail, deepest, left⟩, read, same⟩ := Option.map_eq_some_iff.1 h
          simp only [Prod.mk.injEq] at same
          obtain ⟨-, -, rfl⟩ := same
          exact Nat.le_succ_of_le (ih read)
        · simp only [Option.some.injEq, Prod.mk.injEq] at h
          simp [← h.2.2]

/-- What joins a line to the one before: the break between them and the empty lines that follow it.
Where lines are folded one line feed is a blank and goes missing ahead of empty lines, unless a
line starts with a blank. -/
def lineJoint (literal blankStart : Bool) (ending empty : List Char) : List Char :=
  if !literal && !blankStart && ending == ['\n'] then if empty.isEmpty then [' '] else empty
  else ending ++ empty

/-- The lines that start in the column `indent`, with the break behind the last one and those of
the empty lines after it. -/
def blockLines (literal : Bool) (indent : Nat) (blankBefore : Bool) (ending empty : List Char)
    (cells : List Cell) : Option (List Char × List Char × List Char × List Cell) :=
  match cells with
  | [] => some ([], ending, empty, [])
  | c :: cs =>
    if c.column ≠ indent then some ([], ending, empty, c :: cs)
    else
      let joint := lineJoint literal (blankBefore || isSpace c.char) ending empty
      let line := (spanChars (!isBreak ·) (c :: cs)).1
      let after := (spanChars (!isBreak ·) (c :: cs)).2
      match h : indentation (some indent) (after.drop 1) with
      | none => none
      | some (nextEmpty, _, next) =>
        have _ : next.length ≤ after.length - 1 := by simpa using length_of_indentation h
        (blockLines literal indent (isSpace c.char) ((after.take 1).map Cell.char) nextEmpty
          next).map fun (text, rest) => (joint ++ line ++ text, rest)
termination_by cells.length
decreasing_by
  have read : after.length ≤ (c :: cs).length := length_spanChars_le (!isBreak ·) (c :: cs)
  simp only [List.length_cons] at read ⊢
  omega

def Chomping.tail : Chomping → List Char → List Char → List Char
  | strip, _, _ => []
  | clip, ending, _ => ending
  | keep, ending, empty => ending ++ empty

/-- A block scalar from behind its sign on. Its lines start at `floor` or right of it; unless the
header says where, the first of them and the empty lines ahead decide. -/
def block? (literal : Bool) (floor : Nat) (cs : List Cell) : Option (String × List Cell) := do
  let (header, rest) ← blockHeader? cs
  let given := header.increment.map (floor - 1 + ·)
  let (empty, column, rest) ← indentation given rest
  let indent := given.getD (max column (max floor 1))
  let (text, ending, empty, rest) ← blockLines literal indent false [] empty rest
  return (String.ofList (text ++ header.chomping.tail ending empty), rest)

end LocatorQuery.Yaml
