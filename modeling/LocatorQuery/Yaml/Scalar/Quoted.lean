import LocatorQuery.Text.Numeral
import LocatorQuery.Yaml.Scalar.Folding

/-! Scalars in single and in double quotes. -/
namespace LocatorQuery.Yaml

inductive Quote
  | single
  | double
  deriving DecidableEq, Repr

def Quote.char : Quote → Char
  | single => '\''
  | double => '"'

/-- How many hexadecimal digits follow the letter of an escape. -/
def escapeDigits : Char → Option Nat
  | 'x' => some 2
  | 'u' => some 4
  | 'U' => some 8
  | _ => none

def escapedChar? : Char → Option Char
  | '0' => some '\x00'
  | 'a' => some '\x07'
  | 'b' => some '\x08'
  | 't' | '\t' => some '\t'
  | 'n' => some '\n'
  | 'v' => some '\x0b'
  | 'f' => some '\x0c'
  | 'r' => some '\r'
  | 'e' => some '\x1b'
  | ' ' => some ' '
  | '"' => some '"'
  | '/' => some '/'
  | '\\' => some '\\'
  | 'N' => some '\u0085'
  | '_' => some '\u00a0'
  | 'L' => some '\u2028'
  | 'P' => some '\u2029'
  | _ => none

/-- The character with a number in so many hexadecimal digits. -/
def numbered? (digits : List Char) (count : Nat) : Option Char := do
  if digits.length < count then none
  let n ← Text.hexadecimal? digits
  if n < 0xD800 || (0xDFFF < n && n ≤ 0x10FFFF) then return Char.ofNat n else none

/-- The characters up to the closing quote. In single quotes two quotes are one; in double quotes a
backslash escapes a character, a number or the end of a line, which then joins nothing. No line is
the bound of a document. -/
def quotedChars (q : Quote) (cells : List Cell) : Option (List Char × List Cell) :=
  match cells with
  | [] => none
  | c :: cs =>
    if isBlank c.char then
      let gap := c.char :: (spanChars isBlank cs).1
      let rest := (spanChars isBlank cs).2
      if atBound rest then none
      else (quotedChars q rest).map fun (text, rest) => (folded gap ++ text, rest)
    else if q = .single && c.char = '\'' && atChar (· == '\'') cs then
      (quotedChars q (cs.drop 1)).map fun (text, rest) => ('\'' :: text, rest)
    else if c.char = q.char then some ([], cs)
    else if q = .double && c.char = '\\' then
      match cs with
      | [] => none
      | e :: cs =>
        if isBreak e.char then
          let gap := (spanChars isBlank cs).1
          let rest := (spanChars isBlank cs).2
          if atBound rest then none
          else (quotedChars q rest).map fun (text, rest) => (gap.filter isBreak ++ text, rest)
        else match escapeDigits e.char with
          | some count => do
            let d ← numbered? ((cs.take count).map Cell.char) count
            let (text, rest) ← quotedChars q (cs.drop count)
            return (d :: text, rest)
          | none => do
            let d ← escapedChar? e.char
            let (text, rest) ← quotedChars q cs
            return (d :: text, rest)
    else (quotedChars q cs).map fun (text, rest) => (c.char :: text, rest)
termination_by cells.length
decreasing_by
  all_goals simp only [List.length_cons, List.length_drop]
  all_goals first
    | omega
    | exact Nat.lt_succ_of_le (length_spanChars_le isBlank cs)
    | exact Nat.lt_succ_of_le (Nat.le_succ_of_le (length_spanChars_le isBlank cs))

/-- A quoted scalar from behind its opening quote on. -/
def quoted? (q : Quote) (cs : List Cell) : Option (String × List Cell) :=
  (quotedChars q cs).map fun (text, rest) => (String.ofList text, rest)

end LocatorQuery.Yaml
