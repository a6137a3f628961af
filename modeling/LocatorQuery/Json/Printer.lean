import LocatorQuery.Decimal.Layout
import LocatorQuery.Json.Basic

/-! The written form of JSON values, compact or indented. -/
namespace LocatorQuery.Json

/-- The sixteen digits are written in lower case. -/
def hexDigit (n : Nat) : Char := Nat.digitChar (n % 16)

/-- Quotes, backslashes and control characters are escaped, all else stands for itself. -/
def escaped (c : Char) : List Char :=
  match c with
  | '"' => ['\\', '"']
  | '\\' => ['\\', '\\']
  | '\x08' => ['\\', 'b']
  | '\t' => ['\\', 't']
  | '\n' => ['\\', 'n']
  | '\x0c' => ['\\', 'f']
  | '\r' => ['\\', 'r']
  | c =>
    if c.toNat < 0x20 then ['\\', 'u', '0', '0', hexDigit (c.toNat / 16), hexDigit c.toNat]
    else [c]

def quoted (s : String) : List Char := '"' :: (s.toList.flatMap escaped ++ ['"'])

def numberText : Number → List Char
  | .integer n => Decimal.integerText n
  | .float x => Decimal.text (Decimal.shortest x.toBits)

def boolText (b : Bool) : List Char := (if b then "true" else "false").toList

mutual

/-- The text without any blanks. -/
def compactChars : Json → List Char
  | .null => ['n', 'u', 'l', 'l']
  | .bool b => boolText b
  | .number n => numberText n
  | .string s => quoted s
  | .array [] => ['[', ']']
  | .array (j :: js) => '[' :: (j.compactChars ++ compactItems js)
  | .object [] => ['\x7b', '\x7d']
  | .object ((n, j) :: ms) => '\x7b' :: (quoted n ++ ':' :: (j.compactChars ++ compactMembers ms))

/-- The items after the first and the closing bracket. -/
def compactItems : List Json → List Char
  | [] => [']']
  | j :: js => ',' :: (j.compactChars ++ compactItems js)

/-- The members after the first and the closing brace. -/
def compactMembers : List (String × Json) → List Char
  | [] => ['\x7d']
  | (n, j) :: ms => ',' :: (quoted n ++ ':' :: (j.compactChars ++ compactMembers ms))

end

def compact (j : Json) : String := String.ofList j.compactChars

/-- A new line at the given depth, two blanks a level. -/
def newLine (depth : Nat) : List Char := '\n' :: List.replicate (2 * depth) ' '

mutual

/-- The text with every item and member on a line of its own. -/
def indentedChars (depth : Nat) : Json → List Char
  | .array (j :: js) =>
    '[' :: (newLine (depth + 1) ++ (j.indentedChars (depth + 1) ++ indentedItems depth js))
  | .object ((n, j) :: ms) =>
    '\x7b' :: (newLine (depth + 1) ++ (quoted n ++ ':' :: ' ' ::
      (j.indentedChars (depth + 1) ++ indentedMembers depth ms)))
  | .null => ['n', 'u', 'l', 'l']
  | .bool b => boolText b
  | .number n => numberText n
  | .string s => quoted s
  | .array [] => ['[', ']']
  | .object [] => ['\x7b', '\x7d']

def indentedItems (depth : Nat) : List Json → List Char
  | [] => newLine depth ++ [']']
  | j :: js =>
    ',' :: (newLine (depth + 1) ++ (j.indentedChars (depth + 1) ++ indentedItems depth js))

def indentedMembers (depth : Nat) : List (String × Json) → List Char
  | [] => newLine depth ++ ['\x7d']
  | (n, j) :: ms =>
    ',' :: (newLine (depth + 1) ++ (quoted n ++ ':' :: ' ' ::
      (j.indentedChars (depth + 1) ++ indentedMembers depth ms)))

end

def indented (j : Json) : String := String.ofList (j.indentedChars 0)

end LocatorQuery.Json
