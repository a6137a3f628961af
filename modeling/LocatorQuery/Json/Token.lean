import LocatorQuery.Json.Basic
import LocatorQuery.Text.Numeral

/-! Tokens of JSON text. -/
namespace LocatorQuery.Json

/-- A number or string without content is well formed but stands for no value: a number beyond the
range, or half of a surrogate pair. -/
inductive Token
  | openObject
  | closeObject
  | openArray
  | closeArray
  | colon
  | comma
  | null
  | bool (b : Bool)
  | number (content : Option Number)
  | string (content : Option String)
  | illegible
  deriving Repr, BEq

/-- A character of a string, or a 16-bit unit given by its number. -/
inductive Piece
  | char (c : Char)
  | unit (n : Nat)
  deriving DecidableEq, Repr

def unit? (a b c d : Char) : Option Nat := Text.hexadecimal? [a, b, c, d]

def escape? : Char → Option Char
  | '"' => some '"'
  | '\\' => some '\\'
  | '/' => some '/'
  | 'b' => some '\x08'
  | 'f' => some '\x0c'
  | 'n' => some '\n'
  | 'r' => some '\r'
  | 't' => some '\t'
  | _ => none

/-- The pieces up to the closing quote, and what follows it. -/
def pieces : List Char → Option (List Piece × List Char)
  | [] => none
  | '"' :: cs => some ([], cs)
  | '\\' :: 'u' :: a :: b :: c :: d :: cs => do
    let n ← unit? a b c d
    let (ps, rest) ← pieces cs
    return (.unit n :: ps, rest)
  | '\\' :: e :: cs => do
    let c ← escape? e
    let (ps, rest) ← pieces cs
    return (.char c :: ps, rest)
  | c :: cs =>
    if c.toNat < 0x20 ∨ c = '\\' then none
    else do
      let (ps, rest) ← pieces cs
      return (.char c :: ps, rest)

def isHigh (n : Nat) : Bool := 0xD800 ≤ n && n < 0xDC00

def isLow (n : Nat) : Bool := 0xDC00 ≤ n && n < 0xE000

/-- The characters of a string; surrogates come in pairs. -/
def joined : List Piece → Option (List Char)
  | [] => some []
  | .char c :: ps => (joined ps).map (c :: ·)
  | .unit h :: .unit l :: ps =>
    if isHigh h then
      if isLow l then
        (joined ps).map (Char.ofNat (0x10000 + (h - 0xD800) * 0x400 + (l - 0xDC00)) :: ·)
      else none
    else if isLow h then none
    else (joined (.unit l :: ps)).map (Char.ofNat h :: ·)
  | .unit n :: ps =>
    if isHigh n || isLow n then none else (joined ps).map (Char.ofNat n :: ·)

def digitValue (c : Char) : Nat := c.toNat - 48

/-- The digits in front of a text. -/
def takeDigits (cs : List Char) : List Char × List Char :=
  (cs.takeWhile Char.isDigit, cs.dropWhile Char.isDigit)

/-- A number as it is spelled. -/
structure Numeral where
  negative : Bool
  whole : List Char
  fraction : Option (List Char)
  exponent : Option Int
  deriving DecidableEq, Repr

/-- The digits of a significand as far as 64 bits hold them, after `n`, and the digits left out. -/
def significand (n : Nat) : List Char → Nat × List Char
  | [] => (n, [])
  | d :: ds =>
    let m := n * 10 + digitValue d
    if m < Text.unsignedBound then significand m ds else (n, d :: ds)

def tenTo (n : Nat) : Float := Float.ofScientific 1 false n

/-- One product or quotient of a significand and a power of ten, both rounded to binary64; none when
that is beyond the range. -/
def scaled (n : Nat) (exponent : Int) : Option Float :=
  let x := n.toUInt64.toFloat
  if 0 ≤ exponent then
    if n = 0 then some x
    else if 308 < exponent then none
    else
      let y := x * tenTo exponent.toNat
      if y.isInf then none else some y
  else if -308 ≤ exponent then some (x / tenTo (-exponent).toNat)
  else if -616 ≤ exponent then some (x / tenTo 308 / tenTo (-exponent - 308).toNat)
  else some 0

/-- The float that a spelling stands for. Digits beyond 64 bits count only for the scale. -/
def Numeral.float? (s : Numeral) : Option Float :=
  let (n, dropped) := significand 0 s.whole
  let fraction := s.fraction.getD []
  let (m, cut) := significand n fraction
  let exponent := (dropped.length : Int) - (fraction.length - cut.length : Nat) + s.exponent.getD 0
  (scaled m exponent).map fun x => if s.negative then -x else x

/-- Plain digits are an integer if 64 bits hold it; all else, and minus zero, is a float. -/
def Numeral.value? (s : Numeral) : Option Number :=
  let n := Nat.ofDigitChars 10 s.whole 0
  if s.fraction.isNone ∧ s.exponent.isNone ∧ n < Text.unsignedBound ∧
      (s.negative → 0 < n ∧ n ≤ Text.signedBound) then
    some (.integer (if s.negative then -(n : Int) else n))
  else s.float?.map .float

def fraction? : List Char → Option (Option (List Char) × List Char)
  | '.' :: cs =>
    match takeDigits cs with
    | ([], _) => none
    | (ds, rest) => some (some ds, rest)
  | cs => some (none, cs)

def exponentDigits? (negative : Bool) (cs : List Char) : Option (Option Int × List Char) :=
  match takeDigits cs with
  | ([], _) => none
  | (ds, rest) =>
    let n : Int := Nat.ofDigitChars 10 ds 0
    some (some (if negative then -n else n), rest)

def exponent? : List Char → Option (Option Int × List Char)
  | 'e' :: cs | 'E' :: cs =>
    match cs with
    | '-' :: ds => exponentDigits? true ds
    | '+' :: ds => exponentDigits? false ds
    | ds => exponentDigits? false ds
  | cs => some (none, cs)

/-- A number in front of a text: no superfluous zero ahead, and digits wherever they are due. -/
def numeral? (cs : List Char) : Option (Numeral × List Char) := do
  let (negative, cs) := match cs with
    | '-' :: rest => (true, rest)
    | rest => (false, rest)
  let (whole, cs) := takeDigits cs
  guard (!whole.isEmpty && (whole.length == 1 || whole.head? != some '0'))
  let (fraction, cs) ← fraction? cs
  let (exponent, cs) ← exponent? cs
  return ({ negative, whole, fraction, exponent }, cs)

/-- The token in front of a text that starts with neither a blank nor its end. -/
def token? : List Char → Option (Token × List Char)
  | '\x7b' :: cs => some (.openObject, cs)
  | '\x7d' :: cs => some (.closeObject, cs)
  | '[' :: cs => some (.openArray, cs)
  | ']' :: cs => some (.closeArray, cs)
  | ':' :: cs => some (.colon, cs)
  | ',' :: cs => some (.comma, cs)
  | 'n' :: 'u' :: 'l' :: 'l' :: cs => some (.null, cs)
  | 't' :: 'r' :: 'u' :: 'e' :: cs => some (.bool true, cs)
  | 'f' :: 'a' :: 'l' :: 's' :: 'e' :: cs => some (.bool false, cs)
  | '"' :: cs => (pieces cs).map fun (ps, rest) => (.string ((joined ps).map String.ofList), rest)
  | cs => (numeral? cs).map fun (s, rest) => (.number s.value?, rest)

def isSpace (c : Char) : Bool := c == ' ' || c == '\n' || c == '\t' || c == '\r'

/-- The tokens of a text, at most as many as the fuel; after an illegible one nothing is read. -/
def tokensFrom : Nat → List Char → List Token
  | 0, _ => []
  | fuel + 1, cs =>
    match cs.dropWhile isSpace with
    | [] => []
    | cs =>
      match token? cs with
      | some (t, rest) => t :: tokensFrom fuel rest
      | none => [.illegible]

/-- Every token takes a character, so the fuel is never used up. -/
def tokens (cs : List Char) : List Token := tokensFrom (cs.length + 1) cs

end LocatorQuery.Json
