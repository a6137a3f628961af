import LocatorQuery.Locator.Nesting

/-! The written forms of a dimension's value: plain, wrapped in one group, or escaped as base64. -/
namespace LocatorQuery.Value

open Nesting

/-- What an escaped value starts with. -/
def escapeMark : List Char := ['$', 'b', 'a', 's', 'e', '6', '4', ':']

def isParenthesis (c : Char) : Bool := c == '(' || c == ')'

/-- Characters with a meaning between dimensions. -/
def isReserved (c : Char) : Bool := c == ',' || isParenthesis c

/-- The text inside the one group that makes up a value, or the value when it has no parentheses. -/
def payload (raw : List Char) : Except LocatorError (List Char) :=
  let plain :=
    if raw.any isParenthesis then .error (.malformed .looseParenthesis (String.ofList raw))
    else .ok raw
  match raw with
  | '(' :: cs =>
    match body? 0 cs with
    | some inner => .ok inner
    | none => plain
  | _ => plain

def unescape (encoded : List Char) : Except LocatorError (List Char) :=
  let shown := String.ofList encoded
  match Text.Base64Url.decode (Text.bytes shown) with
  | .error fault => .error (.malformed (.base64 fault) shown)
  | .ok decoded =>
    match Text.ofBytes? decoded with
    | some text => .ok text.toList
    | none => .error (.malformed .notUtf8 shown)

/-- The text that a written value stands for. -/
def unwrap (raw : List Char) : Except LocatorError (List Char) := do
  let inner ← payload raw
  if escapeMark.isPrefixOf inner then unescape (inner.drop escapeMark.length)
  else return inner

def escape (value : List Char) : List Char :=
  escapeMark ++
    (Text.Base64Url.encode (Text.bytes (String.ofList value))).map fun b => Char.ofNat b.toNat

/-- The written form of a value inside a dimension: the plainest of the three that reads back. -/
def wrap (value : List Char) : List Char :=
  if escapeMark.isPrefixOf value || !isBalanced value then escape value
  else if value.any isReserved then '(' :: (value ++ [')'])
  else value

/-- The written form of a value that stands alone, where a colon would start a dimension. -/
def wrapAlone (value : List Char) : List Char :=
  let written := wrap value
  if written.head? == some '(' then written
  else if written.contains ':' || written.isEmpty then '(' :: (written ++ [')'])
  else written

end LocatorQuery.Value
