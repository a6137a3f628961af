import LocatorQuery.Text.Numeral
import LocatorQuery.Yaml.Scalar.Plain

/-! Anchors and tags, which may stand ahead of a node. -/
namespace LocatorQuery.Yaml

/-- A tag as written: a handle, which stands for the beginning of the tag, and the rest. A tag that
is written in full has no handle. Each character of a tag stands for the octet with its number. -/
structure Tag where
  handle : String
  suffix : String
  deriving DecidableEq, Repr

/-- Characters of anchors, handles and directives. -/
def isNameChar (c : Char) : Bool := c.isAlphanum || c == '_' || c == '-'

/-- Characters of tags besides those of names and octets by number. -/
def isTagSign (c : Char) : Bool := ";/?:@&=+$.!~*'()".contains c

/-- The name of an anchor, behind which a blank or one of a few signs stands. -/
def anchorName? (cs : List Cell) : Option (String × List Cell) :=
  let (name, rest) := spanChars isNameChar cs
  if name.isEmpty then none
  else if atBlank rest || atChar ("?:,]\x7d%@\x60".contains ·) rest then
    some (String.ofList name, rest)
  else none

/-- The octet with two hexadecimal digits. -/
def octet? (digits : List Char) : Option Nat :=
  if digits.length < 2 then none else Text.hexadecimal? digits

/-- How many octets follow the first octet of a character. -/
def octetsAfter? (octet : Nat) : Option Nat :=
  if octet < 0x80 then some 0
  else if octet / 32 = 6 then some 1
  else if octet / 16 = 14 then some 2
  else if octet / 8 = 30 then some 3
  else none

/-- The characters of a tag, of which an octet by number is one too; `due` octets of a character are
still to come. -/
def tagChars (isSign : Char → Bool) (due : Nat) (cells : List Cell) :
    Option (List Char × List Cell) :=
  match cells with
  | [] => if due = 0 then some ([], []) else none
  | c :: cs =>
    if c.char = '%' then do
      let octet ← octet? ((cs.take 2).map Cell.char)
      let due ← if due = 0 then octetsAfter? octet
        else if octet / 64 = 2 then some (due - 1) else none
      let (text, rest) ← tagChars isSign due (cs.drop 2)
      return (Char.ofNat octet :: text, rest)
    else if due ≠ 0 then none
    else if isNameChar c.char || isSign c.char then
      (tagChars isSign 0 cs).map fun (text, rest) => (c.char :: text, rest)
    else some ([], c :: cs)
termination_by cells.length
decreasing_by all_goals simp only [List.length_cons, List.length_drop]; omega

/-- A null octet ends a tag, whatever is written behind it. -/
def untilNull (cs : List Char) : String := String.ofList (cs.takeWhile (· != '\x00'))

/-- The rest of a tag behind its handle. -/
def tagSuffix (cs : List Cell) : Option (List Char × List Cell) := tagChars isTagSign 0 cs

/-- A tag in full, in which a few more signs may stand. -/
def fullTag? (cs : List Cell) : Option (String × List Cell) := do
  let (text, rest) ← tagChars (fun c => isTagSign c || ",[]".contains c) 0 cs
  if text.isEmpty then none else return (untilNull text, rest)

/-- A tag from behind its exclamation mark on: in full between angle brackets, behind a handle that
ends in a second mark, or else behind the shortest handle. The mark alone is a tag too. -/
def tagForm? (cs : List Cell) : Option (Tag × List Cell) :=
  if atChar (· == '<') cs then do
    let (text, rest) ← fullTag? (cs.drop 1)
    if atChar (· == '>') rest then return (⟨"", text⟩, rest.drop 1) else none
  else
    let (name, rest) := spanChars isNameChar cs
    if atChar (· == '!') rest then do
      let (text, rest) ← tagSuffix (rest.drop 1)
      if text.isEmpty then none
      else return (⟨String.ofList ('!' :: name ++ ['!']), untilNull text⟩, rest)
    else do
      let (text, rest) ← tagSuffix rest
      let suffix := untilNull (name ++ text)
      return (if suffix.isEmpty then ⟨"", "!"⟩ else ⟨"!", suffix⟩, rest)

/-- A tag with the blank behind it, in brackets also with a comma. -/
def tag? (flow : Bool) (cs : List Cell) : Option (Tag × List Cell) := do
  let (tag, rest) ← tagForm? cs
  if atBlank rest || (flow && atChar (· == ',') rest) then return (tag, rest) else none

end LocatorQuery.Yaml
