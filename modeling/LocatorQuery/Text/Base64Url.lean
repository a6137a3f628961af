/-! Base64 over the URL-safe alphabet: written without padding, read with no slack at the end. -/
namespace LocatorQuery.Text.Base64Url

/-- Why bytes are no encoding; offsets count bytes from the start. -/
inductive Fault
  | symbol (byte : UInt8) (offset : Nat)
  | length (offset : Nat)
  | padding
  | lastSymbol (byte : UInt8) (offset : Nat)
  deriving DecidableEq, Repr

def Fault.message : Fault → String
  | .symbol byte offset => s!"Invalid symbol {byte}, offset {offset}."
  | .length offset => s!"Invalid input length: {offset}"
  | .padding => "Invalid padding"
  | .lastSymbol byte offset => s!"Invalid last symbol {byte}, offset {offset}."

/-- The six bits that a symbol stands for. -/
def value? (byte : UInt8) : Option Nat :=
  let n := byte.toNat
  if 65 ≤ n ∧ n ≤ 90 then some (n - 65)
  else if 97 ≤ n ∧ n ≤ 122 then some (n - 71)
  else if 48 ≤ n ∧ n ≤ 57 then some (n + 4)
  else if n = 45 then some 62
  else if n = 95 then some 63
  else none

/-- The symbol for six bits. -/
def symbol (v : Nat) : UInt8 :=
  if v < 26 then UInt8.ofNat (v + 65)
  else if v < 52 then UInt8.ofNat (v + 71)
  else if v < 62 then UInt8.ofNat (v - 4)
  else if v = 62 then 45
  else 95

/-- The padding sign of other alphabets; here it is never accepted. -/
def pad : UInt8 := 61

def encode : List UInt8 → List UInt8
  | a :: b :: c :: rest =>
    symbol (a.toNat / 4) :: symbol (a.toNat % 4 * 16 + b.toNat / 16) ::
      symbol (b.toNat % 16 * 4 + c.toNat / 64) :: symbol (c.toNat % 64) :: encode rest
  | [a, b] =>
    [symbol (a.toNat / 4), symbol (a.toNat % 4 * 16 + b.toNat / 16), symbol (b.toNat % 16 * 4)]
  | [a] => [symbol (a.toNat / 4), symbol (a.toNat % 4 * 16)]
  | [] => []

def symbolAt (byte : UInt8) (offset : Nat) : Except Fault Nat :=
  match value? byte with
  | some v => .ok v
  | none => .error (.symbol byte offset)

/-- The values of the last group from one index on, and whether padding signs follow them. -/
def lastValues (start : Nat) : Nat → Option Nat → List UInt8 → Except Fault (List Nat × Bool)
  | _, padded, [] => .ok ([], padded.isSome)
  | i, padded, byte :: rest =>
    if byte = pad then
      if i < 2 then .error (.symbol byte (start + i))
      else lastValues start (i + 1) (padded.or (some i)) rest
    else match padded with
      | some first => .error (.symbol pad (start + first))
      | none => do
        let v ← symbolAt byte (start + i)
        let (vs, p) ← lastValues start (i + 1) none rest
        return (v :: vs, p)

/-- The last group holds two to four symbols, and its unused low bits are zero. -/
def lastGroup (start : Nat) (group : List UInt8) : Except Fault (List UInt8) := do
  let (values, padded) ← lastValues start 0 none group
  match values with
  | [] => if group.isEmpty then return [] else throw (.length start)
  | [_] => throw (.length (start + 1))
  | [v, w] =>
    if padded then throw .padding
    else if w % 16 ≠ 0 then throw (.lastSymbol (symbol w) (start + 1))
    else return [UInt8.ofNat (v * 4 + w / 16)]
  | [v, w, x] =>
    if padded then throw .padding
    else if x % 4 ≠ 0 then throw (.lastSymbol (symbol x) (start + 2))
    else return [UInt8.ofNat (v * 4 + w / 16), UInt8.ofNat (w % 16 * 16 + x / 4)]
  | v :: w :: x :: y :: _ =>
    return [UInt8.ofNat (v * 4 + w / 16), UInt8.ofNat (w % 16 * 16 + x / 4),
      UInt8.ofNat (x % 4 * 64 + y)]

/-- Groups of four from the given offset on; the last one may be short. -/
def groups (start : Nat) : List UInt8 → Except Fault (List UInt8)
  | a :: b :: c :: d :: e :: rest => do
    let v ← symbolAt a start
    let w ← symbolAt b (start + 1)
    let x ← symbolAt c (start + 2)
    let y ← symbolAt d (start + 3)
    let decoded ← groups (start + 4) (e :: rest)
    return UInt8.ofNat (v * 4 + w / 16) :: UInt8.ofNat (w % 16 * 16 + x / 4) ::
      UInt8.ofNat (x % 4 * 64 + y) :: decoded
  | group => lastGroup start group

/-- A foreign byte that stands alone after full groups is reported before anything else. -/
def decode (encoded : List UInt8) : Except Fault (List UInt8) :=
  match encoded.getLast? with
  | some last =>
    if encoded.length % 4 = 1 ∧ last ≠ pad ∧ (value? last).isNone then
      .error (.symbol last (encoded.length - 1))
    else groups 0 encoded
  | none => .ok []

end LocatorQuery.Text.Base64Url
