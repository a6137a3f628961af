/-! Integers of 64 bits: what is read as one, and the bounds of the two ranges. -/
namespace LocatorQuery.Text

/-- One more than the largest unsigned number: 2⁶⁴. -/
def unsignedBound : Nat := 0x10000000000000000

/-- One more than the largest signed number: 2⁶³. -/
def signedBound : Nat := 0x8000000000000000

/-- At least one decimal digit and nothing else; leading zeros are allowed. -/
def digits? (cs : List Char) : Option Nat :=
  if cs.isEmpty then none
  else if cs.all Char.isDigit then some (Nat.ofDigitChars 10 cs 0)
  else none

/-- The value of a hexadecimal digit of either case. -/
def hexValue? (c : Char) : Option Nat :=
  let n := c.toNat
  if 48 ≤ n ∧ n ≤ 57 then some (n - 48)
  else if 97 ≤ n ∧ n ≤ 102 then some (n - 87)
  else if 65 ≤ n ∧ n ≤ 70 then some (n - 55)
  else none

/-- The number that digits of a base up to sixteen stand for. -/
def ofBase? (base : Nat) (cs : List Char) : Option Nat :=
  cs.foldlM (fun n c => do
    let d ← hexValue? c
    if d < base then return n * base + d else none) 0

def hexadecimal? (cs : List Char) : Option Nat := ofBase? 16 cs

/-- Unsigned: one plus sign may precede the digits, a minus sign may not. -/
def natural? (cs : List Char) : Option Nat :=
  match cs with
  | '+' :: ds => (digits? ds).filter (· < unsignedBound)
  | ds => (digits? ds).filter (· < unsignedBound)

/-- Signed: one sign of either kind may precede the digits. -/
def integer? (cs : List Char) : Option Int :=
  match cs with
  | '-' :: ds => ((digits? ds).filter (· ≤ signedBound)).map fun n => -(n : Int)
  | '+' :: ds => ((digits? ds).filter (· < signedBound)).map Int.ofNat
  | ds => ((digits? ds).filter (· < signedBound)).map Int.ofNat

/-- An identifier: an unsigned integer kept in 64 bits. -/
def word? (cs : List Char) : Option UInt64 :=
  (natural? cs).map UInt64.ofNat

/-- The signed number with the same 64 bits, so the upper half of the range is negative. -/
def signed (n : Nat) : Int := Int.bmod n unsignedBound

theorem natural?_lt {cs : List Char} {n : Nat} (h : natural? cs = some n) :
    n < unsignedBound := by
  unfold natural? at h
  split at h <;> simpa using (Option.filter_eq_some_iff.1 h).2

theorem signed_of_lt {n : Nat} (h : n < signedBound) : signed n = n := by
  unfold signed unsignedBound
  unfold signedBound at h
  rw [Int.bmod_def]
  omega

end LocatorQuery.Text
