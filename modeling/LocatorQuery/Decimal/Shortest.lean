/-! Shortest decimals: the fewest digits that name a binary64 number among its neighbours. -/
namespace LocatorQuery.Decimal

/-- The decimal number `digits · 10 ^ exponent`. -/
structure Parts where
  negative : Bool
  digits : Nat
  exponent : Int
  deriving DecidableEq, Repr

/-- The magnitude `significand · 2 ^ exponent`. The numbers that round to it reach `lower` quarters
of its unit down and two quarters up. -/
structure Binary where
  significand : Nat
  exponent : Int
  lower : Nat
  deriving DecidableEq, Repr

/-- The magnitude with the given bits, if they are finite. Below a power of two the neighbour is
half as far as above it. -/
def Binary.ofBits (bits : UInt64) : Binary :=
  let fraction : Nat := (bits &&& 0xFFFFFFFFFFFFF).toNat
  let field : Nat := (bits >>> 52 &&& 0x7FF).toNat
  if field = 0 then { significand := fraction, exponent := -1074, lower := 2 }
  else
    { significand := fraction + 0x10000000000000
      exponent := (field : Int) - 1075
      lower := if fraction = 0 ∧ 1 < field then 1 else 2 }

/-- The points next to `value` among the multiples of `unit` that round to it, each as its multiple
and its distance. -/
def candidates (value low high unit : Nat) (closed : Bool) : List (Nat × Nat) :=
  let inside (p : Nat) : Bool :=
    if closed then low ≤ p && p ≤ high else low < p && p < high
  let below := value / unit
  [(below, value - below * unit), (below + 1, (below + 1) * unit - value)].filter fun (k, _) =>
    inside (k * unit) && k != 0

/-- The nearer point; of two equally near ones the even one. -/
def nearest? : List (Nat × Nat) → Option Nat
  | [] => none
  | [(k, _)] => some k
  | (j, dj) :: (k, dk) :: _ =>
    if dj < dk then some j else if dk < dj then some k else some (if j % 2 = 0 then j else k)

/-- The nearest point of the coarsest grid that has one, from the multiples of `10 ^ exponent` on,
trying the given number of grids. -/
def search (b : Binary) : Nat → Int → Option (Nat × Int)
  | 0, _ => none
  | grids + 1, exponent =>
    let quarter := b.exponent - 2
    let scale := 2 ^ quarter.toNat * 10 ^ (-exponent).toNat
    let unit := 10 ^ exponent.toNat * 2 ^ (-quarter).toNat
    let value := 4 * b.significand * scale
    match nearest? (candidates value (value - b.lower * scale) (value + 2 * scale) unit
        (b.significand % 2 == 0)) with
    | some digits => some (digits, exponent)
    | none => search b grids (exponent - 1)

/-- A power of ten above the magnitude, by less than two digits. -/
def scaleAbove (b : Binary) : Int :=
  let bits : Int := (Nat.log2 b.significand : Int) + 1 + b.exponent
  bits * 30103 / 100000 + 1

/-- The shortest decimal that reads back as the finite number with the given bits; seventeen digits
always suffice. -/
def shortest (bits : UInt64) : Parts :=
  let b := Binary.ofBits bits
  let found := if b.significand = 0 then none else search b 20 (scaleAbove b)
  let (digits, exponent) := found.getD (0, 0)
  { negative := bits >>> 63 == 1, digits, exponent }

end LocatorQuery.Decimal
