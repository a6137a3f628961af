import LocatorQuery.Decimal.Shortest

/-! The written form of a decimal: positional in a middle range, with an exponent outside it. -/
namespace LocatorQuery.Decimal

/-- The digits of a decimal and the place of its point, counted from the first digit. -/
def Parts.pointed (p : Parts) : List Char × Int :=
  let ds := Nat.toDigits 10 p.digits
  (ds, if p.digits = 0 then 1 else ds.length + p.exponent)

def Parts.sign (p : Parts) : List Char := if p.negative then ['-'] else []

/-- Without an exponent; a whole number keeps one decimal place. -/
def positional (p : Parts) : List Char :=
  let (ds, point) := p.pointed
  p.sign ++
    if point ≤ 0 then '0' :: '.' :: (List.replicate (-point).toNat '0' ++ ds)
    else if ds.length ≤ point.toNat then
      ds ++ List.replicate (point.toNat - ds.length) '0' ++ ['.', '0']
    else ds.take point.toNat ++ '.' :: ds.drop point.toNat

def integerText (n : Int) : List Char :=
  if n < 0 then '-' :: Nat.toDigits 10 n.natAbs else Nat.toDigits 10 n.natAbs

/-- The power of ten behind the digits, always with its sign. -/
def exponentText (n : Int) : List Char :=
  if n < 0 then integerText n else '+' :: integerText n

/-- Positional from 10⁻⁵ up to below 10¹⁶, and otherwise one digit ahead of the point and an
exponent. -/
def text (p : Parts) : List Char :=
  let (ds, point) := p.pointed
  if -5 < point ∧ point ≤ 16 then positional p
  else
    let mantissa := match ds with
      | [d] => [d]
      | d :: rest => d :: '.' :: rest
      | [] => []
    p.sign ++ mantissa ++ 'e' :: exponentText (point - 1)

end LocatorQuery.Decimal
