import WorkspaceServers.Number.Decimal
import WorkspaceServers.Number.Double

/-!
The decimal text of a binary64 number: the fewest digits that read back as the number
and, of those, the nearest. The first grid of decimal points fine enough to have one
between the number's neighbours gives the digits.
-/

namespace WorkspaceServers.Double

/-- Four times the magnitude and the ends of the interval that rounds to it, in the same
unit. Below a power of two the next number is half as far. -/
def spread (x : Double) : Nat × Nat × Nat :=
  let unit := 1 <<< x.shift
  let below := if x.significand = leadingBit ∧ x.shift ≠ 0 then 1 else 2
  ((4 * x.significand - below) * unit, 4 * x.significand * unit, (4 * x.significand + 2) * unit)

/-- The exponent `e` with `10 ^ (e - 1) ≤ x < 10 ^ e`. -/
def decade (x : Double) : Int :=
  ((Decimal.digits (x.magnitude * Decimal.ten 400 / denominator)).length : Int) - 400

/-- The point nearest to `x` among the multiples of `10 ^ place`, if one rounds to `x`; of
two equally near the even one. An even significand takes the ends of its interval too. -/
def gridPoint? (x : Double) (place : Int) : Option Nat :=
  let grow := Decimal.ten (-place).toNat
  let point := 4 * denominator * Decimal.ten place.toNat
  let (low, mid, high) := x.spread
  let inside (k : Nat) : Bool :=
    if x.significand % 2 = 0 then low * grow ≤ k * point && k * point ≤ high * grow
    else low * grow < k * point && k * point < high * grow
  let k := mid * grow / point
  let twice := 2 * (mid * grow % point)
  let nearer :=
    if twice < point ∨ (twice = point ∧ k % 2 = 0) then [k, k + 1] else [k + 1, k]
  nearer.find? inside

def shortestFrom (x : Double) : Nat → Int → Nat × Int
  | 0, place => ((gridPoint? x place).getD 0, place)
  | tries + 1, place =>
    match gridPoint? x place with
    | some k => (k, place)
    | none => shortestFrom x tries (place - 1)

def shortest (x : Double) : Nat × Int :=
  if x.isZero then (0, 0) else x.shortestFrom 17 (x.decade - 1)

def exponentDigits (n : Int) : List Char :=
  if n < 0 then '-' :: Decimal.digits n.natAbs else '+' :: Decimal.digits n.natAbs

/-- Positional from 1e-5 up to below 1e16, with at least one digit on each side of the
point; a power of ten after `e` elsewhere. -/
def positional (numeral : List Char) (place : Int) : List Char :=
  let point := place + numeral.length
  if 0 ≤ place ∧ point ≤ 16 then
    numeral ++ List.replicate place.toNat '0' ++ ['.', '0']
  else if 0 < point ∧ point ≤ 16 then
    numeral.take point.toNat ++ '.' :: numeral.drop point.toNat
  else if -5 < point ∧ point ≤ 0 then
    ['0', '.'] ++ List.replicate (-point).toNat '0' ++ numeral
  else
    let mantissa := match numeral with
      | first :: second :: rest => first :: '.' :: second :: rest
      | short => short
    mantissa ++ 'e' :: exponentDigits (point - 1)

def trimmed (numeral : List Char) (place : Int) : List Char × Int :=
  let kept := (numeral.reverse.dropWhile (· = '0')).reverse
  (kept, place + (numeral.length - kept.length : Nat))

def text (x : Double) : List Char :=
  let sign := if x.negative then ['-'] else []
  if x.isZero then sign ++ ['0', '.', '0']
  else
    let (k, place) := x.shortest
    let (numeral, place) := trimmed (Decimal.digits k) place
    sign ++ positional numeral place

end WorkspaceServers.Double
