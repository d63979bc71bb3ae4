import WorkspaceServers.Number.Decimal

/-!
Finite binary64 numbers in exact arithmetic. A number is a sign, a significand of at
most 53 bits and a power of two counted up from the smallest one, so each value has
one form (zero has two, by its sign). Every operation rounds its exact result once, to
the nearest number, a tie going to the even significand.
-/

namespace WorkspaceServers

/-- `significand · 2 ^ shift / 2 ^ 1074`, negated if `negative`. -/
structure Double where
  negative : Bool
  significand : Nat
  shift : Nat
  significand_lt : significand < 0x20000000000000
  shift_le : shift ≤ 2045
  canonical : shift = 0 ∨ 0x10000000000000 ≤ significand
deriving DecidableEq

namespace Double

def leadingBit : Nat := 0x10000000000000

/-- Values are multiples of one over this. -/
def denominator : Nat := 1 <<< 1074

def zero (negative : Bool) : Double :=
  ⟨negative, 0, 0, by decide, by decide, Or.inl rfl⟩

def build? (negative : Bool) (significand shift : Nat) : Option Double :=
  if h : significand < 0x20000000000000 ∧ shift ≤ 2045 ∧ (shift = 0 ∨ leadingBit ≤ significand) then
    some ⟨negative, significand, shift, h.1, h.2.1, h.2.2⟩
  else none

/-- The natural number nearest to `num / den`; of two equally near the even one. -/
def roundDiv (num den : Nat) : Nat :=
  let low := num / den
  let twice := 2 * (num % den)
  if twice < den then low
  else if den < twice then low + 1
  else if low % 2 = 0 then low else low + 1

/-- The number nearest to `num / den`. Nothing if that is beyond the largest one. -/
def ofQuotient? (negative : Bool) (num den : Nat) : Option Double :=
  let scaled := num * denominator
  let shift := (scaled / den).log2 - 52
  let significand := roundDiv scaled (den <<< shift)
  if significand < 2 * leadingBit then build? negative significand shift
  else build? negative leadingBit (shift + 1)

def magnitude (x : Double) : Nat := x.significand <<< x.shift

def isZero (x : Double) : Bool := x.significand = 0

def mul? (x y : Double) : Option Double :=
  ofQuotient? (x.negative != y.negative) (x.magnitude * y.magnitude) (denominator * denominator)

def div? (x y : Double) : Option Double :=
  ofQuotient? (x.negative != y.negative) x.magnitude y.magnitude

def ofNat? (n : Nat) : Option Double := ofQuotient? false n 1

def powerOfTen? (k : Nat) : Option Double := ofNat? (Decimal.ten k)

def withSign (negative : Bool) (x : Double) : Double := { x with negative := negative }

def lastPower : Nat := 308

/-- Divides by ten `k` times, as many at once as one division can take. -/
def shrink : Nat → Double → Nat → Option Double
  | 0, x, k => (powerOfTen? k).bind (div? x)
  | fuel + 1, x, k =>
    if x.isZero then some x
    else if k ≤ lastPower then (powerOfTen? k).bind (div? x)
    else do shrink fuel (← div? x (← powerOfTen? lastPower)) (k - lastPower)

/-- `n · 10 ^ exponent`, rounded after `n` and after each product or quotient. Nothing
if it is beyond the largest number. -/
def scaled? (n : Nat) (exponent : Int) : Option Double := do
  let x ← ofNat? n
  if x.isZero then some x
  else if 0 ≤ exponent then
    if exponent.toNat ≤ lastPower then mul? x (← powerOfTen? exponent.toNat) else none
  else shrink (exponent.natAbs / lastPower) x exponent.natAbs

end Double

end WorkspaceServers
