import WorkspaceServers.Json.Basic
import WorkspaceServers.Number.Decimal

/-!
Numerals of JSON texts and the numbers they stand for. An integer within 64 bits is
exact. For any other numeral the digits are taken while their number fits an unsigned
word of 64 bits; digits left over before the point only scale, and those behind it
are ignored.
-/

namespace WorkspaceServers.Json

structure Numeral where
  negative : Bool
  whole : List Char
  fraction : Option (List Char)
  exponent : Option (Bool × List Char)

namespace Numeral

/-- Takes digits while the number fits 64 bits: the number and the digits not taken. -/
def absorb (total : Nat) : List Char → Nat × List Char
  | [] => (total, [])
  | c :: rest =>
    let next := 10 * total + Decimal.digitValue c
    if next < UInt64.size then absorb next rest else (total, c :: rest)

/-- Largest exponent that is read as a number; one beyond it is infinite. -/
def lastExponent : Nat := 0x7fffffff

def real? (n : Numeral) (significand : Nat) (place : Int) : Option Number :=
  match n.exponent with
  | none => finish (Double.scaled? significand place)
  | some (down, numeral) =>
    let size := Decimal.value numeral
    if lastExponent < size then
      if significand = 0 ∨ down then finish (some (.zero false)) else none
    else finish (Double.scaled? significand (if down then place - size else place + size))
where
  finish (x? : Option Double) : Option Number := x?.map fun x => .real (x.withSign n.negative)

/-- Minus zero is no integer, and neither is a numeral with a point or an exponent. -/
def value? (n : Numeral) : Option Number :=
  let (significand, left) := absorb 0 n.whole
  match n.fraction with
  | some digits =>
    let (significand, unread) := absorb significand digits
    n.real? significand ((left.length : Int) - (digits.length - unread.length : Nat))
  | none =>
    if left.isEmpty ∧ n.exponent.isNone then
      if !n.negative then Number.ofInt? significand
      else if 0 < significand ∧ significand ≤ 0x8000000000000000 then Number.ofInt? (-significand)
      else n.real? significand 0
    else n.real? significand left.length

end Numeral

/-- Reads a sign, digits without a needless leading zero, a point with digits behind it
and an exponent; returns what follows. -/
def readNumeral? (text : List Char) : Option (Numeral × List Char) := do
  let negative := text.head? = some '-'
  let text := if negative then text.tail else text
  let (whole, rest) := Decimal.splitDigits text
  if whole.isEmpty ∨ (whole.head? = some '0' ∧ whole ≠ ['0']) then none
  let (fraction, rest) ← match rest with
    | '.' :: rest =>
      let (digits, rest) := Decimal.splitDigits rest
      if digits.isEmpty then none else pure (some digits, rest)
    | rest => pure (none, rest)
  let (exponent, rest) ← match rest with
    | c :: rest' =>
      if c = 'e' ∨ c = 'E' then
        let down := rest'.head? = some '-'
        let signed := down ∨ rest'.head? = some '+'
        let (digits, rest') := Decimal.splitDigits (if signed then rest'.tail else rest')
        if digits.isEmpty then none else pure (some (decide down, digits), rest')
      else pure (none, rest)
    | [] => pure (none, [])
  return (⟨negative, whole, fraction, exponent⟩, rest)

def readNumber? (text : List Char) : Option (Number × List Char) := do
  let (numeral, rest) ← readNumeral? text
  return (← numeral.value?, rest)

end WorkspaceServers.Json
