/-!
Decimal numerals: the digits of a natural number and what a run of digits stands for.
-/

namespace WorkspaceServers.Decimal

def ten (k : Nat) : Nat := Nat.pow 10 k

def digits (n : Nat) : List Char := Nat.toDigits 10 n

def isDigit (c : Char) : Bool := '0' ≤ c && c ≤ '9'

def digitValue (c : Char) : Nat := c.toNat - '0'.toNat

def value (numeral : List Char) : Nat :=
  numeral.foldl (fun total c => 10 * total + digitValue c) 0

def splitDigits (text : List Char) : List Char × List Char := text.span isDigit

def natural? (text : List Char) : Option Nat :=
  let numeral := if text.head? = some '+' then text.tail else text
  if numeral.isEmpty || !numeral.all isDigit then none else some (value numeral)

def below? (bound : Nat) (text : List Char) : Option Nat :=
  (natural? text).filter (· < bound)

def intDigits (n : Int) : List Char :=
  if n < 0 then '-' :: digits n.natAbs else digits n.natAbs

end WorkspaceServers.Decimal
