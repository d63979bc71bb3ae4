import WorkspaceServers.Number.Decimal
import WorkspaceServers.Number.Double
import WorkspaceServers.Text.Pieces
import WorkspaceServers.Toml.Value

/-!
The values written without quotes or brackets: booleans, integers in four bases, reals
and times.
-/

namespace WorkspaceServers.Toml

def digitOf? (base : Nat) (c : Char) : Option Nat :=
  let digit :=
    if '0' ≤ c ∧ c ≤ '9' then c.toNat - '0'.toNat
    else if 'a' ≤ c ∧ c ≤ 'f' then c.toNat - 'a'.toNat + 10
    else if 'A' ≤ c ∧ c ≤ 'F' then c.toNat - 'A'.toNat + 10
    else 16
  if digit < base then some digit else none

def digits? (base : Nat) (text : List Char) : Option (List Nat) := do
  let groups ← (Text.pieces (· = '_') text).mapM fun group =>
    if group.isEmpty then none else group.mapM (digitOf? base)
  return groups.flatten

def ofDigits (base : Nat) (digits : List Nat) : Nat :=
  digits.foldl (fun total digit => base * total + digit) 0

def whole? (text : List Char) : Option (List Nat) := do
  let digits ← digits? 10 text
  if 1 < digits.length ∧ digits.head? = some 0 then none else some digits

def splitSign (text : List Char) : Bool × Bool × List Char :=
  match text with
  | '+' :: rest => (true, false, rest)
  | '-' :: rest => (true, true, rest)
  | _ => (false, false, text)

def based? : List Char → Option Nat
  | '0' :: 'x' :: rest => (digits? 16 rest).map (ofDigits 16)
  | '0' :: 'o' :: rest => (digits? 8 rest).map (ofDigits 8)
  | '0' :: 'b' :: rest => (digits? 2 rest).map (ofDigits 2)
  | _ => none

def integer? (text : List Char) : Option Value := do
  let (signed, negative, body) := splitSign text
  match if signed then none else based? body with
  | some n => return .integer n
  | none =>
    let n := ofDigits 10 (← whole? body)
    return .integer (if negative then -n else n)

/-- Whether `n · 10 ^ place` is beyond the largest binary64 number. Numerals far from
the border are told by their size. -/
def overflows (n : Nat) (place : Int) : Bool :=
  let size : Int := place + (Decimal.digits n).length
  if n = 0 ∨ size < 300 then false
  else if 400 < size then true
  else (Double.ofQuotient? false (n * Decimal.ten place.toNat) (Decimal.ten (-place).toNat)).isNone

def finite? (body : List Char) : Option Value := do
  let (mantissa, exponent) :=
    match Text.splitAtFirst? (fun c => c = 'e' || c = 'E') body with
    | some (mantissa, exponent) => (mantissa, some exponent)
    | none => (body, none)
  let (front, behind) :=
    match Text.splitAtFirst? (· = '.') mantissa with
    | some (front, behind) => (front, some behind)
    | none => (mantissa, none)
  if exponent.isNone ∧ behind.isNone then none
  let front ← whole? front
  let behind ← match behind with
    | some behind => digits? 10 behind
    | none => pure []
  let place : Int ← match exponent with
    | none => pure 0
    | some exponent => do
      let (_, negative, body) := splitSign exponent
      let size := ofDigits 10 (← digits? 10 body)
      pure (if negative then -size else size)
  return .real (overflows (ofDigits 10 (front ++ behind)) (place - behind.length))

def real? (text : List Char) : Option Value :=
  let (_, _, body) := splitSign text
  if body = "inf".toList ∨ body = "nan".toList then some (.real false) else finite? body

def field? (width low high : Nat) (text : List Char) : Option Nat :=
  if text.length = width ∧ text.all Decimal.isDigit then
    let n := Decimal.value text
    if low ≤ n ∧ n ≤ high then some n else none
  else none

def isLeap (year : Nat) : Bool := year % 4 = 0 && (year % 100 ≠ 0 || year % 400 = 0)

def daysIn (year month : Nat) : Nat :=
  if month = 2 then (if isLeap year then 29 else 28)
  else if [4, 6, 9, 11].contains month then 30
  else 31

def isDate (text : List Char) : Bool :=
  match Text.pieces (· = '-') text with
  | [year, month, day] =>
    match field? 4 0 9999 year, field? 2 1 12 month with
    | some year, some month => (field? 2 1 (daysIn year month) day).isSome
    | _, _ => false
  | _ => false

def isClock (text : List Char) : Bool :=
  match Text.pieces (· = ':') text with
  | [hour, minute] => (field? 2 0 23 hour).isSome && (field? 2 0 59 minute).isSome
  | [hour, minute, second] =>
    (field? 2 0 23 hour).isSome && (field? 2 0 59 minute).isSome &&
      match Text.splitAtFirst? (· = '.') second with
      | none => (field? 2 0 60 second).isSome
      | some (second, fraction) =>
        (field? 2 0 60 second).isSome && !fraction.isEmpty && fraction.all Decimal.isDigit
  | _ => false

def isOffset (text : List Char) : Bool :=
  match Text.pieces (· = ':') text with
  | [hour, minute] => (field? 2 0 23 hour).isSome && (field? 2 0 59 minute).isSome
  | _ => false

def isClockWithOffset (text : List Char) : Bool :=
  match Text.splitAtFirst? (fun c => c = '+' || c = '-' || c = 'Z' || c = 'z') text with
  | none => isClock text
  | some (clock, offset) =>
    isClock clock &&
      if text[clock.length]? = some '+' ∨ text[clock.length]? = some '-' then isOffset offset
      else offset.isEmpty

def isTime (text : List Char) : Bool :=
  match Text.splitAtFirst? (fun c => c = 'T' || c = 't' || c = ' ') text with
  | some (date, clock) => isDate date && isClockWithOffset clock
  | none => isDate text || isClock text

def scalar? (text : List Char) : Option Value :=
  if text = "true".toList then some (.boolean true)
  else if text = "false".toList then some (.boolean false)
  else if isTime text then some .time
  else (integer? text).or (real? text)

end WorkspaceServers.Toml
