/-!
UTF-8 over lists of bytes. `decode?` accepts exactly the well-formed sequences:
a lead byte fixes how many bytes follow and, for four of the lead bytes, narrows
the range of the first of them, which is what keeps overlong forms, surrogates
and numbers above U+10FFFF out. `lossy` reads any bytes and writes U+FFFD for
each longest run that starts a character and does not finish it.
-/

namespace WorkspaceServers

abbrev Bytes := List UInt8

namespace Utf8

def encodeChar (c : Char) : Bytes :=
  let n := c.toNat
  if n < 0x80 then [UInt8.ofNat n]
  else if n < 0x800 then [UInt8.ofNat (0xC0 + n / 64), UInt8.ofNat (0x80 + n % 64)]
  else if n < 0x10000 then
    [UInt8.ofNat (0xE0 + n / 4096), UInt8.ofNat (0x80 + n / 64 % 64),
      UInt8.ofNat (0x80 + n % 64)]
  else
    [UInt8.ofNat (0xF0 + n / 262144), UInt8.ofNat (0x80 + n / 4096 % 64),
      UInt8.ofNat (0x80 + n / 64 % 64), UInt8.ofNat (0x80 + n % 64)]

def encode (text : List Char) : Bytes := text.flatMap encodeChar

/-- What a character still lacks: `need` bytes, the next of them between `low`
and `high`; `acc` holds the bits read so far. Nothing is open when `need = 0`. -/
structure Open where
  need : Nat
  low : Nat
  high : Nat
  acc : Nat
deriving DecidableEq

def closed : Open := ⟨0, 0, 0, 0⟩

def lead? (byte : Nat) : Option Open :=
  if byte < 0xC2 then none
  else if byte < 0xE0 then some ⟨1, 0x80, 0xBF, byte - 0xC0⟩
  else if byte = 0xE0 then some ⟨2, 0xA0, 0xBF, 0⟩
  else if byte = 0xED then some ⟨2, 0x80, 0x9F, 13⟩
  else if byte < 0xF0 then some ⟨2, 0x80, 0xBF, byte - 0xE0⟩
  else if byte = 0xF0 then some ⟨3, 0x90, 0xBF, 0⟩
  else if byte < 0xF4 then some ⟨3, 0x80, 0xBF, byte - 0xF0⟩
  else if byte = 0xF4 then some ⟨3, 0x80, 0x8F, 4⟩
  else none

def decodeFrom (state : Open) : Bytes → Option (List Char)
  | [] => if state.need = 0 then some [] else none
  | byte :: rest =>
    let b := byte.toNat
    if state.need = 0 then
      if b < 0x80 then (decodeFrom closed rest).map (Char.ofNat b :: ·)
      else match lead? b with
        | none => none
        | some opened => decodeFrom opened rest
    else if state.low ≤ b ∧ b ≤ state.high then
      if state.need = 1 then
        (decodeFrom closed rest).map (Char.ofNat (state.acc * 64 + b % 64) :: ·)
      else decodeFrom ⟨state.need - 1, 0x80, 0xBF, state.acc * 64 + b % 64⟩ rest
    else none

def decode? (bytes : Bytes) : Option (List Char) := decodeFrom closed bytes

def replacement : Char := '\ufffd'

def lossyFrom (state : Open) : Bytes → List Char
  | [] => if state.need = 0 then [] else [replacement]
  | byte :: rest =>
    let b := byte.toNat
    if state.need ≠ 0 ∧ state.low ≤ b ∧ b ≤ state.high then
      if state.need = 1 then Char.ofNat (state.acc * 64 + b % 64) :: lossyFrom closed rest
      else lossyFrom ⟨state.need - 1, 0x80, 0xBF, state.acc * 64 + b % 64⟩ rest
    else
      (if state.need = 0 then [] else [replacement]) ++
        if b < 0x80 then Char.ofNat b :: lossyFrom closed rest
        else match lead? b with
          | none => replacement :: lossyFrom closed rest
          | some opened => lossyFrom opened rest

def lossy (bytes : Bytes) : String := String.ofList (lossyFrom closed bytes)

def ofString (text : String) : Bytes := encode text.toList

def toString? (bytes : Bytes) : Option String := (decode? bytes).map String.ofList

end Utf8

end WorkspaceServers
