import WorkspaceServers.Keyed.Basic
import WorkspaceServers.Number.Double

/-!
JSON values. Integers stay exact over the range of signed and unsigned words of 64
bits, every other number is a finite binary64 number, and an object is a map from
names to values.
-/

namespace WorkspaceServers

inductive Number where
  | int (value : Int) (inRange : -0x8000000000000000 ≤ value ∧ value < 0x10000000000000000)
  | real (value : Double)
deriving DecidableEq

namespace Number

def ofInt? (value : Int) : Option Number :=
  if inRange : -0x8000000000000000 ≤ value ∧ value < 0x10000000000000000 then
    some (.int value inRange)
  else none

def ofUInt64 (word : UInt64) : Number :=
  .int word.toNat ⟨by omega, by have := word.toNat_lt; omega⟩

def ofInt64 (word : Int64) : Number :=
  .int word.toInt ⟨word.le_toInt, by have := word.toInt_lt; omega⟩

def int? : Number → Option Int
  | .int value _ => some value
  | .real _ => none

end Number

inductive Json where
  | null
  | bool (value : Bool)
  | num (value : Number)
  | str (value : String)
  | arr (items : List Json)
  | obj (fields : List (String × Json))

namespace Json

instance : Inhabited Json := ⟨.null⟩

def ofUInt64 (word : UInt64) : Json := .num (.ofUInt64 word)

def ofInt64 (word : Int64) : Json := .num (.ofInt64 word)

def ofUInt32 (word : UInt32) : Json := .ofUInt64 word.toUInt64

def object (fields : List (String × Json)) : Json := .obj (Keyed.ofList fields)

def sparse (fields : List (String × Option Json)) : Json :=
  object (fields.filterMap fun (name, value?) => value?.map (name, ·))

def field? (name : String) : Json → Option Json
  | .obj fields => Keyed.find? name fields
  | _ => none

def str? : Json → Option String
  | .str text => some text
  | _ => none

def bool? : Json → Option Bool
  | .bool value => some value
  | _ => none

def int? : Json → Option Int
  | .num value => value.int?
  | _ => none

def natBelow? (bound : Nat) (json : Json) : Option Nat := do
  let value ← json.int?
  if 0 ≤ value ∧ value < bound then some value.toNat else none

def uint64? (json : Json) : Option UInt64 := (json.natBelow? UInt64.size).map UInt64.ofNat

def uint32? (json : Json) : Option UInt32 := (json.natBelow? UInt32.size).map UInt32.ofNat

def int64? (json : Json) : Option Int64 := do
  let value ← json.int?
  if value < 0x8000000000000000 then some (Int64.ofInt value) else none

def int32? (json : Json) : Option Int32 := do
  let value ← json.int?
  if -0x80000000 ≤ value ∧ value < 0x80000000 then some (Int32.ofInt value) else none

def isNull : Json → Bool
  | .null => true
  | _ => false

def textMap? : Json → Option (List (String × String))
  | .obj fields => fields.mapM fun (name, value) => value.str?.map (name, ·)
  | _ => none

end Json

end WorkspaceServers
