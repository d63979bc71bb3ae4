/-!
Values of TOML documents. Of a real number and of a point in time it is only kept that
they are there, since no setting asks for one.
-/

namespace WorkspaceServers.Toml

inductive Value where
  | text (value : String)
  | integer (value : Int)
  /-- `overflows` tells that the numeral is beyond the largest binary64 number. -/
  | real (overflows : Bool)
  | boolean (value : Bool)
  | time
  | array (items : List Value)
  | table (entries : List (String × Value))

namespace Value

/-- An integer that fits a word of 128 bits, with a sign or without. -/
def fitsWord (value : Int) : Bool :=
  -0x80000000000000000000000000000000 ≤ value && value < 0x100000000000000000000000000000000

mutual

def isSound : Value → Bool
  | .integer value => fitsWord value
  | .real overflows => !overflows
  | .array items => itemsSound items
  | .table entries => entriesSound entries
  | _ => true

def itemsSound : List Value → Bool
  | [] => true
  | item :: rest => isSound item && itemsSound rest

def entriesSound : List (String × Value) → Bool
  | [] => true
  | (_, value) :: rest => isSound value && entriesSound rest

end

end Value

end WorkspaceServers.Toml
