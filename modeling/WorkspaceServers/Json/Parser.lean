import WorkspaceServers.Json.Numeral
import WorkspaceServers.Text.Utf8.Basic

/-!
Strict reading of JSON texts. Containers nest at most `depthLimit` deep, a string
holds no bare control below U+0020, and an escaped surrogate comes in its pair.
-/

namespace WorkspaceServers.Json

def depthLimit : Nat := 127

def isSpace (c : Char) : Bool := c = ' ' || c = '\n' || c = '\r' || c = '\t'

def skipSpace (text : List Char) : List Char := text.dropWhile isSpace

def hexDigit? (c : Char) : Option Nat :=
  if '0' ≤ c ∧ c ≤ '9' then some (c.toNat - '0'.toNat)
  else if 'a' ≤ c ∧ c ≤ 'f' then some (c.toNat - 'a'.toNat + 10)
  else if 'A' ≤ c ∧ c ≤ 'F' then some (c.toNat - 'A'.toNat + 10)
  else none

inductive Unfinished where
  | nothing
  | escape
  /-- A numeric escape with `need` digits to come, after the upper half of a pair if
  there is one. -/
  | code (need acc : Nat) (high : Option Nat)
  | half (high : Nat)
  | halfEscape (high : Nat)

/-- What one more character of a string does: it ends the string, or it may finish a
character of the text and leaves the rest unfinished. -/
inductive StringStep where
  | close
  | more (finished : Option Char) (state : Unfinished)

def shortEscape? (c : Char) : Option Char :=
  if c = '"' ∨ c = '\\' ∨ c = '/' then some c
  else if c = 'b' then some '\x08'
  else if c = 'f' then some '\x0c'
  else if c = 'n' then some '\n'
  else if c = 'r' then some '\r'
  else if c = 't' then some '\t'
  else none

def finishCode? (code : Nat) : Option Nat → Option StringStep
  | none =>
    if 0xD800 ≤ code ∧ code < 0xDC00 then some (.more none (.half code))
    else if 0xDC00 ≤ code ∧ code < 0xE000 then none
    else some (.more (some (Char.ofNat code)) .nothing)
  | some high =>
    if 0xDC00 ≤ code ∧ code < 0xE000 then
      let number := 0x10000 + (high - 0xD800) * 0x400 + (code - 0xDC00)
      some (.more (some (Char.ofNat number)) .nothing)
    else none

def stringStep? (c : Char) : Unfinished → Option StringStep
  | .nothing =>
    if c = '"' then some .close
    else if c = '\\' then some (.more none .escape)
    else if c.toNat < 0x20 then none
    else some (.more (some c) .nothing)
  | .escape =>
    if c = 'u' then some (.more none (.code 4 0 none))
    else (shortEscape? c).map fun c => .more (some c) .nothing
  | .code need acc high => do
    let code := 16 * acc + (← hexDigit? c)
    if need ≤ 1 then finishCode? code high else some (.more none (.code (need - 1) code high))
  | .half high => if c = '\\' then some (.more none (.halfEscape high)) else none
  | .halfEscape high => if c = 'u' then some (.more none (.code 4 0 (some high))) else none

def readString? (state : Unfinished) : List Char → Option (List Char × List Char)
  | [] => none
  | c :: rest =>
    match stringStep? c state with
    | none => none
    | some .close => some ([], rest)
    | some (.more none state) => readString? state rest
    | some (.more (some done) state) =>
      (readString? state rest).map fun (text, rest) => (done :: text, rest)

/-- The items after the first of a bracketed list, each read by `read` behind its comma,
up to the bracket `stop`. -/
def readItems? {α : Type} (read : List Char → Option (α × List Char)) (stop : Char) :
    Nat → List Char → Option (List α × List Char)
  | 0, _ => none
  | fuel + 1, text =>
    match skipSpace text with
    | [] => none
    | c :: rest =>
      if c = stop then some ([], rest)
      else if c = ',' then do
        let (item, rest) ← read (skipSpace rest)
        let (items, rest) ← readItems? read stop fuel rest
        return (item :: items, rest)
      else none

def readList? {α : Type} (read : List Char → Option (α × List Char)) (stop : Char)
    (text : List Char) : Option (List α × List Char) :=
  match skipSpace text with
  | [] => none
  | c :: rest =>
    if c = stop then some ([], rest)
    else do
      let (item, rest) ← read (c :: rest)
      let (items, rest) ← readItems? read stop (rest.length + 1) rest
      return (item :: items, rest)

def readField? (read : List Char → Option (Json × List Char)) :
    List Char → Option ((String × Json) × List Char)
  | '"' :: rest => do
    let (name, rest) ← readString? .nothing rest
    match skipSpace rest with
    | ':' :: rest =>
      let (value, rest) ← read (skipSpace rest)
      return ((String.ofList name, value), rest)
    | _ => none
  | _ => none

def after? (keyword : List Char) (text : List Char) : Option (List Char) :=
  if keyword.isPrefixOf text then some (text.drop keyword.length) else none

/-- A value that starts at the first character, with at most `depth` nested containers. -/
def readValue? : Nat → List Char → Option (Json × List Char)
  | _, [] => none
  | depth, c :: rest =>
    if c = 'n' then (after? ['u', 'l', 'l'] rest).map (.null, ·)
    else if c = 't' then (after? ['r', 'u', 'e'] rest).map (.bool true, ·)
    else if c = 'f' then (after? ['a', 'l', 's', 'e'] rest).map (.bool false, ·)
    else if c = '"' then
      (readString? .nothing rest).map fun (text, rest) => (.str (String.ofList text), rest)
    else if c = '[' then
      match depth with
      | 0 => none
      | depth + 1 =>
        (readList? (readValue? depth) ']' rest).map fun (items, rest) => (.arr items, rest)
    else if c = '{' then
      match depth with
      | 0 => none
      | depth + 1 =>
        (readList? (readField? (readValue? depth)) '}' rest).map fun (fields, rest) =>
          (object fields, rest)
    else (readNumber? (c :: rest)).map fun (value, rest) => (.num value, rest)

def parse? (text : List Char) : Option Json := do
  let (json, rest) ← readValue? depthLimit (skipSpace text)
  if (skipSpace rest).isEmpty then some json else none

def ofBytes? (bytes : Bytes) : Option Json := do parse? (← Utf8.decode? bytes)

end WorkspaceServers.Json
