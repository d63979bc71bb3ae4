import WorkspaceServers.Toml.Document
import WorkspaceServers.Toml.Quoted

/-!
Reading TOML documents: pairs, then sections with a header each.
-/

namespace WorkspaceServers.Toml

def skipGaps? (comment : Bool) : List Char → Option (List Char)
  | [] => some []
  | '\n' :: rest => skipGaps? false rest
  | '\r' :: '\n' :: rest => skipGaps? false rest
  | c :: rest =>
    if comment then if isPlain c then skipGaps? true rest else none
    else if isBlank c then skipGaps? false rest
    else if c = '#' then skipGaps? true rest
    else some (c :: rest)

def endLine? (comment : Bool) : List Char → Option (List Char)
  | [] => some []
  | '\n' :: rest => some rest
  | '\r' :: '\n' :: rest => some rest
  | c :: rest =>
    if comment then if isPlain c then endLine? true rest else none
    else if isBlank c then endLine? false rest
    else if c = '#' then endLine? true rest
    else none

def isScalarChar (c : Char) : Bool := isBare c || c = '+' || c = '.' || c = ':'

/-- A value without quotes or brackets. A date may go on behind one space. -/
def scalarValue? (text : List Char) : Option (Value × List Char) := do
  let (token, rest) := text.span isScalarChar
  let (token, rest) :=
    match rest with
    | ' ' :: next =>
      if isDate token ∧ (next.head?.map Decimal.isDigit).getD false then
        let (clock, rest) := next.span isScalarChar
        (token ++ ' ' :: clock, rest)
      else (token, rest)
    | _ => (token, rest)
  return (← scalar? token, rest)

def list? {α : Type} (item : List Char → Option (α × List Char)) (stop : Char) :
    Nat → List Char → Option (List α × List Char)
  | 0, _ => none
  | fuel + 1, text => do
    let text ← skipGaps? false text
    if text.head? = some stop then return ([], text.tail)
    let (first, rest) ← item text
    match ← skipGaps? false rest with
    | ',' :: rest =>
      let (others, rest) ← list? item stop fuel rest
      return (first :: others, rest)
    | c :: rest => if c = stop then return ([first], rest) else none
    | [] => none

def pair? (skip : List Char → Option (List Char))
    (value : List Char → Option (Value × List Char)) (text : List Char) :
    Option (Pair × List Char) := do
  let ((path, key), rest) ← key? nestingLimit text
  match ← skip rest with
  | '=' :: rest =>
    let (value, rest) ← value (← skip rest)
    return (⟨path, key, value⟩, rest)
  | _ => none

/-- A value with at most `room` brackets open inside each other. Between braces lines may
end on both sides of an equals sign. -/
def value? (room : Nat) (text : List Char) : Option (Value × List Char) :=
  match room, text with
  | _, [] => none
  | _, '"' :: _ => (quoted? '"' text).map fun (text, rest) => (.text text, rest)
  | _, '\'' :: _ => (quoted? '\'' text).map fun (text, rest) => (.text text, rest)
  | 0, '[' :: _ | 0, '{' :: _ => none
  | room + 1, '[' :: rest => do
    let (items, rest) ← list? (value? room) ']' (text.length + 1) rest
    return (.array items, rest)
  | room + 1, '{' :: rest => do
    let (pairs, rest) ← list? (pair? (skipGaps? false) (value? room)) '}' (text.length + 1) rest
    return (.table (entriesToValues (← addPairs pairs [])), rest)
  | _, text => scalarValue? text

inductive Statement where
  | pair (pair : Pair)
  | header (path : List String) (key : String) (repeated : Bool)

def statement? : List Char → Option (Statement × List Char)
  | '[' :: '[' :: text => do
    let ((path, key), rest) ← key? nestingLimit text
    match rest with
    | ']' :: ']' :: rest => return (.header path key true, rest)
    | _ => none
  | '[' :: text => do
    let ((path, key), rest) ← key? nestingLimit text
    match rest with
    | ']' :: rest => return (.header path key false, rest)
    | _ => none
  | text => do
    let (pair, rest) ← pair? (fun rest => some (rest.dropWhile isBlank)) (value? nestingLimit) text
    return (.pair pair, rest)

def statements? : Nat → List Char → Option (List Statement)
  | 0, _ => none
  | fuel + 1, text => do
    let text ← skipGaps? false text
    if text.isEmpty then return []
    let (first, rest) ← statement? text
    return first :: (← statements? fuel (← endLine? false rest))

def sections : List Statement → List Pair × List Section
  | [] => ([], [])
  | .pair pair :: rest =>
    let (pairs, parts) := sections rest
    (pair :: pairs, parts)
  | .header path key repeated :: rest =>
    let (pairs, parts) := sections rest
    ([], ⟨path, key, repeated, pairs⟩ :: parts)

def parse? (text : List Char) : Option (List (String × Value)) := do
  let text := if text.head? = some '\ufeff' then text.tail else text
  let (pairs, parts) := sections (← statements? (text.length + 1) text)
  return entriesToValues (← addSections parts (← addPairs pairs []))

end WorkspaceServers.Toml
