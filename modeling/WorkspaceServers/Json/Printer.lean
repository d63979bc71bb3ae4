import WorkspaceServers.Json.Basic
import WorkspaceServers.Number.Shortest
import WorkspaceServers.Text.Utf8.Basic

/-!
The text of a JSON value: the compact form without blanks, and the form with one item
on a line. Members come in the order of their names, which is how objects hold them.
-/

namespace WorkspaceServers.Json

/-- A quote, a backslash and the controls below U+0020 are escaped, and nothing else. -/
def escapeChar (c : Char) : List Char :=
  if c = '"' then ['\\', '"']
  else if c = '\\' then ['\\', '\\']
  else if c = '\x08' then ['\\', 'b']
  else if c = '\x0c' then ['\\', 'f']
  else if c = '\n' then ['\\', 'n']
  else if c = '\r' then ['\\', 'r']
  else if c = '\t' then ['\\', 't']
  else if c.toNat < 0x20 then
    ['\\', 'u', '0', '0', Nat.digitChar (c.toNat / 16), Nat.digitChar (c.toNat % 16)]
  else [c]

def quote (text : String) : List Char := '"' :: text.toList.flatMap escapeChar ++ ['"']

def printNumber : Number → List Char
  | .int value _ => Decimal.intDigits value
  | .real value => value.text

mutual

def print : Json → List Char
  | .null => ['n', 'u', 'l', 'l']
  | .bool true => ['t', 'r', 'u', 'e']
  | .bool false => ['f', 'a', 'l', 's', 'e']
  | .num value => printNumber value
  | .str text => quote text
  | .arr [] => ['[', ']']
  | .arr (item :: rest) => '[' :: print item ++ printItems rest
  | .obj [] => ['{', '}']
  | .obj ((name, value) :: rest) => '{' :: quote name ++ ':' :: print value ++ printFields rest

def printItems : List Json → List Char
  | [] => [']']
  | item :: rest => ',' :: print item ++ printItems rest

def printFields : List (String × Json) → List Char
  | [] => ['}']
  | (name, value) :: rest => ',' :: quote name ++ ':' :: print value ++ printFields rest

end

def newline (depth : Nat) : List Char := '\n' :: List.replicate (2 * depth) ' '

mutual

def printWide (depth : Nat) : Json → List Char
  | .arr (item :: rest) =>
    '[' :: newline (depth + 1) ++ printWide (depth + 1) item ++ printWideItems depth rest
  | .obj ((name, value) :: rest) =>
    '{' :: newline (depth + 1) ++ quote name ++ ':' :: ' ' :: printWide (depth + 1) value ++
      printWideFields depth rest
  | json => print json

def printWideItems (depth : Nat) : List Json → List Char
  | [] => newline depth ++ [']']
  | item :: rest =>
    ',' :: newline (depth + 1) ++ printWide (depth + 1) item ++ printWideItems depth rest

def printWideFields (depth : Nat) : List (String × Json) → List Char
  | [] => newline depth ++ ['}']
  | (name, value) :: rest =>
    ',' :: newline (depth + 1) ++ quote name ++ ':' :: ' ' :: printWide (depth + 1) value ++
      printWideFields depth rest

end

def text (json : Json) : String := String.ofList (print json)

def bytes (json : Json) : Bytes := Utf8.encode (print json)

def wideText (json : Json) : String := String.ofList (printWide 0 json)

end WorkspaceServers.Json
