import WorkspaceServers.Answer.Location
import WorkspaceServers.Json.Depth

/-!
The answer to a request for the symbols of a document: a list of symbols with their
places, or trees of symbols.
-/

namespace WorkspaceServers.Answer

open WorkspaceServers.Json (members? required? optional? list?)

structure FlatSymbol where
  name : String
  kind : Int32
  tags : Option (List Int32)
  deprecated : Option Bool
  location : Location
  container : Option String

namespace FlatSymbol

def ofJson? (json : Json) : Option FlatSymbol := do
  match ← members? ["name", "kind", "tags", "deprecated", "location", "containerName"] json with
  | [name, kind, tags, deprecated, location, container] =>
    return ⟨← required? Json.str? name, ← required? Json.int32? kind,
      ← optional? (list? Json.int32?) tags, ← optional? Json.bool? deprecated,
      ← required? Location.ofJson? location, ← optional? Json.str? container⟩
  | _ => none

def toJson (symbol : FlatSymbol) : Json :=
  .sparse [("name", some (.str symbol.name)), ("kind", some (.ofInt32 symbol.kind)),
    ("tags", symbol.tags.map fun tags => .arr (tags.map .ofInt32)),
    ("deprecated", symbol.deprecated.map .bool), ("location", some symbol.location.toJson),
    ("containerName", symbol.container.map .str)]

end FlatSymbol

structure SymbolHead where
  name : String
  detail : Option String
  kind : Int32
  tags : Option (List Int32)
  deprecated : Option Bool
  range : Range
  selection : Range

inductive SymbolTree where
  | node (head : SymbolHead) (children : Option (List SymbolTree))

namespace SymbolTree

def read? : Nat → Json → Option SymbolTree
  | 0, _ => none
  | height + 1, json => do
    match ← members? ["name", "detail", "kind", "tags", "deprecated", "range", "selectionRange",
        "children"] json with
    | [name, detail, kind, tags, deprecated, range, selection, children] =>
      let head : SymbolHead := ⟨← required? Json.str? name, ← optional? Json.str? detail,
        ← required? Json.int32? kind, ← optional? (list? Json.int32?) tags,
        ← optional? Json.bool? deprecated, ← required? Range.ofJson? range,
        ← required? Range.ofJson? selection⟩
      return .node head (← optional? (list? (read? height)) children)
    | _ => none

/-- A value nests its trees no deeper than its containers. -/
def ofJson? (json : Json) : Option SymbolTree := read? json.depth json

def headFields (head : SymbolHead) : List (String × Option Json) :=
  [("name", some (.str head.name)), ("detail", head.detail.map .str),
    ("kind", some (.ofInt32 head.kind)),
    ("tags", head.tags.map fun tags => .arr (tags.map .ofInt32)),
    ("deprecated", head.deprecated.map .bool), ("range", some head.range.toJson),
    ("selectionRange", some head.selection.toJson)]

mutual

def toJson : SymbolTree → Json
  | .node head none => .sparse (headFields head)
  | .node head (some children) =>
    .sparse (headFields head ++ [("children", some (.arr (listToJson children)))])

def listToJson : List SymbolTree → List Json
  | [] => []
  | tree :: rest => toJson tree :: listToJson rest

end

end SymbolTree

inductive Symbols where
  | flat (symbols : List FlatSymbol)
  | nested (trees : List SymbolTree)

namespace Symbols

def ofJson? (json : Json) : Option Symbols :=
  ((list? FlatSymbol.ofJson? json).map flat).or ((list? SymbolTree.ofJson? json).map nested)

def symbolsOf? : Json → Option Symbols
  | .null => some (flat [])
  | json => ofJson? json

def toJson : Symbols → Json
  | flat symbols => .arr (symbols.map FlatSymbol.toJson)
  | nested trees => .arr (trees.map SymbolTree.toJson)

end Symbols

end WorkspaceServers.Answer
