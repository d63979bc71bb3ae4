import WorkspaceServers.Json.Basic

/-!
Reading records out of JSON values. A record is written as an object, where unknown
members do not matter, or as a list with one item for each of its fields in order.
-/

namespace WorkspaceServers.Json

def members? (fields : List String) : Json → Option (List (Option Json))
  | .obj entries => some (fields.map fun name => Keyed.find? name entries)
  | .arr items => if items.length = fields.length then some (items.map some) else none
  | _ => none

def required? {α : Type} (read : Json → Option α) (member : Option Json) : Option α :=
  member.bind read

/-- An absent member and a null one both leave the field empty. -/
def optional? {α : Type} (read : Json → Option α) : Option Json → Option (Option α)
  | none => some none
  | some .null => some none
  | some json => (read json).map some

def list? {α : Type} (read : Json → Option α) : Json → Option (List α)
  | .arr items => items.mapM read
  | _ => none

def ofInt32 (word : Int32) : Json := .ofInt64 word.toInt64

end WorkspaceServers.Json
