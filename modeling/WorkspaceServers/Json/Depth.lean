import WorkspaceServers.Json.Basic

/-!
How deep the containers of a value nest, the value itself counted.
-/

namespace WorkspaceServers.Json

mutual

def depth : Json → Nat
  | .arr items => itemsDepth items + 1
  | .obj fields => fieldsDepth fields + 1
  | _ => 0

def itemsDepth : List Json → Nat
  | [] => 0
  | item :: rest => max (depth item) (itemsDepth rest)

def fieldsDepth : List (String × Json) → Nat
  | [] => 0
  | (_, value) :: rest => max (depth value) (fieldsDepth rest)

end

end WorkspaceServers.Json
