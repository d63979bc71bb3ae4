import WorkspaceServers.Environment

/-!
Variables in configured texts. `${name}` gives way to the variable's value in one pass
from left to right: what a variable brings in is not looked at again, an unset variable
or an empty name brings in nothing, and an opening that is never closed stays with all
that follows it.
-/

namespace WorkspaceServers.Config

def substitute (lookup : String → Option String) (name : List Char) : List Char :=
  if name.isEmpty then [] else ((lookup (String.ofList name)).getD "").toList

/-- `opened` holds the name read so far behind an opening, its last character first. -/
def expandFrom (lookup : String → Option String) : Option (List Char) → List Char → List Char
  | none, [] => []
  | some name, [] => '$' :: '{' :: name.reverse
  | none, '$' :: '{' :: rest => expandFrom lookup (some []) rest
  | none, c :: rest => c :: expandFrom lookup none rest
  | some name, c :: rest =>
    if c = '}' then substitute lookup name.reverse ++ expandFrom lookup none rest
    else expandFrom lookup (some (c :: name)) rest

def expand (lookup : String → Option String) (text : String) : String :=
  String.ofList (expandFrom lookup none text.toList)

end WorkspaceServers.Config

namespace WorkspaceServers.Environment

def expand (environment : Environment) (text : String) : String :=
  Config.expand environment.text? text

end WorkspaceServers.Environment
