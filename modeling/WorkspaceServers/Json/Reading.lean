import WorkspaceServers.Json.Record

/-!
Readings of JSON values that give what is kept of a value, as it is written again: scalars,
lists, records and alternatives.
-/

namespace WorkspaceServers.Json

/-- What is kept of a value; nothing if the value is not of the kind that is read. -/
abbrev Reading := Json → Option Json

structure Member where
  name : String
  read : Option Json → Option (Option Json)

namespace Member

def required (name : String) (read : Reading) : Member :=
  ⟨name, fun member => (required? read member).map some⟩

def optional (name : String) (read : Reading) : Member := ⟨name, optional? read⟩

/-- Written as null where it is absent. -/
def nullable (name : String) (read : Reading) : Member :=
  ⟨name, fun member => (optional? read member).map fun kept => some (kept.getD .null)⟩

def entry? : Member × Option Json → Option (String × Option Json)
  | (member, value) => (member.read value).map (member.name, ·)

end Member

namespace Reading

def bool : Reading := fun json => json.bool?.map .bool

def text : Reading := fun json => json.str?.map .str

def int32 : Reading := fun json => json.int32?.map .ofInt32

def any : Reading := some

def listOf (item : Reading) : Reading := fun json => (list? item json).map .arr

def oneOf (kinds : List Reading) : Reading := fun json => kinds.findSome? fun read => read json

def name (names : List String) : Reading
  | .str text => if text ∈ names then some (.str text) else none
  | .obj [(text, .null)] => if text ∈ names then some (.str text) else none
  | _ => none

def keep (members : List Member) (values : List (Option Json)) : Option Json :=
  ((members.zip values).mapM Member.entry?).map sparse

def record (members : List Member) : Reading := fun json => do
  keep members (← members? (members.map Member.name) json)

/-- A record that is never written as a list. -/
def mapping (members : List Member) : Reading
  | .obj entries => record members (.obj entries)
  | _ => none

end Reading

end WorkspaceServers.Json
