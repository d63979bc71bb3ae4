import WorkspaceServers.Answer.Capabilities

/-!
The answer to the handshake: what the server can do and who it is.
-/

namespace WorkspaceServers.Answer

open WorkspaceServers.Json (members? required? optional?)

structure ServerInfo where
  name : String
  version : Option String

namespace ServerInfo

def ofJson? (json : Json) : Option ServerInfo := do
  match ← members? ["name", "version"] json with
  | [name, version] => return ⟨← required? Json.str? name, ← optional? Json.str? version⟩
  | _ => none

def toJson (info : ServerInfo) : Json :=
  .sparse [("name", some (.str info.name)), ("version", info.version.map .str)]

end ServerInfo

/-- The capabilities are kept as they are written again. -/
structure Handshake where
  capabilities : Json
  server : Option ServerInfo

namespace Handshake

/-- The answer that stands for a handshake done before. -/
def empty : Handshake := ⟨.object [], none⟩

def ofJson? (json : Json) : Option Handshake := do
  match ← members? ["capabilities", "serverInfo"] json with
  | [capabilities, server] =>
    return ⟨← required? Capabilities.read capabilities, ← optional? ServerInfo.ofJson? server⟩
  | _ => none

def toJson (handshake : Handshake) : Json :=
  .sparse [("capabilities", some handshake.capabilities),
    ("serverInfo", handshake.server.map ServerInfo.toJson)]

end Handshake

end WorkspaceServers.Answer
