import WorkspaceServers.Json.Printer
import WorkspaceServers.Rpc.ResponseError

/-!
Messages that a client sends, and the parameters of its methods.
-/

namespace WorkspaceServers.Rpc

def version : String × Json := ("jsonrpc", .str "2.0")

/-- Absent parameters are left out; null parameters are parameters. -/
def request (id : UInt64) (method : String) (params : Option Json) : Json :=
  .sparse [(version.1, some version.2), ("id", some (.ofUInt64 id)),
    ("method", some (.str method)), ("params", params)]

def notification (method : String) (params : Option Json) : Json :=
  .sparse [(version.1, some version.2), ("method", some (.str method)), ("params", params)]

def methodNotFound (id : Json) (method : String) : Json :=
  .object [version, ("id", id),
    ("error", .object [("code", .ofInt64 ResponseError.methodNotFound),
      ("message", .str ("Method not found: " ++ method))])]

def firstVersion : UInt32 := 1

def handshakeParams (processId : UInt32) (rootUri folder : String) : Json :=
  .object [("processId", .ofUInt32 processId), ("rootUri", .str rootUri),
    ("capabilities", .object []),
    ("workspaceFolders",
      .arr [.object [("uri", .str rootUri), ("name", .str folder)]])]

def openParams (uri languageId text : String) : Json :=
  .object [("textDocument", .object [("uri", .str uri), ("languageId", .str languageId),
    ("version", .ofUInt32 firstVersion), ("text", .str text)])]

def documentParams (uri : String) : Json :=
  .object [("textDocument", .object [("uri", .str uri)])]

def positionParams (uri : String) (line character : UInt32) : Json :=
  .object [("textDocument", .object [("uri", .str uri)]),
    ("position", .object [("line", .ofUInt32 line), ("character", .ofUInt32 character)])]

end WorkspaceServers.Rpc
