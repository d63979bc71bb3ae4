import WorkspaceServers.Json.Printer
import WorkspaceServers.Rpc.ResponseError

/-!
What a frame from the server is: the response to one of the client's requests, a
request of the server's own, a notification, or nothing that can be told.
-/

namespace WorkspaceServers.Rpc

inductive Incoming where
  | response (id : UInt64) (outcome : Except ResponseError Json)
  | request (id : Json) (method : String)
  | notification (method : String) (params : Option Json)

namespace Incoming

/-- An error member that does not decode still fails the request. -/
def errorOf (json : Json) : ResponseError :=
  (ResponseError.ofJson? json).getD
    ⟨ResponseError.internalError, "malformed error object: " ++ json.text, none⟩

def outcomeOf (frame : Json) : Except ResponseError Json :=
  match frame.field? "error" with
  | some error => .error (errorOf error)
  | none => .ok ((frame.field? "result").getD .null)

/-- A text as method tells a request from a response; an id tells it from a
notification. -/
def ofJson? (frame : Json) : Option Incoming :=
  match frame.field? "id", (frame.field? "method").bind Json.str? with
  | some id, some method => some (.request id method)
  | none, some method => some (.notification method (frame.field? "params"))
  | some id, none => id.uint64?.map fun id => .response id (outcomeOf frame)
  | none, none => none

end Incoming

end WorkspaceServers.Rpc
