import WorkspaceServers.Keyed.Lemmas
import WorkspaceServers.Rpc.Message

/-!
The members of the messages that a client sends. A request has an id and a notification has
none; both have a method, and parameters if there are any. A refusal has the id that it answers
and no method.
-/

namespace WorkspaceServers

/-- Of two members with one name the later counts. -/
theorem Json.field?_object (fields : List (String × Json)) (name : String) :
    (Json.object fields).field? name = Keyed.find? name fields.reverse :=
  Keyed.find?_ofList name fields

namespace Rpc

theorem field?_request (id : UInt64) (method : String) (params : Option Json) (name : String) :
    (request id method params).field? name =
      if "params" = name then params
      else if "method" = name then some (.str method)
      else if "id" = name then some (.ofUInt64 id)
      else if "jsonrpc" = name then some (.str "2.0")
      else none := by
  cases params with
  | none =>
    by_cases last : "params" = name
    · subst last
      simp [request, Json.sparse, Json.field?_object, version, Keyed.find?]
    · simp [request, Json.sparse, Json.field?_object, version, Keyed.find?, last]
  | some value => simp [request, Json.sparse, Json.field?_object, version, Keyed.find?]

theorem field?_notification (method : String) (params : Option Json) (name : String) :
    (notification method params).field? name =
      if "params" = name then params
      else if "method" = name then some (.str method)
      else if "jsonrpc" = name then some (.str "2.0")
      else none := by
  cases params with
  | none =>
    by_cases last : "params" = name
    · subst last
      simp [notification, Json.sparse, Json.field?_object, version, Keyed.find?]
    · simp [notification, Json.sparse, Json.field?_object, version, Keyed.find?, last]
  | some value => simp [notification, Json.sparse, Json.field?_object, version, Keyed.find?]

def refusal (method : String) : Json :=
  .object [("code", .ofInt64 ResponseError.methodNotFound),
    ("message", .str ("Method not found: " ++ method))]

theorem field?_methodNotFound (id : Json) (method name : String) :
    (methodNotFound id method).field? name =
      if "error" = name then some (refusal method)
      else if "id" = name then some id
      else if "jsonrpc" = name then some (.str "2.0")
      else none := by
  simp [methodNotFound, Json.field?_object, version, Keyed.find?, refusal]

end Rpc

end WorkspaceServers
