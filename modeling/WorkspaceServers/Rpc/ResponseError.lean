import WorkspaceServers.Json.Basic
import WorkspaceServers.Number.Decimal

/-!
The error member of a response.
-/

namespace WorkspaceServers.Rpc

structure ResponseError where
  code : Int64
  message : String
  data : Option Json

namespace ResponseError

def methodNotFound : Int64 := -32601

def internalError : Int64 := -32603

def display (error : ResponseError) : String :=
  error.message ++ " (code " ++ String.ofList (Decimal.intDigits error.code.toInt) ++ ")"

def ofParts? (code message data : Option Json) : Option ResponseError := do
  return ⟨← (← code).int64?, ← (← message).str?, data.filter fun data => !data.isNull⟩

/-- An object with a code and a message, or a list that holds them in this order; the
data is optional in both and other members do not matter. -/
def ofJson? : Json → Option ResponseError
  | .obj fields =>
    ofParts? (Keyed.find? "code" fields) (Keyed.find? "message" fields) (Keyed.find? "data" fields)
  | .arr [code, message] => ofParts? (some code) (some message) none
  | .arr [code, message, data] => ofParts? (some code) (some message) (some data)
  | _ => none

end ResponseError

end WorkspaceServers.Rpc
