import WorkspaceServers.Answer.Handshake
import WorkspaceServers.Answer.Hover
import WorkspaceServers.Answer.Symbols
import WorkspaceServers.Failure
import WorkspaceServers.Launch.Context

/-!
What can be asked of a session, which of it asks the server and waits, and what comes
back.
-/

namespace WorkspaceServers.Session

inductive Operation where
  | handshake (context : Launch.Context)
  | confirm
  | openDocument (document text : String)
  | symbols (document : String)
  | hover (document : String) (line character : UInt32)
  | definition (document : String) (line character : UInt32)
  | shutdown
  | exit

inductive Question where
  | handshake
  | symbols
  | hover
  | definition
  | shutdown
deriving DecidableEq

inductive Reply where
  | done
  | handshake (handshake : Answer.Handshake)
  | symbols (symbols : Answer.Symbols)
  | hover (hover : Option Answer.Hover)
  | locations (locations : List Answer.Location)

namespace Reply

def toJson : Reply → Json
  | done => .null
  | handshake answer => answer.toJson
  | symbols answer => answer.toJson
  | hover answer => (answer.map Answer.Hover.toJson).getD .null
  | locations answer => .arr (answer.map Answer.Location.toJson)

end Reply

namespace Question

def method : Question → String
  | handshake => "initialize"
  | symbols => "textDocument/documentSymbol"
  | hover => "textDocument/hover"
  | definition => "textDocument/definition"
  | shutdown => "shutdown"

def read? (result : Json) : Question → Option Reply
  | handshake => (Answer.Handshake.ofJson? result).map .handshake
  | symbols => (Answer.Symbols.symbolsOf? result).map .symbols
  | hover => (Answer.Hover.hoverOf? result).map .hover
  | definition => (Answer.Definition.locationsOf? result).map .locations
  | shutdown => some .done

/-- What the caller gets for the outcome of the request, by some way of reading results. -/
def concludeBy (read? : Json → Question → Option Reply) (question : Question) :
    Except Failure Json → Except Failure Reply
  | .error failure => .error failure
  | .ok result =>
    match read? result question with
    | some reply => .ok reply
    | none => .error (.malformed question.method)

def conclude : Question → Except Failure Json → Except Failure Reply := concludeBy read?

end Question

end WorkspaceServers.Session
