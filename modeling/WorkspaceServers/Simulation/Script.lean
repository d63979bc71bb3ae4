import WorkspaceServers.Transport.Basic

/-!
A server that follows a script: for each method a list of actions. It takes messages one
at a time, in order, and stops taking them when it has ended.
-/

namespace WorkspaceServers.Simulation

inductive Action where
  | reply (result : Json)
  | refuse (error : Json)
  | send (frame : Json)
  | write (bytes : Bytes)
  | closeOutput
  | closeInput
  /-- The output stays open when the server ends. -/
  | holdOutput
  | exit

abbrev Script := List (String × List Action)

def startName : String := "$start"

structure Process where
  script : Script
  started : Bool
  taken : Nat
  received : List Json
  reading : Bool
  sending : Bool
  holding : Bool
  alive : Bool

structure Link where
  process : Process
  transport : Transport
  resolved : List Transport.Resolution

namespace Process

def launch (script : Script) : Process := ⟨script, false, 0, [], true, true, false, true⟩

/-- What is done about a message. Unless the script says otherwise a greeting is
answered, a request gets null, and the word to exit is obeyed. -/
def actions (process : Process) (message : Json) : List Action :=
  match (message.field? "method").bind Json.str? with
  | none => []
  | some method =>
    match process.script.lookup method with
    | some actions => actions
    | none =>
      if method = "initialize" then [.reply (.object [("capabilities", .object [])])]
      else if method = "exit" then [.exit]
      else if (message.field? "id").isSome then [.reply .null]
      else []

end Process

namespace Link

def onTransport (event : Transport → Transport × List Transport.Resolution) (link : Link) : Link :=
  let (transport, resolved) := event link.transport
  { link with transport := transport.flush, resolved := link.resolved ++ resolved }

def emit (bytes : Bytes) (link : Link) : Link :=
  if link.process.sending then link.onTransport fun transport => transport.receive bytes else link

def closeOutput (link : Link) : Link :=
  if link.process.sending then
    { link with process := { link.process with sending := false } }.onTransport Transport.endInbound
  else link

def finish (link : Link) : Link :=
  let link := { link with
    process := { link.process with alive := false, reading := false }
    transport := link.transport.shutSink }
  if link.process.holding then link else link.closeOutput

def answer (message : Json) (name : String) (value : Json) : Bytes :=
  Frame.encode (.object
    [Rpc.version, ("id", (message.field? "id").getD .null), (name, value)])

def act (message : Json) (link : Link) : Action → Link
  | .reply result => link.emit (answer message "result" result)
  | .refuse error => link.emit (answer message "error" error)
  | .send frame => link.emit (Frame.encode frame)
  | .write bytes => link.emit bytes
  | .closeOutput => link.closeOutput
  | .closeInput =>
    { link with
      process := { link.process with reading := false }
      transport := link.transport.shutSink }
  | .holdOutput => { link with process := { link.process with holding := true } }
  | .exit => link.finish

def actAll (message : Json) : List Action → Link → Link
  | [], link => link
  | action :: rest, link =>
    if link.process.alive then actAll message rest (link.act message action) else link

def begin (link : Link) : Link :=
  if link.process.started then link
  else
    { link with process := { link.process with started := true } }.onTransport (·, [])
      |> actAll .null ((link.process.script.lookup startName).getD [])

def serve : Nat → Link → Link
  | 0, link => link
  | fuel + 1, link =>
    if !(link.process.alive && link.process.reading) then link
    else
      let unread := link.transport.sink.written.drop link.process.taken
      match Frame.read unread with
      | ⟨.frame message, rest, _⟩ =>
        let process := { link.process with
          taken := link.process.taken + (unread.length - rest.length)
          received := link.process.received ++ [message] }
        serve fuel ({ link with process }.actAll message (process.actions message))
      | _ => link

/-- Takes all messages there are, and those that the client sends on account of them:
each of these answers a request of the server's and is taken without an action. -/
def settle (link : Link) : Link :=
  let all (link : Link) : Link := serve link.transport.sink.written.length link
  all (all link.begin)

end Link

end WorkspaceServers.Simulation
