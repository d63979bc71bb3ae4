import WorkspaceServers.Transport.Basic

/-!
Runs of a transport. The client starts requests and notifications, and between them the
server, the clock and the writer do their part, in any order. A run tells which requests
it resolved, and how.
-/

namespace WorkspaceServers.Transport

inductive Incident where
  | frame (json : Json)
  | expire (id : UInt64)
  | abandon (id : UInt64)
  | endInbound
  | close
  | write

def suffer (transport : Transport) : Incident → Transport × List Resolution
  | .frame json => if transport.reading then transport.dispatch json else (transport, [])
  | .expire id => transport.expire id
  | .abandon id => (transport.abandon id, [])
  | .endInbound => transport.endInbound
  | .close => transport.close
  | .write => (transport.write, [])

inductive Event where
  | request (method : String) (params : Option Json)
  | notify (method : String) (params : Option Json)
  | incident (incident : Incident)

def step (transport : Transport) : Event → Transport × List Resolution
  | .request method params =>
    match transport.request method params with
    | (transport, id, some failure) => (transport, [⟨id, .error failure⟩])
    | (transport, _, none) => (transport, [])
  | .notify method params => ((transport.notify method params).1, [])
  | .incident incident => transport.suffer incident

def run (transport : Transport) : List Event → Transport × List Resolution
  | [] => (transport, [])
  | event :: rest =>
    let (transport, first) := transport.step event
    let (transport, others) := transport.run rest
    (transport, first ++ others)

end WorkspaceServers.Transport
