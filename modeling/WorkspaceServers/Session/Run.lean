import WorkspaceServers.Session.Basic
import WorkspaceServers.Transport.Run

/-!
Runs of a session. Operations start one after another, whether or not those before them
have their answers, and in between the transport suffers its incidents and the server's
process may end. A record keeps what a run did beyond the session itself.
-/

namespace WorkspaceServers.Session

inductive Event where
  | start (operation : Operation)
  | incident (incident : Transport.Incident)
  | processEnded

structure Record where
  launched : List Launch.Command
  signals : Nat
  resolved : List Transport.Resolution
  finished : List (Except Failure Reply)

namespace Record

def empty : Record := ⟨[], 0, [], []⟩

def append (first second : Record) : Record :=
  ⟨first.launched ++ second.launched, first.signals + second.signals,
    first.resolved ++ second.resolved, first.finished ++ second.finished⟩

def ofStarted (started : Started) : Record :=
  ⟨started.launched.toList, if started.signalled then 1 else 0, [],
    match started.progress with
    | .finished result => [result]
    | .waiting _ _ => []⟩

end Record

def step (machine : Launch.Machine) (session : Session) : Event → Session × Record
  | .start operation =>
    let started := session.start machine operation
    (started.session, .ofStarted started)
  | .incident incident =>
    let (session, resolved) := session.withTransport fun transport => transport.suffer incident
    (session, { Record.empty with resolved })
  | .processEnded =>
    let (session, resolved) := session.processEnded
    (session, { Record.empty with resolved })

def run (machine : Launch.Machine) (session : Session) : List Event → Session × Record
  | [] => (session, .empty)
  | event :: rest =>
    let (session, first) := session.step machine event
    let (session, others) := session.run machine rest
    (session, first.append others)

end WorkspaceServers.Session
