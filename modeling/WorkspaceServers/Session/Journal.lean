import WorkspaceServers.Session.Queue
import WorkspaceServers.Session.Run

/-!
The operations of a session's life in the order of their calls, each with the session that
it found and with what it put into the queue. Between them the server does as it likes, and
may also stop reading.
-/

namespace WorkspaceServers.Session

inductive Turn where
  | event (event : Event)
  | shutSink

namespace Turn

def operation? : Turn → Option Operation
  | event (.start operation) => some operation
  | event (.incident _) | event .processEnded | shutSink => none

/-- No caller does this: no operation starts, and nobody gives up waiting. -/
def isUnprompted : Turn → Bool
  | event (.start _) | event (.incident (.abandon _)) => false
  | event (.incident _) | event .processEnded | shutSink => true

end Turn

def turn (machine : Launch.Machine) (session : Session) : Turn → Session
  | .event event => (session.step machine event).1
  | .shutSink => (session.withTransport fun transport => (transport.shutSink, [])).1

def turns (machine : Launch.Machine) (session : Session) (turns : List Turn) : Session :=
  turns.foldl (turn machine) session

def resolvedBy (machine : Launch.Machine) (session : Session) :
    Turn → List Transport.Resolution
  | .event event => (session.step machine event).2.resolved
  | .shutSink => []

/-- The one session has become the other, turn by turn. The machine may be another at each
of them. -/
inductive Leads (session : Session) : Session → Prop where
  | refl : Leads session session
  | turn {between : Session} (machine : Launch.Machine) (turn : Turn)
      (led : Leads session between) : Leads session (between.turn machine turn)

structure Entry where
  before : Session
  operation : Operation

namespace Entry

variable (machine : Launch.Machine) (entry : Entry)

def started : Started := entry.before.start machine entry.operation

def queued : List Transport.Command :=
  (entry.started machine).session.queue.drop entry.before.queue.length

end Entry

def journal (machine : Launch.Machine) (session : Session) : List Turn → List Entry
  | [] => []
  | turn :: rest =>
    (turn.operation?.map (Entry.mk session)).toList ++
      journal machine (session.turn machine turn) rest

def spoken (machine : Launch.Machine) (entries : List Entry) : List Transport.Command :=
  entries.flatMap (Entry.queued machine)

end WorkspaceServers.Session
