import WorkspaceServers.CommandLine.Run
import WorkspaceServers.Registry.Basic
import WorkspaceServers.Session.Queue
import WorkspaceServers.Transport.Run

/-!
Runs of the command line against a server whose part is written down beforehand: for
each operation, what happens to the session while the operation is performed. For a
request that all of this leaves without an answer the stream ends. How the results of requests
are read is open as well. The turns of the client are kept, with what it queued at each.
-/

namespace WorkspaceServers.CommandLine

open Session (Operation Question Reply)

/-- What happens to a session without the client's doing. -/
inductive Happening where
  | incident (incident : Transport.Incident)
  | shutSink
  | processEnded

def Happening.befall (session : Session) : Happening → Session × List Transport.Resolution
  | incident suffered => session.withTransport fun transport => transport.suffer suffered
  | shutSink => session.withTransport fun transport => (transport.shutSink, [])
  | processEnded => session.processEnded

/-- What happenings have come to: the session, the requests that they resolved, and the
commands that they put into the queue. -/
structure Passage where
  session : Session
  resolved : List Transport.Resolution
  aside : List Transport.Command

structure Turn where
  operation : Operation
  /-- Frames were taken when the operation had begun. -/
  opened : Bool
  queued : List Transport.Command
  result : Except Failure Reply

def Turn.succeeded (turn : Turn) : Bool := turn.result.isOk

structure Rehearsal where
  registry : Registry
  number : Nat
  machine : Launch.Machine
  read? : Json → Question → Option Reply
  text? : Path → Option String
  /-- The part of the server, with the id of the request that it plays to. -/
  part : List (UInt64 → List Happening)
  turns : List Turn
  aside : List Transport.Command

namespace Rehearsal

def play (session : Session) : List Happening → Passage
  | [] => ⟨session, [], []⟩
  | happening :: rest =>
    let (after, resolved) := happening.befall session
    let later := play after rest
    ⟨later.session, resolved ++ later.resolved,
      after.queue.drop session.queue.length ++ later.aside⟩

def session? (rehearsal : Rehearsal) : Option Session :=
  rehearsal.registry.session? rehearsal.number

def cue (rehearsal : Rehearsal) : UInt64 → List Happening := rehearsal.part.headD fun _ => []

/-- Begins an operation and goes on with the part until it has its result. -/
def act (rehearsal : Rehearsal) (operation : Operation) (session : Session) :
    Except Failure Reply × Passage :=
  let started := session.start rehearsal.machine operation
  match started.progress with
  | .finished result => (result, play started.session (rehearsal.cue 0))
  | .waiting id question =>
    let passage := play started.session (rehearsal.cue id)
    match passage.resolved.find? (·.id = id) with
    | some resolution => (question.concludeBy rehearsal.read? resolution.outcome, passage)
    | none =>
      (.error .terminated, play started.session (rehearsal.cue id ++ [.incident .endInbound]))

def proceed (passage : Passage) (rehearsal : Rehearsal) : Rehearsal :=
  { rehearsal with
    registry := rehearsal.registry.setSession rehearsal.number passage.session
    part := rehearsal.part.tail
    aside := rehearsal.aside ++ passage.aside }

def perform (operation : Operation) (rehearsal : Rehearsal) :
    Except Failure Reply × Rehearsal :=
  match rehearsal.session? with
  | none => (.error .terminated, rehearsal)
  | some session =>
    let begun := (session.start rehearsal.machine operation).session
    let (result, passage) := act rehearsal operation session
    let turn := ⟨operation, begun.slot?.isSome, begun.queue.drop session.queue.length, result⟩
    (result, { rehearsal.proceed passage with turns := rehearsal.turns ++ [turn] })

def elapse (rehearsal : Rehearsal) : Rehearsal :=
  match rehearsal.session? with
  | none => rehearsal
  | some session => rehearsal.proceed (play session (rehearsal.cue 0))

def remove (resource slug : String) (rehearsal : Rehearsal) : Rehearsal :=
  { rehearsal with registry := (rehearsal.registry.remove resource slug).1 }

def client : Client (StateM Rehearsal) where
  perform := perform
  readText path := do return (← get).text? path
  awaitEnd := modify elapse
  remove resource slug := modify (remove resource slug)

def opening (setup : Setup) (identity : Workspace.Identity) (machine : Launch.Machine)
    (read? : Json → Question → Option Reply) (text? : Path → Option String)
    (part : List (UInt64 → List Happening)) : Rehearsal :=
  let (registry, number) := (Registry.create setup.storage setup.options).getOrCreate identity
  ⟨registry, number, machine, read?, text?, part, [], []⟩

end Rehearsal

end WorkspaceServers.CommandLine
