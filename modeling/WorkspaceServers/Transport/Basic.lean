import WorkspaceServers.Failure
import WorkspaceServers.Frame.Stream
import WorkspaceServers.Frame.Writer
import WorkspaceServers.Pending.Basic
import WorkspaceServers.Rpc.Incoming
import WorkspaceServers.Rpc.Message

/-!
A transport: requests and notifications go out through one queue, which a writer takes
up in order, and responses come back to the requests that wait for them, in whatever
order they arrive. Closing fails every request that still waits. The writer stops at a
close command or at the first frame that it cannot write, and what is queued behind
that is lost.
-/

namespace WorkspaceServers

inductive Transport.Command where
  | frame (json : Json)
  | close

structure Transport where
  nextId : UInt64
  pending : Pending String
  queue : List Transport.Command
  writing : Bool
  sink : Frame.Sink
  /-- What has come in and does not make a frame yet. -/
  unread : Bytes
  reading : Bool
  requestTimeout : Option Duration

namespace Transport

structure Resolution where
  id : UInt64
  outcome : Except Failure Json

def start (requestTimeout : Option Duration) : Transport :=
  ⟨1, .empty, [], true, .unlimited, [], true, requestTimeout⟩

def isClosed (transport : Transport) : Bool := transport.pending.closed

def enqueue (command : Command) (transport : Transport) : Transport :=
  if transport.writing then { transport with queue := transport.queue ++ [command] } else transport

/-- The id that the request takes, and its failure if it does not come to wait. -/
def request (method : String) (params : Option Json) (transport : Transport) :
    Transport × UInt64 × Option Failure :=
  let id := transport.nextId
  let next := { transport with nextId := id + 1 }
  match transport.pending.register id method with
  | none => (next, id, some .terminated)
  | some pending =>
    if transport.writing then
      ({ next with pending }.enqueue (.frame (Rpc.request id method params)), id, none)
    else (next, id, some .terminated)

def notify (method : String) (params : Option Json) (transport : Transport) :
    Transport × Except Failure Unit :=
  if transport.isClosed || !transport.writing then (transport, .error .terminated)
  else (transport.enqueue (.frame (Rpc.notification method params)), .ok ())

/-- Takes in one frame from the server. Its own requests are answered, never left
waiting; what matches no waiting request changes nothing. -/
def dispatch (frame : Json) (transport : Transport) : Transport × List Resolution :=
  match Rpc.Incoming.ofJson? frame with
  | some (.response id outcome) =>
    let (waiter, pending) := transport.pending.complete id
    ({ transport with pending },
      waiter.toList.map fun _ => ⟨id, outcome.mapError Failure.refused⟩)
  | some (.request id method) =>
    (transport.enqueue (.frame (Rpc.methodNotFound id method)), [])
  | some (.notification _ _) | none => (transport, [])

def dispatchAll : List Json → Transport → Transport × List Resolution
  | [], transport => (transport, [])
  | frame :: rest, transport =>
    let (transport, first) := transport.dispatch frame
    let (transport, others) := dispatchAll rest transport
    (transport, first ++ others)

def failPending (transport : Transport) : Transport × List Resolution :=
  let (entries, pending) := transport.pending.close
  ({ transport with pending }, entries.map fun entry => ⟨entry.1, .error .terminated⟩)

def close (transport : Transport) : Transport × List Resolution :=
  let (transport, failed) := transport.failPending
  (transport.enqueue .close, failed)

/-- The reader ends and with it every wait; the writer goes on. -/
def stopReading (transport : Transport) : Transport × List Resolution :=
  { transport with reading := false, unread := [] }.failPending

def receive (bytes : Bytes) (transport : Transport) : Transport × List Resolution :=
  if !transport.reading then (transport, [])
  else
    let (frames, rest, pause) := Frame.settledFrames (transport.unread ++ bytes)
    let (transport, resolved) := { transport with unread := rest }.dispatchAll frames
    match pause with
    | .hungry => (transport, resolved)
    | .over =>
      let (transport, failed) := transport.stopReading
      (transport, resolved ++ failed)

def endInbound (transport : Transport) : Transport × List Resolution :=
  if !transport.reading then (transport, [])
  else
    let (transport, resolved) := transport.dispatchAll (Frame.allFrames transport.unread)
    let (transport, failed) := transport.stopReading
    (transport, resolved ++ failed)

def expire (id : UInt64) (transport : Transport) : Transport × List Resolution :=
  match transport.pending.find? id, transport.requestTimeout with
  | some method, some limit =>
    ({ transport with pending := transport.pending.release id },
      [⟨id, .error (.timedOut method limit)⟩])
  | _, _ => (transport, [])

def abandon (id : UInt64) (transport : Transport) : Transport :=
  { transport with pending := transport.pending.release id }

def write (transport : Transport) : Transport :=
  match transport.queue with
  | [] => transport
  | .close :: _ => { transport with queue := [], writing := false }
  | .frame json :: rest =>
    match transport.sink.write json with
    | (sink, .ok ()) => { transport with sink, queue := rest }
    | (sink, .error _) => { transport with sink, queue := [], writing := false }

def flush (transport : Transport) : Transport :=
  transport.queue.foldl (fun transport _ => transport.write) transport

/-- The server stops reading: no write succeeds from here on. -/
def shutSink (transport : Transport) : Transport :=
  { transport with sink := { transport.sink with room := some 0 } }

end Transport

end WorkspaceServers
