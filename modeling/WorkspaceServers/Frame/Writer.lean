import WorkspaceServers.Json.Printer

/-!
Writing frames to a sink that may run out of room. A frame goes out in two writes, the
header and the body, and is flushed; the first of the three that fails ends it. What a
failing write could still place stays written.
-/

namespace WorkspaceServers.Frame

def header (length : Nat) : Bytes :=
  Utf8.encode ("Content-Length: ".toList ++ Decimal.digits length ++ ['\r', '\n', '\r', '\n'])

def encode (message : Json) : Bytes := header message.bytes.length ++ message.bytes

inductive WriteError where
  | header
  | body
  | flush
deriving DecidableEq

def WriteError.message : WriteError → String
  | header => "writing frame header"
  | body => "writing frame body"
  | flush => "flushing frame"

structure Sink where
  written : Bytes
  /-- Nothing stands for a sink without a limit. -/
  room : Option Nat
  flushFails : Bool

namespace Sink

def unlimited : Sink := ⟨[], none, false⟩

def accept (sink : Sink) (bytes : Bytes) : Sink × Bool :=
  match sink.room with
  | none => ({ sink with written := sink.written ++ bytes }, true)
  | some room =>
    ({ sink with written := sink.written ++ bytes.take room, room := some (room - bytes.length) },
      bytes.length ≤ room)

def write (sink : Sink) (message : Json) : Sink × Except WriteError Unit :=
  let body := message.bytes
  let (sink, done) := sink.accept (Frame.header body.length)
  if !done then (sink, .error .header)
  else
    let (sink, done) := sink.accept body
    if !done then (sink, .error .body)
    else if sink.flushFails then (sink, .error .flush)
    else (sink, .ok ())

def writeAll (sink : Sink) : List Json → Sink × List (Except WriteError Unit)
  | [] => (sink, [])
  | message :: rest =>
    let (sink, result) := sink.write message
    let (sink, results) := sink.writeAll rest
    (sink, result :: results)

end Sink

end WorkspaceServers.Frame
