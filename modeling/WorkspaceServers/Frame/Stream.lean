import WorkspaceServers.Frame.Reader

/-!
The frames at the front of a stream: as many as can be read before the stream ends or
fails, and what is left then.
-/

namespace WorkspaceServers.Frame

inductive Pause where
  | hungry
  | over
deriving DecidableEq

/-- Reads frames while `go` allows the reading to be acted on. -/
def collect (go : Bool → Bool) : Nat → Bytes → List Json × Bytes × Pause
  | 0, stream => ([], stream, .hungry)
  | fuel + 1, stream =>
    let reading := read stream
    if !go reading.settled then ([], stream, .hungry)
    else match reading.found with
      | .frame json =>
        let (frames, rest, pause) := collect go fuel reading.rest
        (json :: frames, rest, pause)
      | _ => ([], reading.rest, .over)

def settledFrames (stream : Bytes) : List Json × Bytes × Pause :=
  collect id (stream.length + 1) stream

def allFrames (stream : Bytes) : List Json := (collect (fun _ => true) (stream.length + 1) stream).1

end WorkspaceServers.Frame
