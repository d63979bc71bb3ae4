import WorkspaceServers.Proofs.Frame.Readings
import WorkspaceServers.Proofs.Transport.Operations

/-!
The whole inbound stream of a transport, whatever bytes it carries and however they come in.
The frames in front of its end or its first error are dispatched in order, and then every
request that still waits is failed.
-/

namespace WorkspaceServers.Transport

def receiveAll : List Bytes → Transport → Transport × List Resolution
  | [], transport => transport.endInbound
  | chunk :: rest, transport =>
    let (transport, first) := transport.receive chunk
    let (transport, others) := receiveAll rest transport
    (transport, first ++ others)

def drain (frames : List Json) (transport : Transport) : Transport × List Resolution :=
  let (transport, resolved) := transport.dispatchAll frames
  let (transport, failed) := transport.stopReading
  (transport, resolved ++ failed)

section Chunks

variable {transport : Transport}

theorem dispatch_unread (unread : Bytes) (frame : Json) (transport : Transport) :
    dispatch frame { transport with unread } =
      ({ (transport.dispatch frame).1 with unread }, (transport.dispatch frame).2) := by
  unfold dispatch
  cases Rpc.Incoming.ofJson? frame with
  | none => rfl
  | some incoming =>
    cases incoming with
    | response id outcome => rfl
    | notification method params => rfl
    | request id method =>
      unfold enqueue
      cases writing : transport.writing <;> simp [writing]

theorem reading_dispatch (frame : Json) (transport : Transport) :
    (transport.dispatch frame).1.reading = transport.reading := by
  obtain ⟨queue, dispatched, _⟩ := dispatch_settles transport frame
  rw [dispatched]

theorem dispatchAll_append (first second : List Json) (transport : Transport) :
    transport.dispatchAll (first ++ second) =
      (((transport.dispatchAll first).1.dispatchAll second).1,
        (transport.dispatchAll first).2 ++
          ((transport.dispatchAll first).1.dispatchAll second).2) := by
  induction first generalizing transport with
  | nil => simp [dispatchAll]
  | cons frame rest ih => simp [dispatchAll, ih]

theorem dispatchAll_unread (unread : Bytes) (frames : List Json) (transport : Transport) :
    dispatchAll frames { transport with unread } =
      ({ (transport.dispatchAll frames).1 with unread }, (transport.dispatchAll frames).2) := by
  induction frames generalizing transport with
  | nil => rfl
  | cons frame rest ih => simp [dispatchAll, dispatch_unread, ih]

theorem reading_dispatchAll (frames : List Json) (transport : Transport) :
    (transport.dispatchAll frames).1.reading = transport.reading := by
  induction frames generalizing transport with
  | nil => rfl
  | cons frame rest ih => rw [dispatchAll, ih, reading_dispatch]

theorem drain_append (first second : List Json) (transport : Transport) :
    transport.drain (first ++ second) =
      (((transport.dispatchAll first).1.drain second).1,
        (transport.dispatchAll first).2 ++ ((transport.dispatchAll first).1.drain second).2) := by
  simp [drain, dispatchAll_append]

theorem drain_unread (unread : Bytes) (frames : List Json) (transport : Transport) :
    drain frames { transport with unread } = transport.drain frames := by
  simp [drain, dispatchAll_unread, stopReading]

theorem receiveAll_of_stopped (stopped : transport.reading = false) (chunks : List Bytes) :
    transport.receiveAll chunks = (transport, []) := by
  induction chunks with
  | nil => simp [receiveAll, endInbound, stopped]
  | cons chunk rest ih => simp [receiveAll, receive, stopped, ih]

theorem receive_of_hungry {bytes left : Bytes} {frames : List Json}
    (reading : transport.reading = true)
    (settled : Frame.settledFrames (transport.unread ++ bytes) = (frames, left, .hungry)) :
    transport.receive bytes =
      ({ (transport.dispatchAll frames).1 with unread := left },
        (transport.dispatchAll frames).2) := by
  rw [receive, if_neg (by simp [reading]), settled]
  simp only [dispatchAll_unread]

theorem receive_of_over {bytes left : Bytes} {frames : List Json}
    (reading : transport.reading = true)
    (settled : Frame.settledFrames (transport.unread ++ bytes) = (frames, left, .over)) :
    transport.receive bytes = transport.drain frames := by
  rw [receive, if_neg (by simp [reading]), settled]
  exact drain_unread left frames transport

theorem receiveAll_eq (reading : transport.reading = true) (chunks : List Bytes) :
    transport.receiveAll chunks =
      transport.drain (Frame.allFrames (transport.unread ++ chunks.flatten)) := by
  induction chunks generalizing transport with
  | nil => simp [receiveAll, endInbound, reading, drain]
  | cons chunk rest ih =>
    rw [receiveAll, List.flatten_cons, ← List.append_assoc]
    cases settled : Frame.settledFrames (transport.unread ++ chunk) with
    | mk frames more =>
      obtain ⟨left, pause⟩ := more
      cases pause with
      | hungry =>
        have goes : (transport.dispatchAll frames).1.reading = true := by
          rw [reading_dispatchAll, reading]
        have later := ih (show ({ (transport.dispatchAll frames).1 with unread := left } :
          Transport).reading = true from goes)
        rw [receive_of_hungry reading settled, Frame.allFrames_of_hungry settled, drain_append]
        simp only [later, drain_unread]
      | «over» =>
        -- The reader has stopped, so the chunks still to come are passed by.
        have stopped : (transport.drain frames).1.reading = false := rfl
        rw [receive_of_over reading settled, Frame.allFrames_of_over settled]
        simp only [receiveAll_of_stopped stopped, List.append_nil]

end Chunks

section Outcomes

def firstAnswer? (id : UInt64) (frames : List Json) : Option (Except Failure Json) :=
  frames.findSome? (answerTo? id)

variable {id : UInt64} {method : String}

end Outcomes

/-- What the end of an inbound stream leaves: `frames` are those dispatched by then. -/
structure Finished (before : Transport) (stream : Bytes) (frames : List Json)
    (after : Transport) (resolved : List Resolution) : Prop where
  found : ∃ rest, Frame.Opens stream frames rest ∧ Frame.Stops rest
  /-- Where no more bytes can mend an error, nothing behind it makes a difference. -/
  cut_short : ∀ front beyond taken left error behind, stream = front ++ beyond →
    Frame.Opens front taken left → Frame.read left = ⟨.failed error, behind, true⟩ →
      frames = taken
  dispatched : (after, resolved) = before.drain frames
  closed : after.pending.closed = true
  nobody_waits : after.pending.waiting = []
  answered : ∀ id, outcomes id resolved =
    ((before.pending.find? id).map fun _ =>
      (firstAnswer? id frames).getD (.error .terminated)).toList
  refused : ∀ events method params,
    (after.run events).1.request method params =
      ({ (after.run events).1 with nextId := (after.run events).1.nextId + 1 },
        (after.run events).1.nextId, some .terminated)
  unsent : ∀ events method params,
    (after.run events).1.notify method params = ((after.run events).1, .error .terminated)

/-- Two requests wait. The answer to the second comes in two pieces, and the answer to the
first stands behind a length that is no number. -/
def torn : Transport × List Bytes :=
  (((start none).run [.request "shutdown" none, .request "textDocument/hover" none]).1,
    [(Frame.encode (.object [("id", .ofUInt64 2), ("result", .null)])).take 25,
      (Frame.encode (.object [("id", .ofUInt64 2), ("result", .null)])).drop 25 ++
        Utf8.ofString "Content-Length: one\n\n" ++
        Frame.encode (.object [("id", .ofUInt64 1), ("result", .null)])])

end WorkspaceServers.Transport
