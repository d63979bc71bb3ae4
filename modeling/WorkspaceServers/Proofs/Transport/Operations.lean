import WorkspaceServers.Proofs.Frame.Writing
import WorkspaceServers.Proofs.Transport.Waits

/-!
The operations of a transport one by one: what each of them changes, and that a closed
transport stays closed and takes nothing more.
-/

namespace WorkspaceServers.Transport

variable {transport : Transport} {method : String} {params : Option Json}

theorem find?_of_isClosed (closed : transport.isClosed = true) (id : UInt64) :
    transport.pending.find? id = none :=
  Pending.find?_of_closed closed id

theorem enqueue_queue (command : Command) (transport : Transport) :
    ∃ queue, transport.enqueue command = { transport with queue } ∧
      (Command.close ∈ queue → command = .close ∨ Command.close ∈ transport.queue) := by
  unfold enqueue
  split
  · refine ⟨_, rfl, fun member => ?_⟩
    rcases List.mem_append.mp member with old | new
    · exact .inr old
    · exact .inl (List.mem_singleton.mp new).symm
  · exact ⟨transport.queue, rfl, .inr⟩

theorem request_of_closed (closed : transport.isClosed = true) :
    transport.request method params =
      ({ transport with nextId := transport.nextId + 1 }, transport.nextId, some .terminated) := by
  have refused : transport.pending.register transport.nextId method = none :=
    Pending.register_eq_none_iff.mpr closed
  simp only [request, refused]

theorem request_of_open (opened : transport.isClosed = false)
    (writing : transport.writing = true) (method : String) (params : Option Json) :
    ∃ pending, transport.pending.register transport.nextId method = some pending ∧
      transport.request method params =
        ({ transport with
            nextId := transport.nextId + 1
            pending
            queue := transport.queue ++
              [.frame (Rpc.request transport.nextId method params)] }, transport.nextId, none) := by
  cases registered : transport.pending.register transport.nextId method with
  | none =>
    have closed := Pending.register_eq_none_iff.mp registered
    rw [isClosed, closed] at opened
    cases opened
  | some pending =>
    refine ⟨pending, rfl, ?_⟩
    simp only [request, registered, enqueue, writing, if_true]

theorem notify_of_closed (closed : transport.isClosed = true) :
    transport.notify method params = (transport, .error .terminated) := by
  simp only [notify, closed, Bool.true_or, if_true]

theorem notify_queue (transport : Transport) (method : String) (params : Option Json) :
    ∃ queue, (transport.notify method params).1 = { transport with queue } ∧
      (Command.close ∈ queue → Command.close ∈ transport.queue) := by
  unfold notify
  split
  · exact ⟨transport.queue, rfl, id⟩
  · obtain ⟨queue, queued, closing⟩ :=
      enqueue_queue (.frame (Rpc.notification method params)) transport
    refine ⟨queue, queued, fun member => ?_⟩
    rcases closing member with command | old
    · cases command
    · exact old

theorem dispatch_response {frame : Json} {id : UInt64} {outcome : Except Failure Json}
    (found : responseOf? frame = some (id, outcome)) :
    transport.dispatch frame =
      ({ transport with pending := transport.pending.release id },
        (transport.pending.find? id).toList.map fun _ => ⟨id, outcome⟩) := by
  unfold responseOf? at found
  unfold dispatch
  generalize Rpc.Incoming.ofJson? frame = incoming at found ⊢
  cases incoming with
  | none => cases found
  | some incoming =>
    cases incoming with
    | response other answer =>
      cases found
      rfl
    | request other method => cases found
    | notification method params => cases found

theorem dispatch_other (transport : Transport) {frame : Json}
    (other : responseOf? frame = none) :
    ∃ queue, transport.dispatch frame = ({ transport with queue }, []) ∧
      (Command.close ∈ queue → Command.close ∈ transport.queue) := by
  unfold responseOf? at other
  unfold dispatch
  generalize Rpc.Incoming.ofJson? frame = incoming at other ⊢
  cases incoming with
  | none => exact ⟨transport.queue, rfl, id⟩
  | some incoming =>
    cases incoming with
    | response id outcome => cases other
    | notification method params => exact ⟨transport.queue, rfl, id⟩
    | request id method =>
      obtain ⟨queue, queued, closing⟩ :=
        enqueue_queue (.frame (Rpc.methodNotFound id method)) transport
      refine ⟨queue, by simp only [queued], fun member => ?_⟩
      rcases closing member with command | old
      · cases command
      · exact old

theorem dispatch_settles (transport : Transport) (frame : Json) :
    ∃ queue, transport.dispatch frame =
      ({ transport with
          queue
          pending := ((Incident.frame frame).settle transport.requestTimeout transport.pending).1 },
        ((Incident.frame frame).settle transport.requestTimeout transport.pending).2) ∧
      (Command.close ∈ queue → Command.close ∈ transport.queue) := by
  cases response : responseOf? frame with
  | none =>
    obtain ⟨queue, dispatched, closing⟩ := dispatch_other transport response
    refine ⟨queue, ?_, closing⟩
    rw [dispatched]
    simp only [Incident.settle, response]
  | some found =>
    refine ⟨transport.queue, ?_, id⟩
    rw [dispatch_response response]
    simp only [Incident.settle, response]

theorem endInbound_of_reading (reading : transport.reading = true)
    (unread : transport.unread = []) : transport.endInbound = transport.stopReading := by
  simp [endInbound, reading, unread, dispatchAll, Frame.allFrames, Frame.collect, Frame.read,
    Frame.readBlock, Frame.readBody]

theorem expire_settles (transport : Transport) (id : UInt64) :
    transport.expire id =
      ({ transport with
          pending :=
            ((Incident.expire id).settle transport.requestTimeout transport.pending).1 },
        ((Incident.expire id).settle transport.requestTimeout transport.pending).2) := by
  obtain ⟨_, pending, _, _, _, _, _, limit⟩ := transport
  cases limit <;> cases found : pending.find? id <;> simp [expire, Incident.settle, found]

theorem close_queue (transport : Transport) :
    ∃ queue, transport.close = ({ transport with pending := transport.pending.close.2, queue },
      transport.pending.close.1.map fun entry => ⟨entry.1, .error .terminated⟩) := by
  obtain ⟨queue, queued, _⟩ :=
    enqueue_queue .close { transport with pending := transport.pending.close.2 }
  exact ⟨queue, by simp only [close, failPending, queued]⟩

theorem write_queue (roomy : transport.sink.Roomy) :
    ∃ queue writing sink, transport.write = { transport with queue, writing, sink } ∧
      sink.Roomy ∧ (Command.close ∈ queue → Command.close ∈ transport.queue) ∧
      (writing = false → transport.writing = false ∨ Command.close ∈ transport.queue) := by
  cases queued : transport.queue with
  | nil =>
    refine ⟨[], transport.writing, transport.sink, ?_, roomy, id, .inl⟩
    simp only [write, queued]
    rw [← queued]
  | cons command rest =>
    cases command with
    | frame json =>
      refine ⟨rest, transport.writing, { transport.sink with
        written := transport.sink.written ++ Frame.encode json }, ?_, ⟨roomy.room, roomy.flushes⟩,
        List.mem_cons_of_mem _, .inl⟩
      simp only [write, queued, Frame.Sink.write_of_roomy roomy]
    | close =>
      refine ⟨[], false, transport.sink, ?_, roomy, fun member => (nomatch member), ?_⟩
      · simp only [write, queued]
      · intro _
        exact .inr List.mem_cons_self

theorem exists_write (transport : Transport) :
    ∃ queue writing sink, transport.write = { transport with queue, writing, sink } ∧
      (Command.close ∈ queue → Command.close ∈ transport.queue) := by
  unfold write
  split
  · exact ⟨transport.queue, transport.writing, transport.sink, rfl, id⟩
  · exact ⟨[], false, transport.sink, rfl, fun member => nomatch member⟩
  · rename_i json rest queued
    split
    · rename_i sink _
      refine ⟨rest, transport.writing, sink, rfl, fun member => ?_⟩
      rw [queued]
      exact List.mem_cons_of_mem _ member
    · rename_i sink _ _
      exact ⟨[], false, sink, rfl, fun member => nomatch member⟩

/-- Apart from the queue, the sink and the two halves, an incident touches the map of waiting
requests only, and that as `Incident.settle` says, if nothing has been left unread. -/
theorem exists_suffer (unread : transport.unread = [])
    (ended : transport.reading = false → transport.isClosed = true) (incident : Incident) :
    ∃ queue writing reading sink,
      transport.suffer incident =
        ({ transport with
            pending := (incident.settle transport.requestTimeout transport.pending).1
            queue, writing, reading, sink },
          (incident.settle transport.requestTimeout transport.pending).2) ∧
      (Command.close ∈ queue →
        Command.close ∈ transport.queue ∨ (Event.incident incident).closes = true) ∧
      (reading = false →
        transport.reading = false ∨ (Event.incident incident).closes = true) := by
  cases incident with
  | frame json =>
    cases reading : transport.reading with
    | true =>
      obtain ⟨queue, dispatched, closing⟩ := dispatch_settles transport json
      refine ⟨queue, transport.writing, transport.reading, transport.sink, ?_,
        fun member => .inl (closing member), fun stopped => .inl (reading ▸ stopped)⟩
      rw [suffer, if_pos reading, dispatched]
    | false =>
      -- Nobody waits any more, so a response that is not read had nowhere to go either.
      have closed := ended reading
      refine ⟨transport.queue, transport.writing, transport.reading, transport.sink, ?_, .inl,
        fun _ => .inl rfl⟩
      rw [settle_inert fun id _ _ => find?_of_isClosed closed id, suffer,
        if_neg (by simp [reading])]
  | expire id =>
    exact ⟨transport.queue, transport.writing, transport.reading, transport.sink,
      expire_settles transport id, .inl, .inl⟩
  | abandon id =>
    exact ⟨transport.queue, transport.writing, transport.reading, transport.sink, rfl, .inl, .inl⟩
  | endInbound =>
    cases reading : transport.reading with
    | true =>
      refine ⟨transport.queue, transport.writing, false, transport.sink, ?_, .inl,
        fun _ => .inr rfl⟩
      simp [suffer, endInbound_of_reading reading unread, stopReading, failPending,
        Incident.settle, unread]
    | false =>
      have closed := ended reading
      refine ⟨transport.queue, transport.writing, transport.reading, transport.sink, ?_, .inl,
        fun _ => .inl rfl⟩
      rw [suffer, endInbound, if_pos (by simp [reading]), Incident.settle,
        Pending.close_of_closed closed]
      rfl
  | close =>
    obtain ⟨queue, closed⟩ := close_queue transport
    exact ⟨queue, transport.writing, transport.reading, transport.sink, closed, fun _ => .inr rfl,
      .inl⟩
  | write =>
    obtain ⟨queue, writing, sink, written, closing⟩ := exists_write transport
    refine ⟨queue, writing, transport.reading, sink, ?_, fun member => .inl (closing member), .inl⟩
    simp [suffer, written, Incident.settle]

theorem pending_write (transport : Transport) : transport.write.pending = transport.pending := by
  unfold write
  split
  · rfl
  · rfl
  · split <;> rfl

theorem isClosed_suffer_of_isClosed (closed : transport.isClosed = true) (incident : Incident) :
    (transport.suffer incident).1.isClosed = true := by
  cases incident with
  | frame json =>
    rw [suffer]
    split
    · obtain ⟨queue, dispatched, _⟩ := dispatch_settles transport json
      rw [dispatched, isClosed, closed_settle]
      rw [isClosed] at closed
      rw [closed, Bool.true_or]
    · exact closed
  | expire id =>
    rw [suffer, expire_settles, isClosed, closed_settle]
    rw [isClosed] at closed
    rw [closed, Bool.true_or]
  | abandon id => exact closed
  | endInbound =>
    rw [suffer, endInbound]
    split
    · exact closed
    · rfl
  | close =>
    obtain ⟨queue, ended⟩ := close_queue transport
    rw [suffer, ended]
    rfl
  | write =>
    rw [suffer, isClosed, pending_write]
    exact closed

theorem isClosed_step_of_isClosed (closed : transport.isClosed = true) (event : Event) :
    (transport.step event).1.isClosed = true := by
  cases event with
  | request method params =>
    rw [step, request_of_closed closed]
    exact closed
  | notify method params =>
    rw [step, notify_of_closed closed]
    exact closed
  | incident incident => exact isClosed_suffer_of_isClosed closed incident

theorem isClosed_run_of_isClosed (closed : transport.isClosed = true) (events : List Event) :
    (transport.run events).1.isClosed = true := by
  induction events generalizing transport with
  | nil => exact closed
  | cons event rest ih => exact ih (isClosed_step_of_isClosed closed event)

end WorkspaceServers.Transport
