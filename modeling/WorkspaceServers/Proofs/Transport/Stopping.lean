import WorkspaceServers.Proofs.Transport.Correlation
import WorkspaceServers.Proofs.Transport.Outbound
import WorkspaceServers.Proofs.Transport.Slots

/-!
Transports whose writer may stop at any byte. A close resolves every wait, whoever stops the
writer afterwards. A write that fails resolves none: the requests that came before it go on
waiting, those whose frames are lost like those whose frames arrived, and only the ones that
come later are refused.
-/

namespace WorkspaceServers.Transport

open WorkspaceServers.Frame (Sink)

def startOver (requestTimeout : Option Duration) (sink : Sink) : Transport :=
  { start requestTimeout with sink }

theorem counted_start (limit : Option Duration) (sink : Sink) :
    Counted 0 (startOver limit sink) where
  unread := rfl
  queued := fun member => nomatch member
  reading := fun stopped => nomatch stopped
  next := rfl
  issued := fun _ _ found => nomatch found

variable {transport : Transport}

section Steps

/-- Once the writer has stopped, nothing is queued and the sink stays as it is. -/
theorem stopped_step (stopped : transport.writing = false) (empty : transport.queue = [])
    (event : Event) :
    (transport.step event).1.writing = false ∧ (transport.step event).1.queue = [] ∧
      (transport.step event).1.sink = transport.sink := by
  by_cases writes : event = .incident .write
  · subst writes
    have idle : transport.write = transport := by simp only [write, empty]
    rw [step_incident, suffer, idle]
    exact ⟨stopped, empty, rfl⟩
  · have queues := Queues.step transport writes
    exact ⟨queues.writing.trans stopped, (queues.stays stopped).trans empty, queues.sink⟩

theorem write_stops (writing : transport.writing = true)
    (stops : transport.write.writing = false) :
    transport.write.queue = [] ∧ ∃ command rest, transport.queue = command :: rest ∧
      (command = .close ∨
        ∃ json error, command = .frame json ∧ (transport.sink.write json).2 = .error error) := by
  -- A writer with nothing to do goes on waiting; otherwise the first command decides.
  cases queue : transport.queue with
  | nil =>
    simp only [write, queue] at stops
    rw [writing] at stops
    cases stops
  | cons command rest =>
    cases command with
    | close =>
      simp only [write, queue]
      exact ⟨trivial, .close, rest, rfl, .inl rfl⟩
    | frame json =>
      rcases written : transport.sink.write json with ⟨sink, _ | done⟩
      · rename_i error
        simp only [write, queue, written]
        exact ⟨trivial, .frame json, rest, rfl, .inr ⟨json, error, rfl, by rw [written]⟩⟩
      · simp only [write, queue, written] at stops
        rw [writing] at stops
        cases stops

theorem idle_step (idle : transport.writing = false → transport.queue = []) (event : Event)
    (stops : (transport.step event).1.writing = false) :
    (transport.step event).1.queue = [] := by
  cases writing : transport.writing with
  | false => exact (stopped_step writing (idle writing) event).2.1
  | true =>
    by_cases writes : event = .incident .write
    · subst writes
      exact (write_stops writing stops).1
    · rw [(Queues.step transport writes).writing, writing] at stops
      cases stops

end Steps

section Runs

theorem idle_run (idle : transport.writing = false → transport.queue = []) (events : List Event)
    (stopped : (transport.run events).1.writing = false) :
    (transport.run events).1.queue = [] := by
  induction events generalizing transport with
  | nil => exact idle stopped
  | cons event rest ih => exact ih (idle_step idle event) stopped

theorem stopped_run (stopped : transport.writing = false) (empty : transport.queue = [])
    (events : List Event) : (transport.run events).1.sink = transport.sink := by
  induction events generalizing transport with
  | nil => rfl
  | cons event rest ih =>
    obtain ⟨stopped', empty', sink⟩ := stopped_step stopped empty event
    exact (ih stopped' empty').trans sink

theorem exists_stop (events : List Event) (writing : transport.writing = true)
    (stopped : (transport.run events).1.writing = false) :
    ∃ before command rest since, events = before ++ .incident .write :: since ∧
      (transport.run before).1.queue = command :: rest ∧
      (command = .close ∨ ∃ json error, command = .frame json ∧
        ((transport.run before).1.sink.write json).2 = .error error) := by
  induction events generalizing transport with
  | nil =>
    rw [run_nil, writing] at stopped
    cases stopped
  | cons event rest ih =>
    cases still : (transport.step event).1.writing with
    | true =>
      obtain ⟨before, command, others, since, rfl, queue, cause⟩ := ih still stopped
      exact ⟨event :: before, command, others, since, rfl, queue, cause⟩
    | false =>
      by_cases writes : event = .incident .write
      · subst writes
        obtain ⟨-, command, others, queue, cause⟩ := write_stops writing still
        exact ⟨[], command, others, rest, rfl, queue, cause⟩
      · rw [(Queues.step transport writes).writing, writing] at still
        cases still

end Runs

/-- How things stand with a transport that ran from `first` and whose writer has stopped. -/
structure Stopped (first : Transport) (events : List Event) : Prop where
  /-- The writer took up a close, and then the transport is closed, or a frame that the sink
  did not take whole. -/
  cause : ∃ before command rest since, events = before ++ .incident .write :: since ∧
    (first.run before).1.queue = command :: rest ∧
    ((command = .close ∧ (first.run events).1.isClosed = true) ∨
      ∃ json error, command = .frame json ∧
        ((first.run before).1.sink.write json).2 = .error error)
  silent : ∀ more, ((first.run events).1.run more).1.sink = (first.run events).1.sink
  refused : ∀ method params, ((first.run events).1.step (.request method params)).2 =
    [⟨(first.run events).1.nextId, .error .terminated⟩]
  closed : (first.run events).1.isClosed = true →
    ∀ id, (first.run events).1.pending.find? id = none
  cut_off : ∀ before event since id method, events = before ++ event :: since →
    event.closes = true → (first.run before).1.pending.find? id = some method →
      ⟨id, .error .terminated⟩ ∈ (first.run events).2
  /-- Every other request that was queued goes on waiting, as if its frame could still be
  sent, until its wait ends as it does while the writer is at work. -/
  waiting : ∀ id method, (first.run events).1.pending.find? id = some method ↔
    ∃ before params since, events = before ++ .request method params :: since ∧
      (first.run before).1.slot? = some id ∧
      ∀ event ∈ since, event.ending? first.requestTimeout id method = none

theorem stopped_writer (limit : Option Duration) (sink : Sink) (events : List Event)
    (few : requests events < UInt64.size)
    (stopped : ((startOver limit sink).run events).1.writing = false) :
    Stopped (startOver limit sink) events := by
  have started := counted_start limit sink
  have empty := idle_run (fun _ => rfl) events stopped
  refine ⟨?_, stopped_run stopped empty, ?_, fun closed => find?_of_isClosed closed, ?_, ?_⟩
  · obtain ⟨before, command, rest, since, split, queue, cause⟩ := exists_stop events rfl stopped
    refine ⟨before, command, rest, since, split, queue, cause.imp_left fun closing => ?_⟩
    have earlier : requests before < UInt64.size := by
      rw [split, requests_append] at few
      omega
    -- A close is queued by what closes the transport, and that stays closed.
    have closed := (started.run before (by omega)).queued (by rw [queue, closing]; simp)
    refine ⟨closing, ?_⟩
    rw [split, run_append]
    exact isClosed_run_of_isClosed closed _
  · intro method params
    rw [step_request_of_shut (slot?_eq_none_iff.mpr (.inr stopped))]
  · rintro before event since id method rfl closes found
    rw [requests_append, requests_head] at few
    have counted := started.run before (by omega)
    rw [run_append, run_cons]
    -- The outcome is among those that the closing event itself brings.
    refine List.mem_append_right _ (List.mem_append_left _ (mem_outcomes.mp ?_))
    rw [counted.outcomes_step_of_waiting event (by omega) found, ending_terminated.mpr closes]
    exact List.mem_singleton_self _
  · intro id method
    rw [started.find?_run_iff events (by omega)]
    have fresh : (startOver limit sink).pending.find? id = none := rfl
    simp only [fresh, reduceCtorEq, false_and, false_or]

def lostEvents : List Event := [.request "textDocument/hover" none, .incident .write]

theorem stopped_writer_lost :
    requests lostEvents < UInt64.size ∧
      ((startOver none (.limited 0)).run lostEvents).1.writing = false ∧
      Stopped (startOver none (.limited 0)) lostEvents :=
  ⟨by decide, rfl, stopped_writer none (.limited 0) lostEvents (by decide) rfl⟩

/-- Not every request that waits behind a stopped writer has had its frame written. -/
theorem lost_request_waits :
    ¬ ∀ (sink : Sink) (events : List Event),
      ((startOver none sink).run events).1.writing = false →
        ∀ id method, ((startOver none sink).run events).1.pending.find? id = some method →
          ∃ params, Frame.encode (Rpc.request id method params) <:+:
            ((startOver none sink).run events).1.sink.written := by
  intro written
  have somebody : ((startOver none (.limited 0)).run lostEvents).1.pending.find? 1 =
      some "textDocument/hover" := rfl
  have nothing : ((startOver none (.limited 0)).run lostEvents).1.sink.written = [] := rfl
  obtain ⟨params, whole⟩ := written (.limited 0) lostEvents rfl 1 _ somebody
  rw [nothing, List.infix_nil] at whole
  exact Frame.header_ne_nil _ (List.append_eq_nil_iff.mp whole).1

end WorkspaceServers.Transport
