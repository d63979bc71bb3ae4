import WorkspaceServers.Proofs.Transport.Counted

/-!
Transports whose sink takes everything. Their writer stops only behind a close, so whether a
request gets into the queue is told by whether the transport is closed, and two of them that
agree on the waits and the counter stay so.
-/

namespace WorkspaceServers.Transport

/-- `count` requests have started, and every wait is one of theirs. The two halves stop
only behind a close. -/
structure Sound (count : Nat) (transport : Transport) : Prop where
  roomy : transport.sink.Roomy
  unread : transport.unread = []
  queued : Command.close ∈ transport.queue → transport.isClosed = true
  writing : transport.writing = false → transport.isClosed = true
  reading : transport.reading = false → transport.isClosed = true
  next : transport.nextId = UInt64.ofNat (count + 1)
  issued : ∀ id method, transport.pending.find? id = some method →
    0 < id.toNat ∧ id.toNat ≤ count

theorem sound_start (limit : Option Duration) : Sound 0 (start limit) where
  roomy := Frame.Sink.roomy_unlimited
  unread := rfl
  queued := fun member => nomatch member
  writing := fun stopped => nomatch stopped
  reading := fun stopped => nomatch stopped
  next := rfl
  issued := fun _ _ found => nomatch found

variable {count : Nat} {transport : Transport}

namespace Sound

theorem counted (sound : Sound count transport) : Counted count transport :=
  ⟨sound.unread, sound.queued, sound.reading, sound.next, sound.issued⟩

theorem slot?_eq (sound : Sound count transport) :
    transport.slot? = if transport.isClosed then none else some transport.nextId := by
  cases closed : transport.isClosed with
  | true => exact slot?_eq_none_iff.mpr (.inl closed)
  | false =>
    refine slot?_eq_some_iff.mpr ⟨closed, ?_, rfl⟩
    cases writing : transport.writing with
    | true => rfl
    | false =>
      have stopped := sound.writing writing
      rw [closed] at stopped
      cases stopped

theorem sink_step (sound : Sound count transport) (event : Event) :
    (transport.step event).1.sink.Roomy ∧
      ((transport.step event).1.writing = false → transport.isClosed = true) := by
  by_cases writes : event = .incident .write
  · subst writes
    obtain ⟨queue, writing, sink, written, roomy, -, stopping⟩ := write_queue sound.roomy
    rw [step_incident, suffer, written]
    exact ⟨roomy, fun stops => (stopping stops).elim sound.writing sound.queued⟩
  · have queues := Queues.step transport writes
    rw [queues.sink, queues.writing]
    exact ⟨sound.roomy, sound.writing⟩

theorem step (sound : Sound count transport) (event : Event)
    (few : count + requests [event] < UInt64.size) :
    Sound (count + requests [event]) (transport.step event).1 := by
  obtain ⟨unread, queued, reading, next, issued⟩ := sound.counted.step event few
  obtain ⟨roomy, stopping⟩ := sound.sink_step event
  refine ⟨roomy, unread, queued, fun stops => ?_, reading, next, issued⟩
  exact isClosed_step_of_isClosed (stopping stops) event

end Sound

/-- Two transports that no request can tell apart: they agree on the counter, the map of
waiting requests and the time limit. -/
structure Alike (first second : Transport) : Prop where
  next : first.nextId = second.nextId
  pending : first.pending = second.pending
  limit : first.requestTimeout = second.requestTimeout

theorem Alike.slot? {first second : Transport} (alike : Alike first second)
    (sound : Sound count first) (sound' : Sound count second) : first.slot? = second.slot? := by
  rw [sound.slot?_eq, sound'.slot?_eq, isClosed, isClosed, alike.pending, alike.next]

theorem Alike.step {first second : Transport} (alike : Alike first second)
    (sound : Sound count first) (sound' : Sound count second) (event : Event) :
    (first.step event).2 = (second.step event).2 ∧
      Alike (first.step event).1 (second.step event).1 := by
  have slots := alike.slot? sound sound'
  obtain ⟨next, pending, limit⟩ := alike
  cases event with
  | request method params =>
    cases slot : first.slot? with
    | none =>
      rw [step_request_of_shut slot, step_request_of_shut (slots.symm.trans slot), next]
      exact ⟨rfl, rfl, pending, limit⟩
    | some id =>
      obtain ⟨_, registered, stepped⟩ := step_request_of_slot slot method params
      obtain ⟨_, registered', stepped'⟩ :=
        step_request_of_slot (slots.symm.trans slot) method params
      -- Both enter the same id into the same map.
      rw [pending, registered'] at registered
      cases registered
      rw [stepped, stepped']
      exact ⟨rfl, rfl, rfl, limit⟩
  | notify method params =>
    obtain ⟨_, notified, _⟩ := notify_queue first method params
    obtain ⟨_, notified', _⟩ := notify_queue second method params
    rw [step_notify, step_notify, notified, notified']
    exact ⟨rfl, next, pending, limit⟩
  | incident incident =>
    obtain ⟨_, _, _, _, settled, _⟩ := sound.counted.suffer_eq incident
    obtain ⟨_, _, _, _, settled', _⟩ := sound'.counted.suffer_eq incident
    rw [step_incident, step_incident, settled, settled', pending, limit]
    exact ⟨rfl, next, rfl, rfl⟩

end WorkspaceServers.Transport
