import WorkspaceServers.Proofs.Transport.Counted

/-!
What one event does to the wait of a request. A wait begins with the request that takes the
id and ends with the event that `Event.ending?` singles out, which then resolves it; under
an id where nobody waits nothing is resolved but a request that comes too late.
-/

namespace WorkspaceServers.Transport.Counted

variable {count : Nat} {transport : Transport}

theorem find?_step (counted : Counted count transport) (event : Event)
    (few : count + requests [event] < UInt64.size) (id : UInt64) (method : String) :
    (transport.step event).1.pending.find? id = some method ↔
      (transport.pending.find? id = some method ∧
        event.ending? transport.requestTimeout id method = none) ∨
      (∃ params, event = .request method params) ∧ transport.slot? = some id := by
  cases event with
  | request other params =>
    cases slot : transport.slot? with
    | none => simp [step_request_of_shut slot, Event.ending?]
    | some taken =>
      obtain ⟨pending, registered, stepped⟩ := step_request_of_slot slot other params
      have fresh := counted.fresh few
      rw [(slot?_eq_some_iff.mp slot).2.2] at fresh
      simp only [stepped, Pending.find?_register registered, Event.ending?]
      -- Under the new id nobody waited, so the request displaces no other.
      by_cases same : taken = id
      · subst same
        simp [fresh]
      · simp [same]
  | notify other params =>
    obtain ⟨queue, notified, _⟩ := notify_queue transport other params
    simp [step_notify, notified, Event.ending?]
  | incident incident =>
    obtain ⟨queue, writing, reading, sink, settled, _⟩ := counted.suffer_eq incident
    simp [step_incident, settled, find?_settle, Event.ending?]

theorem find?_step_eq_none (counted : Counted count transport) (event : Event)
    (few : count + requests [event] < UInt64.size) {id : UInt64}
    (ends : ∀ method, transport.pending.find? id = some method →
      event.ending? transport.requestTimeout id method ≠ none)
    (other : event.isRequest = true → transport.nextId ≠ id) :
    (transport.step event).1.pending.find? id = none := by
  cases found : (transport.step event).1.pending.find? id with
  | none => rfl
  | some method =>
    rcases (counted.find?_step event few id method).mp found with ⟨waiting, silent⟩ | new
    · exact absurd silent (ends method waiting)
    · obtain ⟨⟨params, request⟩, slot⟩ := new
      have taken := (slot?_eq_some_iff.mp slot).2.2
      exact absurd taken (other (by rw [request]; rfl))

theorem outcomes_step_of_waiting (counted : Counted count transport) (event : Event)
    (few : count + requests [event] < UInt64.size) {id : UInt64} {method : String}
    (waiting : transport.pending.find? id = some method) :
    outcomes id (transport.step event).2 =
      ((event.ending? transport.requestTimeout id method).bind Ending.outcome?).toList := by
  cases event with
  | request other params =>
    cases slot : transport.slot? with
    | none =>
      -- A request that is refused has an id of its own.
      have apart : transport.nextId ≠ id := by
        rintro rfl
        rw [counted.fresh few] at waiting
        cases waiting
      rw [step_request_of_shut slot]
      simp [apart, Event.ending?]
    | some taken =>
      obtain ⟨pending, _, stepped⟩ := step_request_of_slot slot other params
      rw [stepped]
      rfl
  | notify other params => rfl
  | incident incident =>
    obtain ⟨queue, writing, reading, sink, settled, _⟩ := counted.suffer_eq incident
    simp only [step_incident, settled, outcomes_settle, waiting, Option.bind_some, Event.ending?]

theorem outcomes_step_of_absent (counted : Counted count transport) {id : UInt64}
    (absent : transport.pending.find? id = none) (event : Event) :
    outcomes id (transport.step event).2 =
      if event.isRequest = true ∧ transport.slot? = none ∧ transport.nextId = id then
        [.error .terminated]
      else [] := by
  cases event with
  | request other params =>
    cases slot : transport.slot? with
    | none =>
      rw [step_request_of_shut slot]
      simp [Event.isRequest]
    | some taken =>
      obtain ⟨pending, _, stepped⟩ := step_request_of_slot slot other params
      simp [stepped]
  | notify other params => simp [step_notify, Event.isRequest]
  | incident incident =>
    obtain ⟨queue, writing, reading, sink, settled, _⟩ := counted.suffer_eq incident
    simp [step_incident, settled, outcomes_settle, absent, Event.isRequest]

end WorkspaceServers.Transport.Counted
