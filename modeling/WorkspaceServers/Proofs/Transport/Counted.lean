import WorkspaceServers.Proofs.Transport.Slots

/-!
Transports that count their requests, whatever their sink takes. The invariant ties the
counter to the number of requests that have started and the waiting ids to those numbers.
Under it the map of waiting requests changes by `Incident.settle` and by the requests that
get into the queue alone, whatever becomes of the queue and the writer.
-/

namespace WorkspaceServers.Transport

variable {count : Nat} {transport : Transport}

theorem step_incident (incident : Incident) :
    transport.step (.incident incident) = transport.suffer incident := rfl

theorem step_notify (method : String) (params : Option Json) :
    transport.step (.notify method params) = ((transport.notify method params).1, []) := rfl

theorem step_request_of_slot {id : UInt64} (slot : transport.slot? = some id) (method : String)
    (params : Option Json) :
    ∃ pending, transport.pending.register id method = some pending ∧
      transport.step (.request method params) =
        ({ transport with
            nextId := id + 1
            pending
            queue := transport.queue ++ [.frame (Rpc.request id method params)] }, []) := by
  obtain ⟨opened, writing, rfl⟩ := slot?_eq_some_iff.mp slot
  obtain ⟨pending, registered, requested⟩ := request_of_open opened writing method params
  exact ⟨pending, registered, by simp only [step, requested]⟩

theorem step_request_of_shut (shut : transport.slot? = none) (method : String)
    (params : Option Json) :
    transport.step (.request method params) =
      ({ transport with nextId := transport.nextId + 1 },
        [⟨transport.nextId, .error .terminated⟩]) := by
  simp only [step, request_of_shut shut]

theorem exists_step_request (transport : Transport) (method : String) (params : Option Json) :
    ∃ pending queue resolved, transport.step (.request method params) =
      ({ transport with nextId := transport.nextId + 1, pending, queue }, resolved) := by
  cases slot : transport.slot? with
  | none => exact ⟨_, _, _, step_request_of_shut slot method params⟩
  | some id =>
    obtain ⟨pending, -, stepped⟩ := step_request_of_slot slot method params
    obtain ⟨-, -, rfl⟩ := slot?_eq_some_iff.mp slot
    exact ⟨_, _, _, stepped⟩

/-- What has come in has been read, and the reader has stopped only behind a close. -/
structure CaughtUp (transport : Transport) : Prop where
  unread : transport.unread = []
  reading : transport.reading = false → transport.isClosed = true

namespace CaughtUp

theorem isClosed_step (caught : CaughtUp transport) (event : Event) :
    (transport.step event).1.isClosed = (transport.isClosed || event.closes) := by
  cases event with
  | request method params =>
    cases slot : transport.slot? with
    | none =>
      rw [step_request_of_shut slot]
      exact (Bool.or_false _).symm
    | some id =>
      obtain ⟨pending, registered, stepped⟩ := step_request_of_slot slot method params
      rw [stepped, (slot?_eq_some_iff.mp slot).1]
      exact Pending.closed_register registered
  | notify method params =>
    obtain ⟨queue, notified, _⟩ := notify_queue transport method params
    rw [step_notify, notified]
    exact (Bool.or_false _).symm
  | incident incident =>
    obtain ⟨queue, writing, reading, sink, settled, _⟩ :=
      exists_suffer caught.unread caught.reading incident
    simp only [step_incident, settled, isClosed, closed_settle]

theorem step (caught : CaughtUp transport) (event : Event) :
    CaughtUp (transport.step event).1 := by
  have closing := caught.isClosed_step event
  cases event with
  | request method params =>
    obtain ⟨pending, queue, resolved, stepped⟩ := exists_step_request transport method params
    rw [stepped] at closing ⊢
    exact ⟨caught.unread, fun stops => by rw [closing, caught.reading stops, Bool.true_or]⟩
  | notify method params =>
    obtain ⟨queue, notified, _⟩ := notify_queue transport method params
    rw [step_notify, notified]
    exact ⟨caught.unread, caught.reading⟩
  | incident incident =>
    obtain ⟨queue, writing, reading, sink, settled, -, ended⟩ :=
      exists_suffer caught.unread caught.reading incident
    rw [step_incident, settled] at closing ⊢
    refine ⟨caught.unread, fun stops => ?_⟩
    rcases ended stops with old | new
    · rw [closing, caught.reading old, Bool.true_or]
    · rw [closing, new, Bool.or_true]

end CaughtUp

/-- `count` requests have started and every wait is one of theirs. The reader has stopped
only behind a close. -/
structure Counted (count : Nat) (transport : Transport) : Prop where
  unread : transport.unread = []
  queued : Command.close ∈ transport.queue → transport.isClosed = true
  reading : transport.reading = false → transport.isClosed = true
  next : transport.nextId = UInt64.ofNat (count + 1)
  issued : ∀ id method, transport.pending.find? id = some method →
    0 < id.toNat ∧ id.toNat ≤ count

namespace Counted

theorem caughtUp (counted : Counted count transport) : CaughtUp transport :=
  ⟨counted.unread, counted.reading⟩

theorem suffer_eq (counted : Counted count transport) (incident : Incident) :
    ∃ queue writing reading sink,
      transport.suffer incident =
        ({ transport with
            pending := (incident.settle transport.requestTimeout transport.pending).1
            queue, writing, reading, sink },
          (incident.settle transport.requestTimeout transport.pending).2) ∧
      (Command.close ∈ queue →
        Command.close ∈ transport.queue ∨ (Event.incident incident).closes = true) ∧
      (reading = false →
        transport.reading = false ∨ (Event.incident incident).closes = true) :=
  exists_suffer counted.unread counted.reading incident

theorem next_toNat (counted : Counted count transport) (few : count + 1 < UInt64.size) :
    transport.nextId.toNat = count + 1 := by
  -- The number of a request is its id, as long as the counter has not come round.
  rw [counted.next]
  exact UInt64.toNat_ofNat_of_lt' few

theorem fresh (counted : Counted count transport) (few : count + 1 < UInt64.size) :
    transport.pending.find? transport.nextId = none := by
  cases found : transport.pending.find? transport.nextId with
  | none => rfl
  | some method =>
    have bound := (counted.issued _ method found).2
    rw [counted.next_toNat few] at bound
    omega

theorem requestTimeout_step (counted : Counted count transport) (event : Event) :
    (transport.step event).1.requestTimeout = transport.requestTimeout := by
  cases event with
  | request method params =>
    obtain ⟨pending, queue, resolved, stepped⟩ := exists_step_request transport method params
    rw [stepped]
  | notify method params =>
    obtain ⟨queue, notified, _⟩ := notify_queue transport method params
    rw [step_notify, notified]
  | incident incident =>
    obtain ⟨queue, writing, reading, sink, settled, _⟩ := counted.suffer_eq incident
    rw [step_incident, settled]

theorem isClosed_step (counted : Counted count transport) (event : Event) :
    (transport.step event).1.isClosed = (transport.isClosed || event.closes) :=
  counted.caughtUp.isClosed_step event

theorem step (counted : Counted count transport) (event : Event)
    (few : count + requests [event] < UInt64.size) :
    Counted (count + requests [event]) (transport.step event).1 := by
  cases event with
  | request method params =>
    have number : count + requests [.request method params] = count + 1 := rfl
    rw [number] at few ⊢
    have next : transport.nextId + 1 = UInt64.ofNat (count + 1 + 1) := by
      rw [counted.next, UInt64.ofNat_add (count + 1) 1]
      rfl
    cases slot : transport.slot? with
    | none =>
      rw [step_request_of_shut slot]
      refine ⟨counted.unread, counted.queued, counted.reading, next, ?_⟩
      intro id method found
      have bound := counted.issued id method found
      omega
    | some id =>
      obtain ⟨pending, registered, stepped⟩ := step_request_of_slot slot method params
      obtain ⟨opened, -, taken⟩ := slot?_eq_some_iff.mp slot
      -- An open transport has met no close, so there is none to show the traces of.
      have shut {stopped : Prop} (closes : stopped → transport.isClosed = true)
          (happened : stopped) : pending.closed = true := by
        rw [closes happened] at opened
        cases opened
      rw [stepped]
      refine ⟨counted.unread, fun member => shut counted.queued (by simpa using member),
        shut counted.reading, by rw [← taken, next], ?_⟩
      intro other name found
      rw [Pending.find?_register registered] at found
      by_cases same : id = other
      · rw [← same, ← taken, counted.next_toNat few]
        omega
      · rw [if_neg same] at found
        have bound := counted.issued other name found
        omega
  | notify method params =>
    obtain ⟨queue, notified, closing⟩ := notify_queue transport method params
    rw [step_notify, notified]
    exact ⟨counted.unread, fun member => counted.queued (closing member), counted.reading,
      counted.next, counted.issued⟩
  | incident incident =>
    obtain ⟨queue, writing, reading, sink, settled, queued, -⟩ := counted.suffer_eq incident
    have closing := counted.isClosed_step (.incident incident)
    have caught := counted.caughtUp.step (.incident incident)
    rw [step_incident, settled] at closing caught ⊢
    refine ⟨counted.unread, fun member => ?_, caught.reading, counted.next, ?_⟩
    · rcases queued member with old | new
      · rw [closing, counted.queued old, Bool.true_or]
      · rw [closing, new, Bool.or_true]
    · intro id method found
      exact counted.issued id method ((find?_settle incident id method).mp found).1

end Counted

end WorkspaceServers.Transport
