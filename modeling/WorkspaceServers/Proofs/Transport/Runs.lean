import WorkspaceServers.Proofs.Transport.Sound
import WorkspaceServers.Proofs.Transport.Steps

/-!
Whole runs of a transport, by induction over their events. The numbers of the requests so
far tell used ids from those still to come, so what reaches a request depends on its start
and on the events behind it.
-/

namespace WorkspaceServers.Transport

variable {count : Nat} {transport : Transport}

@[simp] theorem run_nil (transport : Transport) : transport.run [] = (transport, []) := rfl

@[simp] theorem run_cons (transport : Transport) (event : Event) (rest : List Event) :
    transport.run (event :: rest) =
      (((transport.step event).1.run rest).1,
        (transport.step event).2 ++ ((transport.step event).1.run rest).2) := rfl

theorem run_append (transport : Transport) (first second : List Event) :
    transport.run (first ++ second) =
      (((transport.run first).1.run second).1,
        (transport.run first).2 ++ ((transport.run first).1.run second).2) := by
  induction first generalizing transport with
  | nil => simp
  | cons event rest ih => simp [ih, List.append_assoc]

theorem requests_head (event : Event) (rest : List Event) :
    requests (event :: rest) = requests [event] + requests rest := by
  rw [← requests_append, List.singleton_append]

theorem Sound.run (sound : Sound count transport) (events : List Event)
    (few : count + requests events < UInt64.size) :
    Sound (count + requests events) (transport.run events).1 := by
  induction events generalizing count transport with
  | nil => exact sound
  | cons event rest ih =>
    rw [requests_head] at few ⊢
    have stepped := sound.step event (by omega)
    rw [← Nat.add_assoc]
    exact ih stepped (by omega)

theorem Alike.run {first second : Transport} (alike : Alike first second)
    (sound : Sound count first) (sound' : Sound count second) (events : List Event)
    (few : count + requests events < UInt64.size) :
    (first.run events).2 = (second.run events).2 := by
  induction events generalizing count first second with
  | nil => rfl
  | cons event rest ih =>
    rw [requests_head] at few
    obtain ⟨same, after⟩ := alike.step sound sound' event
    simp only [run_cons, same]
    rw [ih after (sound.step event (by omega)) (sound'.step event (by omega)) (by omega)]

namespace Counted

theorem run (counted : Counted count transport) (events : List Event)
    (few : count + requests events < UInt64.size) :
    Counted (count + requests events) (transport.run events).1 := by
  induction events generalizing count transport with
  | nil => exact counted
  | cons event rest ih =>
    rw [requests_head] at few ⊢
    have stepped := counted.step event (by omega)
    rw [← Nat.add_assoc]
    exact ih stepped (by omega)

theorem isClosed_run (counted : Counted count transport) (events : List Event)
    (few : count + requests events < UInt64.size) :
    (transport.run events).1.isClosed = (transport.isClosed || events.any Event.closes) := by
  induction events generalizing count transport with
  | nil => simp
  | cons event rest ih =>
    rw [requests_head] at few
    have stepped := counted.step event (by omega)
    simp only [run_cons, List.any_cons]
    rw [ih stepped (by omega), counted.isClosed_step, Bool.or_assoc]

theorem requestTimeout_run (counted : Counted count transport) (events : List Event)
    (few : count + requests events < UInt64.size) :
    (transport.run events).1.requestTimeout = transport.requestTimeout := by
  induction events generalizing count transport with
  | nil => rfl
  | cons event rest ih =>
    rw [requests_head] at few
    have stepped := counted.step event (by omega)
    rw [run_cons, ih stepped (by omega), counted.requestTimeout_step]

theorem outcomes_run_of_absent (counted : Counted count transport) (events : List Event)
    (few : count + requests events < UInt64.size) {id : UInt64}
    (absent : transport.pending.find? id = none)
    (apart : id.toNat ≤ count ∨ count + requests events < id.toNat) :
    outcomes id (transport.run events).2 = [] := by
  induction events generalizing count transport with
  | nil => rfl
  | cons event rest ih =>
    rw [requests_head] at few apart
    have stepped := counted.step event (by omega)
    have other : event.isRequest = true → transport.nextId ≠ id := by
      intro request same
      have one : requests [event] = 1 := by simp [request]
      have number := counted.next_toNat (by omega)
      rw [same] at number
      omega
    -- A request that is refused is resolved too, but under an id of its own.
    have nothing : outcomes id (transport.step event).2 = [] := by
      rw [counted.outcomes_step_of_absent absent]
      exact if_neg fun refused => other refused.1 refused.2.2
    have still : (transport.step event).1.pending.find? id = none := by
      apply counted.find?_step_eq_none event (by omega) _ other
      intro method waiting
      rw [absent] at waiting
      cases waiting
    simp only [run_cons, outcomes_append, nothing, List.nil_append]
    exact ih stepped (by omega) still (by omega)

/-- The first event that ends the wait decides what a waiting request gets. -/
theorem outcomes_run_of_waiting (counted : Counted count transport) (events : List Event)
    (few : count + requests events < UInt64.size) {id : UInt64} {method : String}
    (waiting : transport.pending.find? id = some method) :
    outcomes id (transport.run events).2 =
      ((events.findSome? (Event.ending? transport.requestTimeout id method)).bind
        Ending.outcome?).toList := by
  induction events generalizing count transport with
  | nil => rfl
  | cons event rest ih =>
    rw [requests_head] at few
    have stepped := counted.step event (by omega)
    have now := counted.outcomes_step_of_waiting event (by omega) waiting
    have used := (counted.issued id method waiting).2
    simp only [run_cons, outcomes_append, now, List.findSome?_cons]
    cases ending : event.ending? transport.requestTimeout id method with
    | none =>
      have still := (counted.find?_step event (by omega) id method).mpr (.inl ⟨waiting, ending⟩)
      rw [ih stepped (by omega) still, counted.requestTimeout_step]
      rfl
    | some ended =>
      have gone : (transport.step event).1.pending.find? id = none := by
        apply counted.find?_step_eq_none event (by omega)
        · intro other found
          rw [waiting] at found
          cases found
          simp [ending]
        · intro request
          cases event with
          | request _ _ => cases ending
          | notify _ _ => cases request
          | incident _ => cases request
      -- The id is a number that has been given, so no later request takes it again.
      rw [stepped.outcomes_run_of_absent rest (by omega) gone (.inl (by omega)), List.append_nil]

theorem outcomes_run_request (counted : Counted count transport) (method : String)
    (params : Option Json) (after : List Event) (few : count + 1 + requests after < UInt64.size) :
    outcomes transport.nextId (transport.run (.request method params :: after)).2 =
      if transport.slot? = none then [.error .terminated]
      else ((after.findSome?
        (Event.ending? transport.requestTimeout transport.nextId method)).bind
          Ending.outcome?).toList := by
  have fresh := counted.fresh (by omega)
  have number := counted.next_toNat (by omega)
  have one : requests [.request method params] = 1 := rfl
  have stepped := counted.step (.request method params) (by omega)
  have now := counted.outcomes_step_of_absent fresh (.request method params)
  -- A refused request has its outcome at once; an accepted one waits for it from here on.
  simp only [run_cons, outcomes_append, now]
  cases slot : transport.slot? with
  | none =>
    have absent : (transport.step (.request method params)).1.pending.find? transport.nextId =
        none := by
      rw [step_request_of_shut slot]
      exact fresh
    rw [stepped.outcomes_run_of_absent after (by omega) absent (.inl (by omega))]
    simp [Event.isRequest]
  | some id =>
    have taken := (slot?_eq_some_iff.mp slot).2.2
    have known := counted.find?_step (.request method params) (by omega) id method
    have waiting := known.mpr (.inr ⟨⟨params, rfl⟩, slot⟩)
    rw [← taken] at waiting
    rw [stepped.outcomes_run_of_waiting after (by omega) waiting, counted.requestTimeout_step]
    simp

/-- A wait that is there at the end was there before and met no ending, or it began with a
request of the run that was queued and has met none since. -/
theorem find?_run_iff (counted : Counted count transport) (events : List Event)
    (few : count + requests events < UInt64.size) (id : UInt64) (method : String) :
    (transport.run events).1.pending.find? id = some method ↔
      (transport.pending.find? id = some method ∧
        ∀ event ∈ events, event.ending? transport.requestTimeout id method = none) ∨
      ∃ before params since, events = before ++ .request method params :: since ∧
        (transport.run before).1.slot? = some id ∧
        ∀ event ∈ since, event.ending? transport.requestTimeout id method = none := by
  induction events generalizing count transport with
  | nil => simp
  | cons event rest ih =>
    rw [requests_head] at few
    have stepped := counted.step event (by omega)
    rw [run_cons, ih stepped (by omega), counted.requestTimeout_step,
      counted.find?_step event (by omega)]
    constructor
    · -- The wait is older than the event, begins with it, or begins behind it.
      rintro (⟨⟨old, here⟩ | new, later⟩ | ⟨before, params, since, rfl, slot, later⟩)
      · exact .inl ⟨old, List.forall_mem_cons.mpr ⟨here, later⟩⟩
      · obtain ⟨⟨params, rfl⟩, slot⟩ := new
        exact .inr ⟨[], params, rest, rfl, slot, later⟩
      · exact .inr ⟨event :: before, params, since, rfl, slot, later⟩
    · rintro (⟨old, silent⟩ | ⟨before, params, since, split, slot, later⟩)
      · obtain ⟨here, later⟩ := List.forall_mem_cons.mp silent
        exact .inl ⟨.inl ⟨old, here⟩, later⟩
      · cases before with
        | nil =>
          cases split
          exact .inl ⟨.inr ⟨⟨params, rfl⟩, slot⟩, later⟩
        | cons first before =>
          cases split
          exact .inr ⟨before, params, since, rfl, slot, later⟩

end Counted

end WorkspaceServers.Transport
