import WorkspaceServers.Proofs.Transport.Runs

/-!
Every request of a run is resolved at most once, and by the event that is its own. Requests
are told apart by the ids that they take; how a request ends depends on the events behind
its start alone, in which the responses to other requests are as good as absent.
-/

namespace WorkspaceServers.Transport

def issued (transport : Transport) : List Event → List UInt64
  | [] => []
  | .request method params :: rest =>
    (transport.request method params).2.1 ::
      issued (transport.step (.request method params)).1 rest
  | event :: rest => issued (transport.step event).1 rest

def idAfter (limit : Option Duration) (before : List Event) : UInt64 :=
  ((start limit).run before).1.nextId

/-- The request that started behind `before` still waits when the events `since` have
happened. -/
def StillWaits (limit : Option Duration) (method : String) (before since : List Event) : Prop :=
  before.any Event.closes = false ∧
    ∀ event ∈ since, event.ending? limit (idAfter limit before) method = none

def Waits (limit : Option Duration) (events : List Event) (id : UInt64) : Prop :=
  ∃ before method params since, events = before ++ .request method params :: since ∧
    idAfter limit before = id ∧ StillWaits limit method before since

/-- The outcomes that only a response brings. -/
def IsAnswer (outcome : Except Failure Json) : Prop :=
  (∃ result, outcome = .ok result) ∨ ∃ error, outcome = .error (.refused error)

theorem isAnswer_of_responseOf? {frame : Json} {id : UInt64} {outcome : Except Failure Json}
    (response : responseOf? frame = some (id, outcome)) : IsAnswer outcome := by
  unfold responseOf? at response
  split at response
  · rename_i received _
    cases response
    cases received with
    | ok result => exact .inl ⟨result, rfl⟩
    | error error => exact .inr ⟨error, rfl⟩
  · cases response
  · cases response
  · cases response

theorem isAnswer_of_answerTo? {frame : Json} {id : UInt64} {outcome : Except Failure Json}
    (answer : answerTo? id frame = some outcome) : IsAnswer outcome := by
  unfold answerTo? at answer
  split at answer
  · rename_i response
    split at answer
    · cases answer
      exact isAnswer_of_responseOf? response
    · cases answer
  · cases answer

section Endings

variable {limit : Option Duration} {id : UInt64} {method : String} {event : Event}

theorem ending_answer {outcome : Except Failure Json} (answer : IsAnswer outcome) :
    event.ending? limit id method = some (.resolved outcome) ↔
      ∃ frame, event = .incident (.frame frame) ∧ answerTo? id frame = some outcome := by
  -- No frame brings the failures that the transport itself makes up.
  have notTerminated : outcome ≠ .error .terminated := by
    rintro rfl
    rcases answer with ⟨_, wrong⟩ | ⟨_, wrong⟩ <;> cases wrong
  have notTimedOut : ∀ span, outcome ≠ .error (.timedOut method span) := by
    rintro span rfl
    rcases answer with ⟨_, wrong⟩ | ⟨_, wrong⟩ <;> cases wrong
  cases event with
  | request _ _ => simp [Event.ending?]
  | notify _ _ => simp [Event.ending?]
  | incident incident =>
    cases incident with
    | frame json => simp [Event.ending?, Incident.ending?]
    | expire other =>
      by_cases same : other = id <;> simp [Event.ending?, Incident.ending?, same]
      intro span _ wrong
      exact notTimedOut span wrong.symm
    | abandon other =>
      by_cases same : other = id <;> simp [Event.ending?, Incident.ending?, same]
    | endInbound | close => simp [Event.ending?, Incident.ending?, notTerminated.symm]
    | write => simp [Event.ending?, Incident.ending?]

theorem ending_terminated :
    event.ending? limit id method = some (.resolved (.error .terminated)) ↔
      event.closes = true := by
  cases event with
  | request _ _ => simp [Event.ending?, Event.closes]
  | notify _ _ => simp [Event.ending?, Event.closes]
  | incident incident =>
    cases incident with
    | frame json =>
      simp only [Event.ending?, Incident.ending?, Event.closes]
      simp
      intro answer
      rcases isAnswer_of_answerTo? answer with ⟨_, wrong⟩ | ⟨_, wrong⟩ <;> cases wrong
    | expire other =>
      by_cases same : other = id <;> simp [Event.ending?, Incident.ending?, Event.closes, same]
    | abandon other =>
      by_cases same : other = id <;> simp [Event.ending?, Incident.ending?, Event.closes, same]
    | endInbound | close => simp [Event.ending?, Incident.ending?, Event.closes]
    | write => simp [Event.ending?, Incident.ending?, Event.closes]

theorem ending_timedOut {name : String} {span : Duration}
    (ending : event.ending? limit id method = some (.resolved (.error (.timedOut name span)))) :
    event = .incident (.expire id) ∧ name = method ∧ limit = some span := by
  cases event with
  | request _ _ => cases ending
  | notify _ _ => cases ending
  | incident incident =>
    cases incident with
    | frame json =>
      -- An answer of the server is a result or a refusal, never a time-out.
      simp only [Event.ending?, Incident.ending?] at ending
      simp at ending
      rcases isAnswer_of_answerTo? ending with ⟨_, wrong⟩ | ⟨_, wrong⟩ <;> cases wrong
    | expire other =>
      by_cases same : other = id
      · subst same
        cases limit with
        | none => simp [Event.ending?, Incident.ending?] at ending
        | some allowed =>
          simp only [Event.ending?, Incident.ending?, if_true, Option.map_some] at ending
          cases ending
          exact ⟨rfl, rfl, rfl⟩
      · simp [Event.ending?, Incident.ending?, same] at ending
    | abandon other =>
      by_cases same : other = id <;> simp [Event.ending?, Incident.ending?, same] at ending
    | endInbound | close => simp [Event.ending?, Incident.ending?] at ending
    | write => simp [Event.ending?, Incident.ending?] at ending

end Endings

section Request

variable {limit : Option Duration} {before after : List Event} {method : String}
  {params : Option Json}

theorem outcomes_of_request
    (few : requests (before ++ .request method params :: after) < UInt64.size) :
    outcomes (idAfter limit before)
        ((start limit).run (before ++ .request method params :: after)).2 =
      if before.any Event.closes = true then [.error .terminated]
      else ((after.findSome? (Event.ending? limit (idAfter limit before) method)).bind
        Ending.outcome?).toList := by
  rw [requests_append, requests_head] at few
  have one : requests [.request method params] = 1 := rfl
  have started := (sound_start limit).counted
  have sound := (sound_start limit).run before (by omega)
  have closing : ((start limit).run before).1.isClosed = before.any Event.closes :=
    started.isClosed_run before (by omega)
  have timeout : ((start limit).run before).1.requestTimeout = limit :=
    started.requestTimeout_run before (by omega)
  have number := sound.counted.next_toNat (by omega)
  -- What has happened before concerns smaller ids alone.
  have earlier : outcomes (idAfter limit before) ((start limit).run before).2 = [] :=
    started.outcomes_run_of_absent before (by omega) rfl (.inr (by rw [idAfter, number]; omega))
  have later := sound.counted.outcomes_run_request method params after (by omega)
  rw [run_append, outcomes_append, earlier, List.nil_append, idAfter, later, sound.slot?_eq,
    closing, timeout]
  cases before.any Event.closes with
  | true => rfl
  | false => rfl

/-- An outcome reaches a request if the request came too late and fails, or if it is what the
first event brings that ends the wait. -/
theorem resolution_of_request
    (few : requests (before ++ .request method params :: after) < UInt64.size)
    (outcome : Except Failure Json) :
    ⟨idAfter limit before, outcome⟩ ∈
        ((start limit).run (before ++ .request method params :: after)).2 ↔
      (before.any Event.closes = true ∧ outcome = .error .terminated) ∨
      ∃ since event rest, after = since ++ event :: rest ∧
        StillWaits limit method before since ∧
        event.ending? limit (idAfter limit before) method = some (.resolved outcome) := by
  rw [← mem_outcomes, outcomes_of_request few]
  cases closed : before.any Event.closes with
  | true => simp [StillWaits, closed]
  | false =>
    -- An ending without an outcome resolves nothing.
    have resolved : ∀ found : Option Ending,
        outcome ∈ (found.bind Ending.outcome?).toList ↔ found = some (.resolved outcome) := by
      intro found
      cases found with
      | none => simp
      | some ending => cases ending <;> simp [Ending.outcome?, eq_comm]
    simp only [Bool.false_eq_true, if_false, false_and, false_or, resolved,
      List.findSome?_eq_some_iff, StillWaits, closed, true_and]
    constructor
    · rintro ⟨since, event, rest, split, ending, silent⟩
      exact ⟨since, event, rest, split, silent, ending⟩
    · rintro ⟨since, event, rest, split, silent, ending⟩
      exact ⟨since, event, rest, split, ending, silent⟩

end Request

/-- How the request that starts behind `before` and in front of `after` ends. -/
structure Settled (limit : Option Duration) (method : String) (before after : List Event)
    (resolved : List Resolution) : Prop where
  /-- It gets a result or an error of the server exactly when that is what the first frame
  brings that answers it while it waits. -/
  answered : ∀ outcome, IsAnswer outcome →
    (⟨idAfter limit before, outcome⟩ ∈ resolved ↔
      ∃ since frame rest, after = since ++ .incident (.frame frame) :: rest ∧
        StillWaits limit method before since ∧
        answerTo? (idAfter limit before) frame = some outcome)
  /-- It is cut off exactly when it comes behind a close or still waits at one. -/
  cut_off : ⟨idAfter limit before, .error .terminated⟩ ∈ resolved ↔
    before.any Event.closes = true ∨
    ∃ since event rest, after = since ++ event :: rest ∧
      StillWaits limit method before since ∧ event.closes = true
  timed_out : ∀ name span, ⟨idAfter limit before, .error (.timedOut name span)⟩ ∈ resolved →
    name = method ∧ limit = some span ∧
    ∃ since rest, after = since ++ .incident (.expire (idAfter limit before)) :: rest ∧
      StillWaits limit method before since

section Parts

variable {limit : Option Duration} {events : List Event}

theorem settled (few : requests events < UInt64.size) (before : List Event) (method : String)
    (params : Option Json) (after : List Event)
    (split : events = before ++ .request method params :: after) :
    Settled limit method before after ((start limit).run events).2 := by
  subst split
  constructor
  · intro outcome answer
    rw [resolution_of_request few]
    constructor
    · rintro (⟨_, rfl⟩ | ⟨since, event, rest, split, waits, ending⟩)
      · rcases answer with ⟨_, wrong⟩ | ⟨_, wrong⟩ <;> cases wrong
      · obtain ⟨frame, rfl, brings⟩ := (ending_answer answer).mp ending
        exact ⟨since, frame, rest, split, waits, brings⟩
    · rintro ⟨since, frame, rest, split, waits, brings⟩
      exact .inr ⟨since, _, rest, split, waits, (ending_answer answer).mpr ⟨frame, rfl, brings⟩⟩
  · rw [resolution_of_request few]
    constructor
    · rintro (⟨late, _⟩ | ⟨since, event, rest, split, waits, ending⟩)
      · exact .inl late
      · exact .inr ⟨since, event, rest, split, waits, ending_terminated.mp ending⟩
    · rintro (late | ⟨since, event, rest, split, waits, closes⟩)
      · exact .inl ⟨late, rfl⟩
      · exact .inr ⟨since, event, rest, split, waits, ending_terminated.mpr closes⟩
  · intro name span member
    rcases (resolution_of_request few _).mp member with ⟨_, wrong⟩ | timeout
    · cases wrong
    · obtain ⟨since, event, rest, split, waits, ending⟩ := timeout
      obtain ⟨rfl, named, allowed⟩ := ending_timedOut ending
      exact ⟨named, allowed, since, rest, split, waits⟩

theorem waits_of_find? (few : requests events < UInt64.size) {id : UInt64} {method : String}
    (found : ((start limit).run events).1.pending.find? id = some method) :
    Waits limit events id := by
  have started := (sound_start limit).counted
  rcases (started.find?_run_iff events (by omega) id method).mp found with ⟨wrong, _⟩ | began
  · cases wrong
  · obtain ⟨before, params, since, split, slot, silent⟩ := began
    obtain ⟨opened, -, rfl⟩ := slot?_eq_some_iff.mp slot
    have fewer : requests before < UInt64.size := by
      rw [split, requests_append] at few
      omega
    have closing := started.isClosed_run before (by omega)
    rw [opened] at closing
    exact ⟨before, method, params, since, split, rfl, closing.symm, silent⟩

theorem inert (few : requests events < UInt64.size) (before : List Event) (frame : Json)
    (after : List Event) (split : events = before ++ .incident (.frame frame) :: after)
    (unasked : ∀ id outcome, responseOf? frame = some (id, outcome) → ¬ Waits limit before id) :
    ((start limit).run (before ++ [.incident (.frame frame)])).1.pending =
        ((start limit).run before).1.pending ∧
      ((start limit).run (before ++ after)).2 = ((start limit).run events).2 := by
  subst split
  have none : requests [.incident (.frame frame)] = 0 := rfl
  rw [requests_append, requests_head, none] at few
  have sound := (sound_start limit).run before (by omega)
  have sound' := sound.step (.incident (.frame frame)) (by rw [none]; omega)
  -- Every entry of the map is the wait of some request, so the frame meets none.
  have absent : ∀ id outcome, responseOf? frame = some (id, outcome) →
      ((start limit).run before).1.pending.find? id = Option.none := by
    intro id outcome response
    cases found : ((start limit).run before).1.pending.find? id with
    | none => rfl
    | some method =>
      exact absurd (waits_of_find? (by omega) found) (unasked id outcome response)
  obtain ⟨queue, writing, reading, sink, stepped, _⟩ := sound.counted.suffer_eq (.frame frame)
  rw [settle_inert absent] at stepped
  have alike : Alike ((start limit).run before).1
      (((start limit).run before).1.suffer (.frame frame)).1 := by
    rw [stepped]
    exact ⟨rfl, rfl, rfl⟩
  have later := alike.run sound sound' after (by omega)
  constructor
  · rw [run_append, run_cons, step_incident, stepped]
    rfl
  · rw [run_append, run_append, run_cons, step_incident, later, stepped]
    rfl

end Parts

end WorkspaceServers.Transport
