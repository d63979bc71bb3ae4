import WorkspaceServers.Pending.Lemmas
import WorkspaceServers.Proofs.Transport.Ending

/-!
What an incident does to the waits of a transport, seen on the map of waiting requests
alone. Every waiting request meets exactly the ending that the incident has for it, and
nothing comes for an id that does not wait.
-/

namespace WorkspaceServers.Transport

def Incident.settle (limit : Option Duration) (pending : Pending String) :
    Incident → Pending String × List Resolution
  | .frame json =>
    match responseOf? json with
    | some (id, outcome) =>
      (pending.release id, (pending.find? id).toList.map fun _ => ⟨id, outcome⟩)
    | none => (pending, [])
  | .expire id =>
    match pending.find? id, limit with
    | some method, some limit => (pending.release id, [⟨id, .error (.timedOut method limit)⟩])
    | _, _ => (pending, [])
  | .abandon id => (pending.release id, [])
  | .endInbound | .close =>
    (pending.close.2, pending.close.1.map fun entry => ⟨entry.1, .error .terminated⟩)
  | .write => (pending, [])

variable {limit : Option Duration} {pending : Pending String}

theorem outcomes_close (pending : Pending String) (id : UInt64) :
    outcomes id (pending.close.1.map fun entry => ⟨entry.1, .error .terminated⟩) =
      ((pending.find? id).map fun _ => .error .terminated).toList := by
  rw [outcomes, List.filterMap_map]
  exact Keyed.filterMap_key pending.ascending id fun _ => Except.error Failure.terminated

theorem outcomes_release (pending : Pending String) (id other : UInt64)
    (outcome : Except Failure Json) :
    outcomes other ((pending.find? id).toList.map fun _ => ⟨id, outcome⟩) =
      if id = other then ((pending.find? other).map fun _ => outcome).toList else [] := by
  by_cases same : id = other
  · subst same
    cases pending.find? id <;> simp
  · cases pending.find? id <;> simp [same]

theorem find?_settle (incident : Incident) (id : UInt64) (method : String) :
    (incident.settle limit pending).1.find? id = some method ↔
      pending.find? id = some method ∧ incident.ending? limit id method = none := by
  cases incident with
  | frame json =>
    cases response : responseOf? json with
    | none => simp [Incident.settle, Incident.ending?, answerTo?, response]
    | some found =>
      obtain ⟨other, outcome⟩ := found
      by_cases same : other = id <;>
        simp [Incident.settle, Incident.ending?, answerTo?, response, Pending.find?_release, same]
  | expire other =>
    cases limit with
    | none => cases found : pending.find? other <;> simp [Incident.settle, Incident.ending?, found]
    | some limit =>
      by_cases same : other = id
      · subst same
        cases found : pending.find? other <;>
          simp [Incident.settle, Incident.ending?, found, Pending.find?_release]
      · cases found : pending.find? other <;>
          simp [Incident.settle, Incident.ending?, found, Pending.find?_release, same]
  | abandon other =>
    by_cases same : other = id <;>
      simp [Incident.settle, Incident.ending?, Pending.find?_release, same]
  | endInbound | close => simp [Incident.settle, Incident.ending?, Pending.find?_close]
  | write => simp [Incident.settle, Incident.ending?]

theorem outcomes_settle (incident : Incident) (id : UInt64) :
    outcomes id (incident.settle limit pending).2 =
      ((pending.find? id).bind fun method =>
        (incident.ending? limit id method).bind Ending.outcome?).toList := by
  cases incident with
  | frame json =>
    cases response : responseOf? json with
    | none =>
      cases pending.find? id <;> simp [Incident.settle, Incident.ending?, answerTo?, response]
    | some found =>
      obtain ⟨other, outcome⟩ := found
      simp only [Incident.settle, Incident.ending?, answerTo?, response, outcomes_release]
      by_cases same : other = id <;> cases pending.find? id <;> simp [same, Ending.outcome?]
  | expire other =>
    cases limit with
    | none =>
      cases found : pending.find? other <;> cases pending.find? id <;>
        simp [Incident.settle, Incident.ending?, found]
    | some limit =>
      by_cases same : other = id
      · subst same
        cases found : pending.find? other <;>
          simp [Incident.settle, Incident.ending?, found, Ending.outcome?]
      · cases found : pending.find? other <;> cases pending.find? id <;>
          simp [Incident.settle, Incident.ending?, found, same]
  | abandon other =>
    by_cases same : other = id <;> cases pending.find? id <;>
      simp [Incident.settle, Incident.ending?, Ending.outcome?, same]
  | endInbound | close =>
    simp only [Incident.settle, Incident.ending?, outcomes_close]
    cases pending.find? id <;> rfl
  | write => cases pending.find? id <;> simp [Incident.settle, Incident.ending?]

theorem closed_settle (incident : Incident) :
    (incident.settle limit pending).1.closed =
      (pending.closed || (Event.incident incident).closes) := by
  cases incident with
  | frame json =>
    cases response : responseOf? json <;>
      simp [Incident.settle, response, Event.closes, Pending.closed_release]
  | expire id =>
    cases found : pending.find? id <;> cases limit <;>
      simp [Incident.settle, found, Event.closes, Pending.closed_release]
  | abandon id => simp [Incident.settle, Event.closes, Pending.closed_release]
  | endInbound | close => simp [Incident.settle, Event.closes, Pending.closed_close]
  | write => simp [Incident.settle, Event.closes]

theorem settle_inert {json : Json}
    (inert : ∀ id outcome, responseOf? json = some (id, outcome) → pending.find? id = none) :
    (Incident.frame json).settle limit pending = (pending, []) := by
  cases response : responseOf? json with
  | none => simp [Incident.settle, response]
  | some found =>
    obtain ⟨id, outcome⟩ := found
    have nobody := inert id outcome response
    simp [Incident.settle, response, nobody, Pending.release_of_find?_eq_none nobody]

end WorkspaceServers.Transport
