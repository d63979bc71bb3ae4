import WorkspaceServers.Proofs.Transport.Operations

/-!
No wait is forgotten. Whatever has been read or left unread, a request that waits before an
incident waits behind it or has come to an outcome, unless its caller gave it up.
-/

namespace WorkspaceServers.Transport

def Attends (id : UInt64) (before : Transport) (after : Transport × List Resolution) : Prop :=
  ∀ method, before.pending.find? id = some method →
    after.1.pending.find? id = some method ∨ ∃ outcome, ⟨id, outcome⟩ ∈ after.2

variable {id : UInt64} {transport : Transport}

theorem attends_of_same {after : Transport} (same : after.pending = transport.pending)
    (resolved : List Resolution) : Attends id transport (after, resolved) := by
  intro method waiting
  left
  rw [same]
  exact waiting

theorem Attends.trans {between after : Transport} {first second : List Resolution}
    (attends : Attends id transport (between, first))
    (attends' : Attends id between (after, second)) :
    Attends id transport (after, first ++ second) := by
  intro method waiting
  rcases attends method waiting with kept | ⟨outcome, member⟩
  · rcases attends' method kept with kept' | ⟨outcome, member⟩
    · exact .inl kept'
    · exact .inr ⟨outcome, List.mem_append_right _ member⟩
  · exact .inr ⟨outcome, List.mem_append_left _ member⟩

/-- Where an incident acts as told by `Incident.settle`, every ending but one has an outcome. -/
theorem attends_of_settle {incident : Incident} (kept : incident ≠ .abandon id)
    {after : Transport × List Resolution}
    (pending : after.1.pending =
      (incident.settle transport.requestTimeout transport.pending).1)
    (resolved : after.2 = (incident.settle transport.requestTimeout transport.pending).2) :
    Attends id transport after := by
  intro method waiting
  rw [pending, resolved, find?_settle]
  cases ending : incident.ending? transport.requestTimeout id method with
  | none => exact .inl ⟨waiting, rfl⟩
  | some ending' =>
    right
    cases ending' with
    | resolved outcome =>
      refine ⟨outcome, mem_outcomes.mp ?_⟩
      rw [outcomes_settle, waiting, Option.bind_some, ending]
      exact List.mem_singleton_self outcome
    | abandoned =>
      -- Only the caller itself ends a wait without an outcome.
      cases incident with
      | abandon other =>
        by_cases same : other = id
        · exact absurd (congrArg Incident.abandon same) kept
        · simp [Incident.ending?, same] at ending
      | frame json => simp [Incident.ending?] at ending
      | expire other => simp [Incident.ending?] at ending
      | endInbound | close | write => cases ending

theorem attends_dispatch (transport : Transport) (frame : Json) :
    Attends id transport (transport.dispatch frame) := by
  obtain ⟨queue, dispatched, -⟩ := dispatch_settles transport frame
  rw [dispatched]
  exact attends_of_settle Incident.noConfusion rfl rfl

theorem attends_dispatchAll (transport : Transport) (frames : List Json) :
    Attends id transport (transport.dispatchAll frames) := by
  induction frames generalizing transport with
  | nil => exact attends_of_same rfl []
  | cons frame rest ih => exact (attends_dispatch transport frame).trans (ih _)

theorem attends_stopReading (transport : Transport) :
    Attends id transport transport.stopReading := by
  have kept : Incident.endInbound ≠ .abandon id := Incident.noConfusion
  exact attends_of_settle kept rfl rfl

theorem attends_suffer (transport : Transport) {incident : Incident}
    (kept : incident ≠ .abandon id) : Attends id transport (transport.suffer incident) := by
  cases incident with
  | frame json =>
    rw [suffer]
    split
    · exact attends_dispatch transport json
    · exact attends_of_same rfl []
  | expire other =>
    rw [suffer, expire_settles]
    exact attends_of_settle kept rfl rfl
  | abandon other => exact attends_of_settle kept rfl rfl
  | endInbound =>
    rw [suffer, endInbound]
    split
    · exact attends_of_same rfl []
    · exact (attends_dispatchAll transport _).trans (attends_stopReading _)
  | close =>
    obtain ⟨queue, closed⟩ := close_queue transport
    rw [suffer, closed]
    exact attends_of_settle kept rfl rfl
  | write => exact attends_of_same (pending_write transport) []

end WorkspaceServers.Transport
