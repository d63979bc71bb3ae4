import WorkspaceServers.Transport.Run

/-!
How the wait of one request ends, told from the events alone. The first event that means
anything to a waiting request decides: its response, its time limit, its caller who gives
up, or the end of the whole transport. What the events mean to other requests plays no part.
-/

namespace WorkspaceServers.Transport

def responseOf? (frame : Json) : Option (UInt64 × Except Failure Json) :=
  match Rpc.Incoming.ofJson? frame with
  | some (.response id outcome) => some (id, outcome.mapError Failure.refused)
  | some (.request _ _) | some (.notification _ _) | none => none

def answerTo? (id : UInt64) (frame : Json) : Option (Except Failure Json) :=
  match responseOf? frame with
  | some (other, outcome) => if other = id then some outcome else none
  | none => none

inductive Ending where
  | resolved (outcome : Except Failure Json)
  | abandoned

def Ending.outcome? : Ending → Option (Except Failure Json)
  | resolved outcome => some outcome
  | abandoned => none

/-- What an incident does to the request that waits under `id`, with the time limit `limit`. -/
def Incident.ending? (limit : Option Duration) (id : UInt64) (method : String) :
    Incident → Option Ending
  | .frame json => (answerTo? id json).map .resolved
  | .expire other =>
    if other = id then limit.map fun limit => .resolved (.error (.timedOut method limit)) else none
  | .abandon other => if other = id then some .abandoned else none
  | .endInbound | .close => some (.resolved (.error .terminated))
  | .write => none

namespace Event

def isRequest : Event → Bool
  | .request _ _ => true
  | _ => false

/-- The end of the inbound stream and a close handle close a transport alike. -/
def closes : Event → Bool
  | .incident .endInbound | .incident .close => true
  | _ => false

def ending? (limit : Option Duration) (id : UInt64) (method : String) : Event → Option Ending
  | .incident suffered => suffered.ending? limit id method
  | .request _ _ | .notify _ _ => none

end Event

def requests (events : List Event) : Nat := events.countP Event.isRequest

def outcomes (id : UInt64) (resolved : List Resolution) : List (Except Failure Json) :=
  resolved.filterMap fun resolution =>
    if resolution.id = id then some resolution.outcome else none

@[simp] theorem requests_nil : requests [] = 0 := rfl

@[simp] theorem requests_cons (event : Event) (rest : List Event) :
    requests (event :: rest) = requests rest + if event.isRequest then 1 else 0 :=
  List.countP_cons

@[simp] theorem requests_append (first second : List Event) :
    requests (first ++ second) = requests first + requests second :=
  List.countP_append

@[simp] theorem outcomes_nil (id : UInt64) : outcomes id [] = [] := rfl

@[simp] theorem outcomes_append (id : UInt64) (first second : List Resolution) :
    outcomes id (first ++ second) = outcomes id first ++ outcomes id second :=
  List.filterMap_append

@[simp] theorem outcomes_singleton (id : UInt64) (resolution : Resolution) :
    outcomes id [resolution] = if resolution.id = id then [resolution.outcome] else [] := by
  by_cases same : resolution.id = id <;> simp [outcomes, same]

theorem mem_outcomes {id : UInt64} {resolved : List Resolution} {outcome : Except Failure Json} :
    outcome ∈ outcomes id resolved ↔ ⟨id, outcome⟩ ∈ resolved := by
  simp only [outcomes, List.mem_filterMap]
  constructor
  · rintro ⟨resolution, member, found⟩
    by_cases same : resolution.id = id
    · rw [if_pos same] at found
      cases resolution
      cases same
      cases found
      exact member
    · rw [if_neg same] at found
      cases found
  · intro member
    exact ⟨⟨id, outcome⟩, member, if_pos rfl⟩

end WorkspaceServers.Transport
