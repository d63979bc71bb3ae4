import WorkspaceServers.Proofs.Transport.Operations
import WorkspaceServers.Proofs.Transport.Queues
import WorkspaceServers.Session.Queue

/-!
Whether a transport takes frames, and under which id. As long as it does, a request and a
notification queue one frame each; without it they fail and leave the queue alone. What
happens besides keeps the id, or puts an end to it all, which is for good.
-/

namespace WorkspaceServers.Transport

variable {transport : Transport} {id : UInt64} {method : String} {params : Option Json}

theorem slot?_eq_some_iff :
    transport.slot? = some id ↔
      transport.isClosed = false ∧ transport.writing = true ∧ transport.nextId = id := by
  unfold slot?
  cases transport.isClosed <;> cases transport.writing <;> simp

theorem slot?_eq_none_iff :
    transport.slot? = none ↔ transport.isClosed = true ∨ transport.writing = false := by
  unfold slot?
  cases transport.isClosed <;> cases transport.writing <;> simp

section Operations

theorem request_of_slot (slot : transport.slot? = some id) (method : String)
    (params : Option Json) :
    ∃ next : Transport, transport.request method params = (next, id, none) ∧
      next.queue = transport.queue ++ [.frame (Rpc.request id method params)] ∧
      next.slot? = some (id + 1) := by
  obtain ⟨opened, writing, rfl⟩ := slot?_eq_some_iff.mp slot
  obtain ⟨pending, registered, requested⟩ := request_of_open opened writing method params
  refine ⟨_, requested, rfl, slot?_eq_some_iff.mpr ⟨?_, writing, rfl⟩⟩
  exact Pending.closed_register registered

theorem request_of_shut (shut : transport.slot? = none) (method : String) (params : Option Json) :
    transport.request method params =
      ({ transport with nextId := transport.nextId + 1 }, transport.nextId, some .terminated) := by
  rcases slot?_eq_none_iff.mp shut with closed | stopped
  · exact request_of_closed closed
  · simp only [request, stopped]
    cases transport.pending.register transport.nextId method with
    | none => rfl
    | some pending => rfl

theorem request_of_no_slot (shut : transport.slot? = none) (method : String)
    (params : Option Json) :
    ∃ next : Transport, transport.request method params = (next, transport.nextId,
        some .terminated) ∧
      next.queue = transport.queue ∧ next.slot? = none := by
  have still := slot?_eq_none_iff.mp shut
  exact ⟨_, request_of_shut shut method params, rfl, slot?_eq_none_iff.mpr still⟩

theorem notify_of_slot (slot : transport.slot? = some id) (method : String)
    (params : Option Json) :
    transport.notify method params =
      ({ transport with
          queue := transport.queue ++ [.frame (Rpc.notification method params)] }, .ok ()) := by
  obtain ⟨opened, writing, -⟩ := slot?_eq_some_iff.mp slot
  simp [notify, enqueue, opened, writing]

theorem notify_of_no_slot (shut : transport.slot? = none) (method : String)
    (params : Option Json) :
    transport.notify method params = (transport, .error .terminated) := by
  rcases slot?_eq_none_iff.mp shut with closed | stopped
  · exact notify_of_closed closed
  · simp [notify, stopped]

end Operations

section Incidents

theorem nextId_enqueue (transport : Transport) (command : Command) :
    (transport.enqueue command).nextId = transport.nextId := by
  unfold enqueue
  split <;> rfl

theorem nextId_dispatch (transport : Transport) (frame : Json) :
    (transport.dispatch frame).1.nextId = transport.nextId := by
  obtain ⟨queue, dispatched, -⟩ := dispatch_settles transport frame
  rw [dispatched]

theorem nextId_dispatchAll (transport : Transport) (frames : List Json) :
    (transport.dispatchAll frames).1.nextId = transport.nextId := by
  induction frames generalizing transport with
  | nil => rfl
  | cons frame rest ih => exact (ih _).trans (nextId_dispatch transport frame)

theorem nextId_suffer (transport : Transport) (incident : Incident) :
    (transport.suffer incident).1.nextId = transport.nextId := by
  cases incident with
  | frame json =>
    rw [suffer]
    split
    · exact nextId_dispatch transport json
    · rfl
  | expire id => rw [suffer, expire_settles]
  | abandon id => rfl
  | endInbound =>
    rw [suffer, endInbound]
    split
    · rfl
    · exact nextId_dispatchAll transport _
  | close => exact nextId_enqueue _ _
  | write =>
    rw [suffer, write]
    split
    · rfl
    · rfl
    · split <;> rfl

theorem writing_suffer_of_stopped (stopped : transport.writing = false) (incident : Incident) :
    (transport.suffer incident).1.writing = false := by
  by_cases writes : incident = .write
  · subst writes
    rw [suffer, write]
    split
    · exact stopped
    · rfl
    · split
      · exact stopped
      · rfl
  · have queues : Queues transport (transport.suffer incident).1 :=
      Queues.step transport (fun same => writes (Event.incident.inj same))
    rw [queues.writing, stopped]

theorem slot?_suffer (transport : Transport) (incident : Incident) :
    (transport.suffer incident).1.slot? = transport.slot? ∨
      (transport.suffer incident).1.slot? = none := by
  cases after : (transport.suffer incident).1.slot? with
  | none => exact .inr rfl
  | some id =>
    left
    obtain ⟨opened, writing, number⟩ := slot?_eq_some_iff.mp after
    rw [nextId_suffer] at number
    refine (slot?_eq_some_iff.mpr ⟨?_, ?_, number⟩).symm
    · cases closed : transport.isClosed with
      | false => rfl
      | true => rw [isClosed_suffer_of_isClosed closed] at opened; cases opened
    · cases stopped : transport.writing with
      | true => rfl
      | false => rw [writing_suffer_of_stopped stopped] at writing; cases writing

end Incidents

end WorkspaceServers.Transport
