import WorkspaceServers.Transport.Run

/-!
What may become of a request. Whatever happens to a transport, those who wait get an answer, a
refusal of the server, or one of two failures: the transport is closed, or it took too long.
-/

namespace WorkspaceServers.Transport

inductive IsOutcome : Except Failure Json → Prop
  | answered (result : Json) : IsOutcome (.ok result)
  | refused (error : Rpc.ResponseError) : IsOutcome (.error (.refused error))
  | terminated : IsOutcome (.error .terminated)
  | timedOut (method : String) (limit : Duration) : IsOutcome (.error (.timedOut method limit))

def Known (resolved : List Resolution) : Prop :=
  ∀ resolution ∈ resolved, IsOutcome resolution.outcome

variable {first second : List Resolution}

theorem known_nil : Known [] := List.forall_mem_nil _

theorem Known.append (known : Known first) (known' : Known second) : Known (first ++ second) :=
  List.forall_mem_append.mpr ⟨known, known'⟩

theorem isOutcome_of_response (response : Except Rpc.ResponseError Json) :
    IsOutcome (response.mapError Failure.refused) := by
  cases response with
  | ok result => exact .answered result
  | error error => exact .refused error

theorem known_dispatch (transport : Transport) (frame : Json) :
    Known (transport.dispatch frame).2 := by
  unfold dispatch
  cases Rpc.Incoming.ofJson? frame with
  | none => exact known_nil
  | some incoming =>
    cases incoming with
    | response id outcome =>
      intro resolution member
      obtain ⟨method, -, rfl⟩ := List.mem_map.mp member
      exact isOutcome_of_response outcome
    | request id method => exact known_nil
    | notification method params => exact known_nil

theorem known_dispatchAll (transport : Transport) (frames : List Json) :
    Known (transport.dispatchAll frames).2 := by
  induction frames generalizing transport with
  | nil => exact known_nil
  | cons frame rest ih => exact (known_dispatch transport frame).append (ih _)

theorem known_failPending (transport : Transport) : Known transport.failPending.2 := by
  intro resolution member
  obtain ⟨entry, -, rfl⟩ := List.mem_map.mp member
  exact .terminated

theorem known_endInbound (transport : Transport) : Known transport.endInbound.2 := by
  unfold endInbound
  split
  · exact known_nil
  · exact (known_dispatchAll transport _).append (known_failPending _)

theorem known_expire (transport : Transport) (id : UInt64) : Known (transport.expire id).2 := by
  unfold expire
  split
  · exact List.forall_mem_singleton.mpr (.timedOut _ _)
  · exact known_nil

theorem known_suffer (transport : Transport) (incident : Incident) :
    Known (transport.suffer incident).2 := by
  cases incident with
  | frame json =>
    rw [suffer]
    split
    · exact known_dispatch transport json
    · exact known_nil
  | expire id => exact known_expire transport id
  | abandon id => exact known_nil
  | endInbound => exact known_endInbound transport
  | close => exact known_failPending transport
  | write => exact known_nil

end WorkspaceServers.Transport
