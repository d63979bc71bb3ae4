import WorkspaceServers.Transport.Run

/-!
How commands come into the queue of a transport: every operation puts its own behind those
that are there, as long as there is a writer, and none but the writer takes one out.
-/

namespace WorkspaceServers.Transport

/-- More commands may stand in the queue, as long as there is a writer to take them; it has
done nothing itself. -/
structure Queues (before after : Transport) : Prop where
  queue : before.queue <+: after.queue
  stays : before.writing = false → after.queue = before.queue
  writing : after.writing = before.writing
  sink : after.sink = before.sink

namespace Queues

variable {before after : Transport}

theorem of_same (queue : after.queue = before.queue) (writing : after.writing = before.writing)
    (sink : after.sink = before.sink) : Queues before after :=
  ⟨queue ▸ List.prefix_refl _, fun _ => queue, writing, sink⟩

theorem refl (transport : Transport) : Queues transport transport := of_same rfl rfl rfl

theorem trans {between : Transport} (first : Queues before between)
    (second : Queues between after) : Queues before after where
  queue := first.queue.trans second.queue
  stays still := (second.stays (first.writing.trans still)).trans (first.stays still)
  writing := second.writing.trans first.writing
  sink := second.sink.trans first.sink

theorem enqueue (transport : Transport) (command : Command) :
    Queues transport (transport.enqueue command) := by
  unfold Transport.enqueue
  split
  · rename_i writing
    refine ⟨List.prefix_append _ _, fun still => ?_, rfl, rfl⟩
    rw [writing] at still
    cases still
  · exact refl transport

theorem request (transport : Transport) (method : String) (params : Option Json) :
    Queues transport (transport.request method params).1 := by
  simp only [Transport.request]
  cases transport.pending.register transport.nextId method with
  | none => exact of_same rfl rfl rfl
  | some pending =>
    have next : Queues transport { transport with nextId := transport.nextId + 1, pending } :=
      of_same rfl rfl rfl
    dsimp only
    split
    · exact next.trans (enqueue _ _)
    · exact of_same rfl rfl rfl

theorem notify (transport : Transport) (method : String) (params : Option Json) :
    Queues transport (transport.notify method params).1 := by
  unfold Transport.notify
  split
  · exact refl transport
  · exact enqueue transport _

theorem dispatch (transport : Transport) (frame : Json) :
    Queues transport (transport.dispatch frame).1 := by
  unfold Transport.dispatch
  split
  · exact of_same rfl rfl rfl
  · exact enqueue transport _
  · exact refl transport
  · exact refl transport

theorem dispatchAll (transport : Transport) (frames : List Json) :
    Queues transport (transport.dispatchAll frames).1 := by
  induction frames generalizing transport with
  | nil => exact refl transport
  | cons frame rest ih => exact (dispatch transport frame).trans (ih _)

theorem expire (transport : Transport) (id : UInt64) :
    Queues transport (transport.expire id).1 := by
  unfold Transport.expire
  split
  · exact of_same rfl rfl rfl
  · exact refl transport

theorem endInbound (transport : Transport) : Queues transport transport.endInbound.1 := by
  unfold Transport.endInbound
  split
  · exact refl transport
  · exact (dispatchAll transport _).trans (of_same rfl rfl rfl)

theorem close (transport : Transport) : Queues transport transport.close.1 := by
  have failed : Queues transport transport.failPending.1 := of_same rfl rfl rfl
  exact failed.trans (enqueue _ _)

theorem step (transport : Transport) {event : Event} (other : event ≠ .incident .write) :
    Queues transport (transport.step event).1 := by
  cases event with
  | request method params =>
    have queues := request transport method params
    simp only [Transport.step]
    generalize transport.request method params = requested at queues ⊢
    obtain ⟨after, id, failure⟩ := requested
    cases failure <;> exact queues
  | notify method params => exact notify transport method params
  | incident incident =>
    cases incident with
    | frame json =>
      simp only [Transport.step, suffer]
      split
      · exact dispatch transport json
      · exact refl transport
    | expire id => exact expire transport id
    | abandon id => exact of_same rfl rfl rfl
    | endInbound => exact endInbound transport
    | close => exact close transport
    | write => exact absurd rfl other

end Queues

theorem length_queue_write (transport : Transport) :
    transport.write.queue.length ≤ transport.queue.length - 1 := by
  unfold write
  split
  · rename_i queue
    rw [queue]
    exact Nat.zero_le _
  · exact Nat.zero_le _
  · rename_i json rest queue
    rw [queue]
    split
    · exact Nat.le_refl _
    · exact Nat.zero_le _

def queuedBy (transport : Transport) : Event → List Command
  | .incident .write => []
  | event => (transport.step event).1.queue.drop transport.queue.length

def queued (transport : Transport) : List Event → List Command
  | [] => []
  | event :: rest => transport.queuedBy event ++ queued (transport.step event).1 rest

theorem queue_of_queues {transport : Transport} {event : Event}
    (other : event ≠ .incident .write) :
    (transport.step event).1.queue = transport.queue ++ transport.queuedBy event := by
  obtain ⟨more, grown⟩ := (Queues.step transport other).queue
  have by_event : transport.queuedBy event =
      (transport.step event).1.queue.drop transport.queue.length := by
    unfold queuedBy
    split
    · exact absurd rfl other
    · rfl
  rw [by_event, ← grown, List.drop_left]

end WorkspaceServers.Transport
