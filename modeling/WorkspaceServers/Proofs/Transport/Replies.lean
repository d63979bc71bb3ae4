import WorkspaceServers.Proofs.Transport.Queues

/-!
What comes into the queue besides the requests and notifications of the client: refusals
of the requests that the server makes, and the command to close.
-/

namespace WorkspaceServers.Transport

def Command.IsReply : Command → Prop
  | .frame json => ∃ id method, json = Rpc.methodNotFound id method
  | .close => True

def Replies (before after : Transport) : Prop :=
  ∃ more, after.queue = before.queue ++ more ∧ ∀ command ∈ more, command.IsReply

namespace Replies

variable {before after : Transport}

theorem of_same (queue : after.queue = before.queue) : Replies before after :=
  ⟨[], queue.trans (List.append_nil _).symm, nofun⟩

theorem trans {between : Transport} (first : Replies before between)
    (second : Replies between after) : Replies before after := by
  obtain ⟨more, queue, replies⟩ := first
  obtain ⟨more', queue', replies'⟩ := second
  refine ⟨more ++ more', by rw [queue', queue, List.append_assoc], fun command added => ?_⟩
  exact (List.mem_append.mp added).elim (replies command) (replies' command)

theorem enqueue (transport : Transport) {command : Command} (reply : command.IsReply) :
    Replies transport (transport.enqueue command) := by
  unfold Transport.enqueue
  split
  · exact ⟨[command], rfl, by simpa using reply⟩
  · exact of_same rfl

theorem dispatch (transport : Transport) (frame : Json) :
    Replies transport (transport.dispatch frame).1 := by
  unfold Transport.dispatch
  split
  · exact of_same rfl
  · exact enqueue transport ⟨_, _, rfl⟩
  · exact of_same rfl
  · exact of_same rfl

theorem dispatchAll (transport : Transport) (frames : List Json) :
    Replies transport (transport.dispatchAll frames).1 := by
  induction frames generalizing transport with
  | nil => exact of_same rfl
  | cons frame rest ih => exact (dispatch transport frame).trans (ih _)

theorem close (transport : Transport) : Replies transport transport.close.1 :=
  enqueue transport.failPending.1 trivial

theorem endInbound (transport : Transport) : Replies transport transport.endInbound.1 := by
  unfold Transport.endInbound
  split
  · exact of_same rfl
  · exact dispatchAll transport _

theorem drop_queue (replies : Replies before after) :
    ∀ command ∈ after.queue.drop before.queue.length, command.IsReply := by
  obtain ⟨more, queue, all⟩ := replies
  rw [queue, List.drop_left]
  exact all

end Replies

/-- Whatever a transport suffers, it queues nothing but replies. -/
theorem replies_suffer (transport : Transport) (incident : Incident) :
    ∀ command ∈ (transport.suffer incident).1.queue.drop transport.queue.length,
      command.IsReply := by
  cases incident with
  | frame json =>
    rw [suffer]
    split
    · exact (Replies.dispatch transport json).drop_queue
    · exact (Replies.of_same rfl).drop_queue
  | expire id =>
    rw [suffer, expire]
    split <;> exact (Replies.of_same rfl).drop_queue
  | abandon id => exact (Replies.of_same rfl).drop_queue
  | endInbound => exact (Replies.endInbound transport).drop_queue
  | close => exact (Replies.close transport).drop_queue
  | write =>
    have shorter : transport.write.queue.length ≤ transport.queue.length :=
      Nat.le_trans (length_queue_write transport) (Nat.sub_le _ _)
    rw [suffer, List.drop_eq_nil_of_le shorter]
    exact fun command member => absurd member List.not_mem_nil

end WorkspaceServers.Transport
