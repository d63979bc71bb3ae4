import WorkspaceServers.Proofs.Rpc.Classification
import WorkspaceServers.Proofs.Transport.Inbound
import WorkspaceServers.Proofs.Transport.Stopping

/-!
How a transport answers the requests of its server. Their ids come from the numbers that the
client's own requests take, and their replies share the client's queue. Each is answered by
the event that brings it, whatever else goes on, and none of them touches a request in flight.
-/

namespace WorkspaceServers.Transport

def replyTo? (frame : Json) : Option Json :=
  match frame.field? "id", frame.field? "method" with
  | some id, some (.str method) => some (Rpc.methodNotFound id method)
  | _, _ => none

/-- Replies name no method. -/
def Command.reply? : Command → Option Json
  | .frame json => if (json.field? "method").isNone then some json else none
  | .close => none

def Command.call? : Command → Option Json
  | .frame json => if (json.field? "method").isSome then some json else none
  | .close => none

namespace Event

def frame? : Event → Option Json
  | .incident (.frame json) => some json
  | _ => none

def endsInbound : Event → Bool
  | .incident .endInbound => true
  | _ => false

def call? (next : UInt64) : Event → Option Json
  | .request method params => some (Rpc.request next method params)
  | .notify method params => some (Rpc.notification method params)
  | .incident _ => none

end Event

def dispatched : List Event → List Json
  | [] => []
  | event :: rest => event.frame?.toList ++ if event.endsInbound then [] else dispatched rest

def calls (next : UInt64) : List Event → List Json
  | [] => []
  | event :: rest =>
    (event.call? next).toList ++
      if event.closes then [] else calls (if event.isRequest then next + 1 else next) rest

def heard (transport : Transport) : List Event → List Event
  | [] => []
  | event :: rest =>
    if transport.writing then event :: heard (transport.step event).1 rest else []

def brings? (transport : Transport) : Event → Option Command
  | .request method params => transport.slot?.map fun id => .frame (Rpc.request id method params)
  | .notify method params => transport.slot?.map fun _ => .frame (Rpc.notification method params)
  | .incident (.frame json) => if transport.reading then (replyTo? json).map .frame else none
  | .incident .close => some .close
  | .incident _ => none

section Frames

variable {transport : Transport} {frame reply : Json} {method : String}

theorem replyTo?_of_request {id : Json}
    (request : Rpc.Incoming.ofJson? frame = some (.request id method)) :
    replyTo? frame = some (Rpc.methodNotFound id method) := by
  obtain ⟨numbered, named⟩ := ((Rpc.classified frame).request_iff id method).mp request
  simp only [replyTo?, numbered, named]

theorem replyTo?_of_other
    (other : ∀ id method, Rpc.Incoming.ofJson? frame ≠ some (.request id method)) :
    replyTo? frame = none := by
  unfold replyTo?
  split
  · rename_i id method numbered named
    exact absurd (((Rpc.classified frame).request_iff id method).mpr ⟨numbered, named⟩)
      (other id method)
  · rfl

theorem reply?_of_replyTo? (answers : replyTo? frame = some reply) :
    Command.reply? (.frame reply) = some reply ∧ Command.call? (.frame reply) = none ∧
      reply.field? "id" = frame.field? "id" := by
  unfold replyTo? at answers
  split at answers
  · rename_i id method numbered named
    obtain rfl := Option.some.inj answers
    simp [Command.reply?, Command.call?, Rpc.field?_methodNotFound, numbered]
  · cases answers

theorem responseOf?_of_method (named : frame.field? "method" = some (.str method)) :
    responseOf? frame = none := by
  cases response : Rpc.Incoming.ofJson? frame with
  | none => simp only [responseOf?, response]
  | some incoming =>
    cases incoming with
    | request id method => simp only [responseOf?, response]
    | notification method params => simp only [responseOf?, response]
    | response id outcome =>
      have unnamed := (((Rpc.classified frame).response_iff id outcome).mp response).2.1
      exact absurd named (unnamed method)

/-- Neither a request nor a notification resolves a wait, whatever its id. -/
theorem dispatch_of_method (transport : Transport)
    (named : frame.field? "method" = some (.str method)) :
    (transport.dispatch frame).1.pending = transport.pending ∧
      (transport.dispatch frame).2 = [] := by
  obtain ⟨queue, dispatched, -⟩ := dispatch_other transport (responseOf?_of_method named)
  rw [dispatched]
  exact ⟨rfl, rfl⟩

theorem queue_dispatch (writing : transport.writing = true) (frame : Json) :
    (transport.dispatch frame).1.queue =
      transport.queue ++ ((replyTo? frame).map Command.frame).toList := by
  unfold dispatch
  split
  · rename_i id outcome response
    rw [replyTo?_of_other (by simp [response])]
    exact (List.append_nil _).symm
  · rename_i id method request
    rw [replyTo?_of_request request]
    simp [enqueue, writing]
  · rename_i method params notification
    rw [replyTo?_of_other (by simp [notification])]
    exact (List.append_nil _).symm
  · rename_i malformed
    rw [replyTo?_of_other (by simp [malformed])]
    exact (List.append_nil _).symm

theorem queue_dispatchAll (writing : transport.writing = true) (frames : List Json) :
    (transport.dispatchAll frames).1.queue =
      transport.queue ++ (frames.filterMap replyTo?).map Command.frame := by
  induction frames generalizing transport with
  | nil => exact (List.append_nil _).symm
  | cons frame rest ih =>
    rw [dispatchAll, ih ((Queues.dispatch transport frame).writing.trans writing),
      queue_dispatch writing, List.filterMap_cons, List.append_assoc]
    cases replyTo? frame <;> rfl

end Frames

section Steps

variable {transport : Transport}

theorem queuedBy_of_queue {event : Event} {more : List Command}
    (other : event ≠ .incident .write)
    (queue : (transport.step event).1.queue = transport.queue ++ more) :
    transport.queuedBy event = more :=
  List.append_cancel_left ((queue_of_queues other).symm.trans queue)

theorem CaughtUp.queue_step (caught : CaughtUp transport) (writing : transport.writing = true)
    {event : Event} (other : event ≠ .incident .write) :
    (transport.step event).1.queue = transport.queue ++ (transport.brings? event).toList := by
  cases event with
  | request method params =>
    cases slot : transport.slot? with
    | none =>
      rw [step_request_of_shut slot]
      simp [brings?, slot]
    | some id =>
      obtain ⟨pending, -, stepped⟩ := step_request_of_slot slot method params
      rw [stepped]
      simp [brings?, slot]
  | notify method params =>
    cases slot : transport.slot? with
    | none =>
      rw [step_notify, notify_of_no_slot slot]
      simp [brings?, slot]
    | some id =>
      rw [step_notify, notify_of_slot slot]
      simp [brings?, slot]
  | incident incident =>
    rw [step_incident]
    cases incident with
    | frame json =>
      rw [suffer, brings?]
      cases transport.reading with
      | true => exact queue_dispatch writing json
      | false => exact (List.append_nil _).symm
    | expire id =>
      rw [suffer, expire_settles]
      exact (List.append_nil _).symm
    | abandon id => exact (List.append_nil _).symm
    | endInbound =>
      -- Nothing has been left unread, so the end of the stream brings no frames.
      rw [suffer]
      cases reading : transport.reading with
      | true =>
        rw [endInbound_of_reading reading caught.unread]
        exact (List.append_nil _).symm
      | false =>
        rw [endInbound, if_pos (by simp [reading])]
        exact (List.append_nil _).symm
    | close => simp [suffer, close, failPending, enqueue, writing, brings?]
    | write => exact absurd rfl other

theorem CaughtUp.queuedBy_eq (caught : CaughtUp transport) (writing : transport.writing = true)
    (event : Event) : transport.queuedBy event = (transport.brings? event).toList := by
  by_cases writes : event = .incident .write
  · subst writes
    rfl
  · exact queuedBy_of_queue writes (caught.queue_step writing writes)

theorem reading_step (transport : Transport) (event : Event) :
    (transport.step event).1.reading = (transport.reading && !event.endsInbound) := by
  cases event with
  | request method params =>
    obtain ⟨pending, queue, resolved, stepped⟩ := exists_step_request transport method params
    rw [stepped]
    exact (Bool.and_true _).symm
  | notify method params =>
    obtain ⟨queue, notified, -⟩ := notify_queue transport method params
    rw [step_notify, notified]
    exact (Bool.and_true _).symm
  | incident incident =>
    rw [step_incident]
    cases incident with
    | frame json =>
      refine Eq.trans ?_ (Bool.and_true _).symm
      rw [suffer]
      split
      · exact reading_dispatch json transport
      · rfl
    | expire id =>
      rw [suffer, expire_settles]
      exact (Bool.and_true _).symm
    | abandon id => exact (Bool.and_true _).symm
    | endInbound =>
      -- Only this event stops the reader.
      rw [suffer, endInbound, Event.endsInbound, Bool.not_true, Bool.and_false]
      cases reading : transport.reading with
      | true => rfl
      | false => exact reading
    | close =>
      obtain ⟨queue, closed⟩ := close_queue transport
      rw [suffer, closed]
      exact (Bool.and_true _).symm
    | write =>
      obtain ⟨queue, writing, sink, written, -⟩ := exists_write transport
      rw [suffer, written]
      exact (Bool.and_true _).symm

theorem nextId_step (transport : Transport) (event : Event) :
    (transport.step event).1.nextId =
      if event.isRequest then transport.nextId + 1 else transport.nextId := by
  cases event with
  | request method params =>
    obtain ⟨pending, queue, resolved, stepped⟩ := exists_step_request transport method params
    rw [stepped]
    rfl
  | notify method params =>
    obtain ⟨queue, notified, -⟩ := notify_queue transport method params
    rw [step_notify, notified]
    rfl
  | incident incident => exact nextId_suffer transport incident

theorem reply?_brings? (transport : Transport) (event : Event) :
    (transport.brings? event).bind Command.reply? =
      if transport.reading then event.frame?.bind replyTo? else none := by
  cases event with
  | request method params =>
    cases transport.slot? <;> simp [brings?, Command.reply?, Rpc.field?_request, Event.frame?]
  | notify method params =>
    cases transport.slot? <;> simp [brings?, Command.reply?, Rpc.field?_notification, Event.frame?]
  | incident incident =>
    cases incident with
    | frame json =>
      rw [brings?]
      cases transport.reading with
      | false => rfl
      | true =>
        cases reply : replyTo? json with
        | none => simp [Event.frame?, reply]
        | some answer => simp [Event.frame?, reply, (reply?_of_replyTo? reply).1]
    | expire id | abandon id | endInbound | close | write =>
      cases transport.reading <;> rfl

theorem call?_brings? (writing : transport.writing = true) (event : Event) :
    (transport.brings? event).bind Command.call? =
      if transport.isClosed then none else event.call? transport.nextId := by
  cases event with
  | request method params =>
    cases closed : transport.isClosed <;>
      simp [brings?, slot?, writing, closed, Command.call?, Rpc.field?_request, Event.call?]
  | notify method params =>
    cases closed : transport.isClosed <;>
      simp [brings?, slot?, writing, closed, Command.call?, Rpc.field?_notification, Event.call?]
  | incident incident =>
    cases incident with
    | frame json =>
      rw [brings?]
      cases transport.reading with
      | false => cases transport.isClosed <;> rfl
      | true =>
        cases reply : replyTo? json with
        | none => simp [Event.call?]
        -- A reply names no method, so it is none of the client's frames.
        | some answer => simp [Event.call?, (reply?_of_replyTo? reply).2.1]
    | expire id | abandon id | endInbound | close | write =>
      cases transport.isClosed <;> rfl

theorem writing_step_of_stopped (stopped : transport.writing = false) (event : Event) :
    (transport.step event).1.writing = false := by
  by_cases writes : event = .incident .write
  · subst writes
    exact writing_suffer_of_stopped stopped .write
  · exact (Queues.step transport writes).writing.trans stopped

theorem queuedBy_of_stopped (stopped : transport.writing = false) (event : Event) :
    transport.queuedBy event = [] := by
  by_cases writes : event = .incident .write
  · subst writes
    rfl
  · apply queuedBy_of_queue writes
    rw [(Queues.step transport writes).stays stopped, List.append_nil]

end Steps

section Runs

variable {transport : Transport}

theorem queued_of_stopped (stopped : transport.writing = false) (events : List Event) :
    transport.queued events = [] := by
  induction events generalizing transport with
  | nil => rfl
  | cons event rest ih =>
    rw [queued, queuedBy_of_stopped stopped, ih (writing_step_of_stopped stopped event)]
    rfl

theorem heard_of_stopped (stopped : transport.writing = false) (events : List Event) :
    transport.heard events = [] := by
  cases events with
  | nil => rfl
  | cons event rest => rw [heard, if_neg (by simp [stopped])]

theorem heard_of_writing (events : List Event)
    (writing : (transport.run events).1.writing = true) : transport.heard events = events := by
  induction events generalizing transport with
  | nil => rfl
  | cons event rest ih =>
    have later : (transport.step event).1.heard rest = rest := ih writing
    cases now : transport.writing with
    | true => rw [heard, if_pos now, later]
    | false =>
      -- The writer would be at a stop at the end, too.
      have stopped := writing_step_of_stopped now event
      rw [heard_of_stopped stopped] at later
      subst later
      have both : false = true := stopped.symm.trans writing
      cases both

theorem filterMap_toList {α β : Type} (f : α → Option β) (value : Option α) :
    value.toList.filterMap f = (value.bind f).toList := by
  cases value with
  | none => rfl
  | some value =>
    rw [Option.toList_some, List.filterMap_cons, Option.bind_some]
    cases f value <;> rfl

theorem CaughtUp.replies_queued (caught : CaughtUp transport) (events : List Event) :
    (transport.queued events).filterMap Command.reply? =
      (if transport.reading then dispatched (transport.heard events) else []).filterMap
        replyTo? := by
  -- A step adds what `brings?` tells and leaves a transport that has caught up again.
  induction events generalizing transport with
  | nil => cases transport.reading <;> rfl
  | cons event rest ih =>
    cases writing : transport.writing with
    | false =>
      rw [queued_of_stopped writing, heard_of_stopped writing]
      cases transport.reading <;> rfl
    | true =>
      rw [queued, caught.queuedBy_eq writing, List.filterMap_append, filterMap_toList,
        reply?_brings?, ih (caught.step event), reading_step, heard, if_pos writing, dispatched]
      cases transport.reading with
      | false => rfl
      | true =>
        rw [if_pos rfl, if_pos rfl, List.filterMap_append, filterMap_toList]
        cases event.endsInbound <;> rfl

theorem CaughtUp.calls_queued (caught : CaughtUp transport) (events : List Event) :
    (transport.queued events).filterMap Command.call? =
      if transport.isClosed then [] else calls transport.nextId (transport.heard events) := by
  induction events generalizing transport with
  | nil => cases transport.isClosed <;> rfl
  | cons event rest ih =>
    cases writing : transport.writing with
    | false =>
      rw [queued_of_stopped writing, heard_of_stopped writing]
      cases transport.isClosed <;> rfl
    | true =>
      rw [queued, caught.queuedBy_eq writing, List.filterMap_append, filterMap_toList,
        call?_brings? writing, ih (caught.step event), caught.isClosed_step, nextId_step, heard,
        if_pos writing, calls]
      cases transport.isClosed with
      | true => rfl
      | false => cases event.closes <;> rfl

end Runs

/-- How a transport that runs from `first` on deals with the requests of its server. -/
structure Answers (first : Transport) (events : List Event) : Prop where
  /-- Each that is heard gets its reply, in the order of their coming, and nothing else does. -/
  replies : (first.queued events).filterMap Command.reply? =
    (dispatched (first.heard events)).filterMap replyTo?
  /-- The client's own frames stand among the replies in the order of their making. -/
  calls : (first.queued events).filterMap Command.call? =
    calls first.nextId (first.heard events)
  heard : (first.run events).1.writing = true → first.heard events = events

/-- How a transport, in whatever state it is, takes up what comes in. -/
structure TakesUp (transport : Transport) : Prop where
  /-- What is no response has no part in what the client waits for, even under an id that the
  client has in flight. -/
  untouched : ∀ frame method, frame.field? "method" = some (.str method) →
    (transport.dispatch frame).1.pending = transport.pending ∧ (transport.dispatch frame).2 = []
  echoes : ∀ frame reply, replyTo? frame = some reply → reply.field? "id" = frame.field? "id"
  stream : transport.writing = true → transport.reading = true → ∀ chunks : List Bytes,
    (transport.receiveAll chunks).1.queue = transport.queue ++
      ((Frame.allFrames (transport.unread ++ chunks.flatten)).filterMap replyTo?).map
        Command.frame

theorem requests_answered_in_order :
    (∀ limit sink events, Answers (startOver limit sink) events) ∧
      ∀ transport, TakesUp transport := by
  constructor
  · intro limit sink events
    have caught := (counted_start limit sink).caughtUp
    exact ⟨caught.replies_queued events, caught.calls_queued events, heard_of_writing events⟩
  · intro transport
    refine ⟨fun frame method => dispatch_of_method transport, ?_, ?_⟩
    · exact fun frame reply answers => (reply?_of_replyTo? answers).2.2
    · intro writing reading chunks
      rw [receiveAll_eq reading]
      exact queue_dispatchAll writing _

/-- The server takes the id of the request that waits for it. -/
example : (startOver none .unlimited).queued
    [.request "initialize" none, .incident (.frame (Rpc.request 1 "window/showMessage" none)),
      .notify "initialized" none] =
    [.frame (Rpc.request 1 "initialize" none),
      .frame (Rpc.methodNotFound (.ofUInt64 1) "window/showMessage"),
      .frame (Rpc.notification "initialized" none)] := rfl

end WorkspaceServers.Transport
