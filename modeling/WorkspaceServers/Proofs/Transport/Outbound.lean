import WorkspaceServers.Proofs.Frame.Tears
import WorkspaceServers.Proofs.Transport.Queues

/-!
What a transport sends. The writer takes up the commands of its queue in their order until
it meets a close or a frame that the sink does not take whole, so what arrives is told by
the commands and by the room in the sink alone.
-/

namespace WorkspaceServers.Transport

open WorkspaceServers.Frame (Sendable Sink Truncated encode lt_fitting_iff truncated_take)

def untilClose : List Command → List Json
  | [] => []
  | .close :: _ => []
  | .frame json :: rest => json :: untilClose rest

theorem untilClose_append {first : List Command} (opened : Command.close ∉ first)
    (second : List Command) :
    untilClose (first ++ second) = untilClose first ++ untilClose second := by
  induction first with
  | nil => rfl
  | cons command rest ih =>
    cases command with
    | close => exact absurd List.mem_cons_self opened
    | frame json =>
      exact congrArg (json :: ·) (ih fun member => opened (List.mem_cons_of_mem _ member))

theorem mem_of_mem_untilClose {commands : List Command} {json : Json}
    (member : json ∈ untilClose commands) : Command.frame json ∈ commands := by
  induction commands with
  | nil => cases member
  | cons command rest ih =>
    cases command with
    | close => cases member
    | frame first =>
      rcases List.mem_cons.mp member with rfl | later
      · exact List.mem_cons_self
      · exact List.mem_cons_of_mem _ (ih later)

/-- Where a writer stands that has taken up these commands, the last ones perhaps only to
drop them. -/
structure Wrote (room : Nat) (taken : List Command) (transport : Transport) : Prop where
  sink : transport.sink = ⟨((untilClose taken).flatMap encode).take room,
    some (room - ((untilClose taken).flatMap encode).length), false⟩
  going : transport.writing = true →
    Command.close ∉ taken ∧ ((untilClose taken).flatMap encode).length ≤ room
  stopped : transport.writing = false → transport.queue = [] ∧
    (Command.close ∈ taken ∨ room < ((untilClose taken).flatMap encode).length)

namespace Wrote

variable {room : Nat} {taken : List Command} {transport : Transport}

theorem queues (wrote : Wrote room taken transport) {after : Transport}
    (queues : Queues transport after) : Wrote room taken after where
  sink := queues.sink.trans wrote.sink
  going writing := wrote.going (queues.writing ▸ writing)
  stopped still := by
    rw [queues.writing] at still
    rw [queues.stays still]
    exact wrote.stopped still

section Write

variable {json : Json} {rest : List Command}

theorem write_close (wrote : Wrote room taken transport) (writing : transport.writing = true)
    (queue : transport.queue = .close :: rest) :
    Wrote room (taken ++ .close :: rest) transport.write := by
  obtain ⟨opened, fits⟩ := wrote.going writing
  have same : untilClose (taken ++ .close :: rest) = untilClose taken := by
    rw [untilClose_append opened, untilClose, List.append_nil]
  have written : transport.write = { transport with queue := [], writing := false } := by
    simp only [Transport.write, queue]
  rw [written]
  refine ⟨?_, nofun, fun _ => ⟨rfl, .inl (by simp)⟩⟩
  rw [same]
  exact wrote.sink

theorem write_fits (wrote : Wrote room taken transport) (writing : transport.writing = true)
    (queue : transport.queue = .frame json :: rest)
    (fits : ((untilClose taken).flatMap encode).length + (encode json).length ≤ room) :
    transport.write.queue = rest ∧ Wrote room (taken ++ [.frame json]) transport.write := by
  obtain ⟨opened, before⟩ := wrote.going writing
  have more : (untilClose (taken ++ [.frame json])).flatMap encode =
      (untilClose taken).flatMap encode ++ encode json := by
    rw [untilClose_append opened, List.flatMap_append]
    simp [untilClose]
  have sink := wrote.sink
  -- The room left is what the frames so far have not taken.
  rw [List.take_of_length_le before] at sink
  have accepted := Sink.write_of_fits ((untilClose taken).flatMap encode)
    (show (encode json).length ≤ room - ((untilClose taken).flatMap encode).length by omega)
  rw [← sink] at accepted
  have written : transport.write = { transport with
      sink := ⟨(untilClose taken).flatMap encode ++ encode json,
        some (room - ((untilClose taken).flatMap encode).length - (encode json).length), false⟩
      queue := rest } := by
    simp only [Transport.write, queue, accepted]
  rw [written]
  refine ⟨rfl, ?_, fun _ => ⟨?_, ?_⟩, fun still => ?_⟩
  · rw [more, List.take_of_length_le (by rwa [List.length_append]), List.length_append,
      Nat.sub_sub]
  · simpa using opened
  · rwa [more, List.length_append]
  · exact absurd (writing.symm.trans still) nofun

theorem write_long (wrote : Wrote room taken transport) (writing : transport.writing = true)
    (queue : transport.queue = .frame json :: rest)
    (long : room < ((untilClose taken).flatMap encode).length + (encode json).length) :
    transport.write.queue = [] ∧ Wrote room (taken ++ .frame json :: rest) transport.write := by
  obtain ⟨opened, before⟩ := wrote.going writing
  have more : (untilClose (taken ++ .frame json :: rest)).flatMap encode =
      (untilClose taken).flatMap encode ++
        (encode json ++ (untilClose rest).flatMap encode) := by
    rw [untilClose_append opened, List.flatMap_append, untilClose, List.flatMap_cons]
  have sink := wrote.sink
  -- All frames so far went out whole, so this is the first that is cut.
  rw [List.take_of_length_le before] at sink
  have short : room - ((untilClose taken).flatMap encode).length < (encode json).length := by
    omega
  obtain ⟨error, refused⟩ := Sink.write_of_long ((untilClose taken).flatMap encode) short
  rw [← sink] at refused
  have written : transport.write = { transport with
      sink := ⟨(untilClose taken).flatMap encode ++
        (encode json).take (room - ((untilClose taken).flatMap encode).length), some 0, false⟩
      queue := []
      writing := false } := by
    simp only [Transport.write, queue, refused]
  rw [written]
  refine ⟨rfl, ?_, nofun, fun _ => ⟨rfl, .inr ?_⟩⟩
  · have none_left : room - ((untilClose (taken ++ .frame json :: rest)).flatMap encode).length =
        0 := by
      rw [more, List.length_append, List.length_append]
      omega
    rw [none_left, more, List.take_append, List.take_of_length_le before,
      List.take_append_of_le_length (Nat.le_of_lt short)]
  · rw [more, List.length_append, List.length_append]
    omega

theorem write (wrote : Wrote room taken transport) :
    ∃ now, transport.queue = now ++ transport.write.queue ∧
      Wrote room (taken ++ now) transport.write := by
  cases queue : transport.queue with
  | nil =>
    have idle : transport.write = transport := by simp only [Transport.write, queue]
    exact ⟨[], by rw [idle, queue, List.append_nil], by rwa [idle, List.append_nil]⟩
  | cons command rest =>
    have writing : transport.writing = true := by
      cases still : transport.writing with
      | true => rfl
      | false => simp [(wrote.stopped still).1] at queue
    cases command with
    | close =>
      refine ⟨.close :: rest, ?_, wrote.write_close writing queue⟩
      simp [Transport.write, queue]
    | frame json =>
      by_cases fits : ((untilClose taken).flatMap encode).length + (encode json).length ≤ room
      · obtain ⟨left, after⟩ := wrote.write_fits writing queue fits
        exact ⟨[.frame json], by rw [left]; rfl, after⟩
      · obtain ⟨left, after⟩ := wrote.write_long writing queue (Nat.lt_of_not_le fits)
        exact ⟨.frame json :: rest, by rw [left, List.append_nil], after⟩

end Write

theorem step (wrote : Wrote room taken transport) (event : Event) :
    ∃ now, transport.queue ++ transport.queuedBy event = now ++ (transport.step event).1.queue ∧
      Wrote room (taken ++ now) (transport.step event).1 := by
  by_cases writes : event = .incident .write
  · subst writes
    obtain ⟨now, split, after⟩ := wrote.write
    exact ⟨now, (List.append_nil _).trans split, after⟩
  · refine ⟨[], (queue_of_queues writes).symm, ?_⟩
    rw [List.append_nil]
    exact wrote.queues (Queues.step transport writes)

theorem run (wrote : Wrote room taken transport) (events : List Event) :
    ∃ now, transport.queue ++ transport.queued events = now ++ (transport.run events).1.queue ∧
      Wrote room (taken ++ now) (transport.run events).1 := by
  induction events generalizing taken transport with
  | nil =>
    refine ⟨[], List.append_nil _, ?_⟩
    rw [List.append_nil]
    exact wrote
  | cons event rest ih =>
    obtain ⟨now, split, after⟩ := wrote.step event
    obtain ⟨later, rest_split, last⟩ := ih after
    refine ⟨now ++ later, ?_, ?_⟩
    · rw [queued, ← List.append_assoc, split, List.append_assoc, rest_split, List.append_assoc]
      rfl
    · rw [← List.append_assoc]
      exact last

theorem turns (wrote : Wrote room taken transport) {commands : List Command}
    (enough : transport.queue.length ≤ commands.length) :
    (commands.foldl (fun transport _ => transport.write) transport).queue = [] ∧
      Wrote room (taken ++ transport.queue)
        (commands.foldl (fun transport _ => transport.write) transport) := by
  induction commands generalizing taken transport with
  | nil =>
    have empty := List.eq_nil_of_length_eq_zero (Nat.le_zero.mp enough)
    rw [empty, List.append_nil]
    exact ⟨empty, wrote⟩
  | cons command rest ih =>
    obtain ⟨now, split, after⟩ := wrote.write
    have fewer : transport.write.queue.length ≤ rest.length :=
      Nat.le_trans (length_queue_write transport) (Nat.sub_le_of_le_add enough)
    rw [split, ← List.append_assoc]
    exact ih after fewer

end Wrote

/-- What has been sent of the commands `sent`, where `taken` are those that the writer has
taken up. -/
structure Sends (room : Nat) (sent taken : List Command) (transport : Transport) : Prop where
  order : sent = taken ++ transport.queue
  stopped_iff : transport.writing = false ↔
    Command.close ∈ taken ∨ room < ((untilClose taken).flatMap encode).length
  truncated : Truncated room (untilClose taken) transport.sink.written

theorem Wrote.sends {room : Nat} {sent taken : List Command} {transport : Transport}
    (wrote : Wrote room taken transport) (order : sent = taken ++ transport.queue)
    (sendable : ∀ json, .frame json ∈ sent → Sendable json) :
    Sends room sent taken transport where
  order := order
  stopped_iff := by
    constructor
    · exact fun still => (wrote.stopped still).2
    · intro ended
      cases writing : transport.writing with
      | false => rfl
      | true =>
        obtain ⟨opened, fits⟩ := wrote.going writing
        exact (ended.elim opened (Nat.not_lt.mpr fits)).elim
  truncated := by
    rw [wrote.sink]
    refine truncated_take (fun json member => sendable json ?_) room
    rw [order]
    exact List.mem_append_left _ (mem_of_mem_untilClose member)

def startLimited (requestTimeout : Option Duration) (room : Nat) : Transport :=
  { start requestTimeout with sink := .limited room }

theorem wrote_start (limit : Option Duration) (room : Nat) :
    Wrote room [] (startLimited limit room) :=
  ⟨by simp [startLimited, untilClose, Sink.limited],
    fun _ => ⟨List.not_mem_nil, Nat.zero_le _⟩, nofun⟩

/-- Bytes are lost only behind whole frames, and a reader notices: for messages written one
by one, and for the commands that a transport queues in whatever it goes through, while the
writer is at work and when it has taken up everything. -/
theorem outbound_truncates (room : Nat) {messages : List Json}
    (sendable : ∀ message ∈ messages, Sendable message) (limit : Option Duration)
    (events : List Event)
    (sendable_queued : ∀ json, .frame json ∈ (startLimited limit room).queued events →
      Sendable json) :
    Truncated room messages ((Sink.limited room).writeAll messages).1.written ∧
    (∀ place, ((Sink.limited room).writeAll messages).2[place]? = some (.ok ()) ↔
      place < messages.length ∧ ((messages.take (place + 1)).flatMap encode).length ≤ room) ∧
    (∃ taken, Sends room ((startLimited limit room).queued events) taken
      ((startLimited limit room).run events).1) ∧
    Sends room ((startLimited limit room).queued events) ((startLimited limit room).queued events)
      ((startLimited limit room).run events).1.flush := by
  obtain ⟨taken, order, wrote⟩ := (wrote_start limit room).run events
  obtain ⟨empty, flushed⟩ := wrote.turns (Nat.le_refl _)
  refine ⟨?_, ?_, ⟨taken, wrote.sends order sendable_queued⟩, ?_⟩
  · have written : ((Sink.limited room).writeAll messages).1.written =
        (messages.flatMap encode).take room := by
      rw [Sink.limited, Sink.writeAll_limited, List.nil_append]
    rw [written]
    exact truncated_take sendable room
  · intro place
    rw [Sink.limited, Sink.writeAll_ok_iff, lt_fitting_iff]
  · refine Wrote.sends ?_ ?_ sendable_queued
    · have all : (startLimited limit room).queued events =
          [] ++ taken ++ ((startLimited limit room).run events).1.queue := order
      rw [all]
      exact flushed
    · rw [flush, empty, List.append_nil]

/-- The second message is torn, and so is the notification. -/
def tornMessages : List Json := [.null, .str "a"]

def tornEvents : List Event := [.notify "exit" none, .incident .close]

theorem outbound_truncates_torn :
    (∀ message ∈ tornMessages, Sendable message) ∧
    (∀ json, .frame json ∈ (startLimited none 40).queued tornEvents → Sendable json) ∧
    Truncated 40 tornMessages ((Sink.limited 40).writeAll tornMessages).1.written ∧
    Sends 40 ((startLimited none 40).queued tornEvents) ((startLimited none 40).queued tornEvents)
      ((startLimited none 40).run tornEvents).1.flush := by
  have sendable : ∀ message ∈ tornMessages, Sendable message := by
    intro message member
    simp only [tornMessages, List.mem_cons, List.not_mem_nil, or_false] at member
    rcases member with rfl | rfl
    · exact ⟨.null, by decide +kernel, by decide +kernel⟩
    · exact ⟨.str _, by decide +kernel, by decide +kernel⟩
  have sendable_queued :
      ∀ json, .frame json ∈ (startLimited none 40).queued tornEvents → Sendable json := by
    intro json member
    have commands : (startLimited none 40).queued tornEvents =
        [.frame (.obj [("jsonrpc", .str "2.0"), ("method", .str "exit")]), .close] := rfl
    simp only [commands, List.mem_cons, List.not_mem_nil, or_false, reduceCtorEq,
      Command.frame.injEq] at member
    subst member
    refine ⟨.obj ?_ ?_, ?_, ?_⟩
    · exact List.pairwise_pair.mpr (by decide +kernel)
    · simp only [List.mem_cons, List.not_mem_nil, or_false]
      rintro field (rfl | rfl) <;> exact .str _
    · decide +kernel
    · decide +kernel
  have truncates := outbound_truncates 40 sendable none tornEvents sendable_queued
  exact ⟨sendable, sendable_queued, truncates.1, truncates.2.2.2⟩

end WorkspaceServers.Transport
