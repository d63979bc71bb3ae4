import WorkspaceServers.Proofs.Session.Moves
import WorkspaceServers.Proofs.Transport.Replies
import WorkspaceServers.Proofs.Transport.Slots

/-!
What each operation of a session says to the server. As long as frames are taken an
operation queues its one frame under the id that is free; otherwise it queues nothing and,
unless it is one that ends the session, it fails.
-/

namespace WorkspaceServers.Session

variable {session : Session} {server : Server} {id : UInt64}

/-- The operation has queued this frame, and the next request takes the id `next`. -/
structure Speaks (session : Session) (started : Started) (json : Json) (next : UInt64) : Prop where
  queue : started.session.queue = session.queue ++ [.frame json]
  slot : started.session.slot? = some next
  root : started.session.root = session.root

structure Hushed (session : Session) (started : Started) : Prop where
  queue : started.session.queue = session.queue
  slot : started.session.slot? = none
  root : started.session.root = session.root

section Servers

theorem running_setServer (running : session.lifecycle.running = .ok server) (new : Server) :
    (session.setServer new).lifecycle.running = .ok new := by
  cases stands : session.lifecycle with
  | uninitialized | exited _ => rw [stands] at running; cases running
  | initialized _ | shuttingDown _ => simp only [setServer, stands]; rfl

theorem queue_of_running (running : session.lifecycle.running = .ok server) :
    session.queue = server.transport.queue := by
  rw [queue, transport?, server?, (Lifecycle.live_of_running running).1]
  rfl

theorem slot?_of_running (running : session.lifecycle.running = .ok server) :
    session.slot? = server.transport.slot? := by
  rw [slot?, running]

theorem running_of_slot (slot : session.slot? = some id) :
    ∃ server, session.lifecycle.running = .ok server ∧ server.transport.slot? = some id := by
  unfold slot? at slot
  split at slot
  · rename_i server running
    exact ⟨server, running, slot⟩
  · cases slot

variable {started : Started} {new : Server}

theorem speaks_of_setServer (running : session.lifecycle.running = .ok server)
    (came : started.session = session.setServer new) {json : Json} {next : UInt64}
    (queue : new.transport.queue = server.transport.queue ++ [.frame json])
    (slot : new.transport.slot? = some next) : Speaks session started json next where
  queue := by
    rw [came, queue_of_running (running_setServer running new), queue, queue_of_running running]
  slot := by rw [came, slot?_of_running (running_setServer running new), slot]
  root := by rw [came]; rfl

theorem hushed_of_setServer (running : session.lifecycle.running = .ok server)
    (came : started.session = session.setServer new)
    (queue : new.transport.queue = server.transport.queue)
    (shut : new.transport.slot? = none) : Hushed session started where
  queue := by
    rw [came, queue_of_running (running_setServer running new), queue, queue_of_running running]
  slot := by rw [came, slot?_of_running (running_setServer running new), shut]
  root := by rw [came]; rfl

theorem hushed_finished (shut : session.slot? = none) (result : Except Failure Reply) :
    Hushed session (session.finished result) :=
  ⟨rfl, shut, rfl⟩

end Servers

section Asking

theorem ask_speaks (running : session.lifecycle.running = .ok server)
    (slot : server.transport.slot? = some id) (question : Question) (params : Option Json) :
    Speaks session (session.ask server question params)
        (Rpc.request id question.method params) (id + 1) ∧
      (session.ask server question params).progress = .waiting id question := by
  obtain ⟨next, requested, queue, free⟩ :=
    Transport.request_of_slot slot question.method params
  have asked : session.ask server question params =
      ⟨session.setServer { server with transport := next }, .waiting id question, none, false⟩ := by
    simp only [ask, requested]
  rw [asked]
  exact ⟨speaks_of_setServer running rfl queue free, rfl⟩

theorem ask_hushed (running : session.lifecycle.running = .ok server)
    (shut : server.transport.slot? = none) (question : Question) (params : Option Json) :
    Hushed session (session.ask server question params) ∧
      (session.ask server question params).progress = .finished (.error .terminated) := by
  obtain ⟨next, requested, queue, taken⟩ :=
    Transport.request_of_no_slot shut question.method params
  have asked : session.ask server question params =
      (session.setServer { server with transport := next }).finished (.error .terminated) := by
    simp only [ask, requested]
  rw [asked]
  exact ⟨hushed_of_setServer running rfl queue taken, rfl⟩

variable {method : String} {params : Option Json}

theorem tell_speaks (running : session.lifecycle.running = .ok server)
    (slot : server.transport.slot? = some id) :
    Speaks session (session.tell server method params) (Rpc.notification method params) id ∧
      (session.tell server method params).progress = .finished (.ok .done) := by
  have told := Transport.notify_of_slot slot method params
  have came : (session.tell server method params).session =
      session.setServer { server with transport := (server.transport.notify method params).1 } :=
    rfl
  refine ⟨speaks_of_setServer running came ?_ ?_, ?_⟩
  · rw [told]
  · rw [told]
    exact slot
  · simp only [tell, told]
    rfl

theorem tell_hushed (running : session.lifecycle.running = .ok server)
    (shut : server.transport.slot? = none) :
    Hushed session (session.tell server method params) ∧
      (session.tell server method params).progress = .finished (.error .terminated) := by
  have told := Transport.notify_of_no_slot shut method params
  have came : (session.tell server method params).session =
      session.setServer { server with transport := (server.transport.notify method params).1 } :=
    rfl
  refine ⟨hushed_of_setServer running came ?_ ?_, ?_⟩
  · rw [told]
  · rw [told]
    exact shut
  · simp only [tell, told]
    rfl

end Asking

section Operations

variable {machine : Launch.Machine} {uri languageId : String} {json : Json}

/-- The frame of an operation on a live server, under the id that is free and with the URI
and the language of its document. -/
def Operation.frame? (id : UInt64) (uri languageId : String) : Operation → Option Json
  | .handshake _ => none
  | .confirm => some (Rpc.notification "initialized" (some (.object [])))
  | .openDocument _ text =>
    some (Rpc.notification "textDocument/didOpen" (some (Rpc.openParams uri languageId text)))
  | .symbols _ =>
    some (Rpc.request id "textDocument/documentSymbol" (some (Rpc.documentParams uri)))
  | .hover _ line character =>
    some (Rpc.request id "textDocument/hover" (some (Rpc.positionParams uri line character)))
  | .definition _ line character =>
    some (Rpc.request id "textDocument/definition" (some (Rpc.positionParams uri line character)))
  | .shutdown => some (Rpc.request id "shutdown" none)
  | .exit => some (Rpc.notification "exit" none)

def Operation.document? : Operation → Option String
  | .openDocument document _ | .symbols document | .hover document _ _
  | .definition document _ _ => some document
  | .handshake _ | .confirm | .shutdown | .exit => none

def Operation.asks : Operation → Bool
  | .handshake _ | .symbols _ | .hover _ _ _ | .definition _ _ _ | .shutdown => true
  | .confirm | .openDocument _ _ | .exit => false

/-- The operation ends the session, and how that goes does not matter. -/
def Operation.ends : Operation → Bool
  | .shutdown | .exit => true
  | _ => false

theorem withServer_of_running {α : Type} {prepare : Except Failure α} {value : α}
    {act : Server → α → Started} (running : session.lifecycle.running = .ok server)
    (prepared : prepare = .ok value) : session.withServer prepare act = act server value := by
  simp only [withServer, running, prepared]

theorem documentUri_ok {document : String}
    (known : Workspace.documentUri? session.root document = some uri) :
    session.documentUri document = .ok uri := by
  simp only [documentUri, known]

theorem beginShutdown_of_running (running : session.lifecycle.running = .ok server) :
    session.beginShutdown =
      ({ session with lifecycle := .shuttingDown server } : Session).ask server .shutdown none := by
  unfold beginShutdown
  cases stands : session.lifecycle with
  | uninitialized | exited _ => rw [stands] at running; cases running
  | initialized _ | shuttingDown _ => rw [stands] at running; cases running; rfl

theorem running_shuttingDown (session : Session) (server : Server) :
    ({ session with lifecycle := .shuttingDown server } : Session).lifecycle.running = .ok server :=
  rfl

theorem queue_shuttingDown (running : session.lifecycle.running = .ok server) :
    ({ session with lifecycle := .shuttingDown server } : Session).queue = session.queue :=
  (queue_of_running rfl).trans (queue_of_running running).symm

theorem shutdown_speaks (slot : session.slot? = some id) :
    Speaks session session.beginShutdown (Rpc.request id "shutdown" none) (id + 1) := by
  obtain ⟨server, running, free⟩ := running_of_slot slot
  rw [beginShutdown_of_running running]
  have asked := (ask_speaks (running_shuttingDown session server) free .shutdown none).1
  refine ⟨?_, asked.slot, asked.root⟩
  rw [asked.queue, queue_shuttingDown running]
  rfl

theorem exit_speaks (slot : session.slot? = some id) :
    Speaks session session.leave (Rpc.notification "exit" none) id ∧
      session.leave.progress = .finished (.ok .done) := by
  obtain ⟨server, running, free⟩ := running_of_slot slot
  have told := Transport.notify_of_slot free "exit" none
  have came : session.leave = ⟨session.setServer ⟨(server.transport.notify "exit" none).1, true⟩,
      .finished (.ok .done), none, !server.signalled⟩ := by
    simp only [leave, running]
  rw [came]
  refine ⟨speaks_of_setServer running rfl ?_ ?_, rfl⟩
  · rw [told]
  · rw [told]
    exact free

/-- One frame for each operation. What asks takes the id with it, and what does not ask is
done. -/
theorem start_speaks (machine : Launch.Machine) (slot : session.slot? = some id)
    (operation : Operation) (framed : operation.frame? id uri languageId = some json)
    (known : ∀ document, operation.document? = some document →
      Workspace.documentUri? session.root document = some uri ∧
        (Workspace.documentLanguage session.root document).id = languageId) :
    Speaks session (session.start machine operation) json
        (if operation.asks then id + 1 else id) ∧
      (operation.asks = false →
        (session.start machine operation).progress = .finished (.ok .done)) := by
  -- A slot means a live server, so no case fails before its frame.
  obtain ⟨server, running, free⟩ := running_of_slot slot
  cases operation with
  | handshake context => cases framed
  | confirm =>
    cases framed
    rw [start, withServer_of_running running rfl]
    exact ⟨(tell_speaks running free).1, fun _ => (tell_speaks running free).2⟩
  | openDocument document text =>
    cases framed
    obtain ⟨found, rfl⟩ := known document rfl
    rw [start, withServer_of_running running (documentUri_ok found)]
    exact ⟨(tell_speaks running free).1, fun _ => (tell_speaks running free).2⟩
  | symbols document | hover document line character | definition document line character =>
    cases framed
    rw [start, withServer_of_running running (documentUri_ok (known document rfl).1)]
    exact ⟨(ask_speaks running free _ _).1, nofun⟩
  | shutdown =>
    cases framed
    exact ⟨shutdown_speaks slot, nofun⟩
  | exit =>
    cases framed
    exact ⟨(exit_speaks slot).1, fun _ => (exit_speaks slot).2⟩

theorem hushed_of_serves (shut : session.slot? = none) {started : Started}
    (serves : Serves session started) :
    Hushed session started ∧ ∃ failure, started.progress = .finished (.error failure) := by
  cases serves with
  | idle _ | astray _ _ => exact ⟨hushed_finished shut _, _, rfl⟩
  | told running method params =>
    obtain ⟨hushed, failed⟩ := tell_hushed running (slot?_of_running running ▸ shut)
    exact ⟨hushed, _, failed⟩
  | asked running question params =>
    obtain ⟨hushed, failed⟩ := ask_hushed running (slot?_of_running running ▸ shut) question params
    exact ⟨hushed, _, failed⟩

theorem beginShutdown_hushed (shut : session.slot? = none) :
    Hushed session session.beginShutdown ∧
      ∃ result, session.beginShutdown.progress = .finished result := by
  cases running : session.lifecycle.running with
  | error failure =>
    unfold beginShutdown
    cases stands : session.lifecycle with
    | uninitialized | exited _ => exact ⟨hushed_finished shut _, _, rfl⟩
    | initialized _ | shuttingDown _ => rw [stands] at running; cases running
  | ok server =>
    rw [beginShutdown_of_running running]
    obtain ⟨asked, failed⟩ := ask_hushed (running_shuttingDown session server)
      (slot?_of_running running ▸ shut) .shutdown none
    exact ⟨⟨by rw [asked.queue, queue_shuttingDown running], asked.slot, asked.root⟩, _, failed⟩

theorem leave_hushed (shut : session.slot? = none) :
    Hushed session session.leave ∧ ∃ result, session.leave.progress = .finished result := by
  unfold leave
  cases running : session.lifecycle.running with
  | error failure => exact ⟨hushed_finished shut _, _, rfl⟩
  | ok server =>
    have taken := slot?_of_running running ▸ shut
    have told := Transport.notify_of_no_slot taken "exit" none
    refine ⟨hushed_of_setServer running rfl ?_ ?_, _, rfl⟩
    · rw [told]
    · rw [told]
      exact taken

/-- Where no frames are taken nothing is queued and nothing waits. -/
theorem start_hushed (machine : Launch.Machine) (shut : session.slot? = none)
    (operation : Operation) (later : ∀ context, operation ≠ .handshake context) :
    Hushed session (session.start machine operation) ∧
      ∃ result, (session.start machine operation).progress = .finished result ∧
        (operation.ends = false → result.isOk = false) := by
  have failing {started : Started} (serves : Serves session started) :
      Hushed session started ∧ ∃ result, started.progress = .finished result ∧
        (operation.ends = false → result.isOk = false) := by
    obtain ⟨hushed, failure, failed⟩ := hushed_of_serves shut serves
    exact ⟨hushed, .error failure, failed, fun _ => rfl⟩
  cases operation with
  | handshake context => exact absurd rfl (later context)
  | confirm | openDocument _ _ | symbols _ | hover _ _ _ | definition _ _ _ =>
    exact failing (serves_start machine session rfl)
  | shutdown =>
    obtain ⟨hushed, result, finished⟩ := beginShutdown_hushed shut
    exact ⟨hushed, result, finished, nofun⟩
  | exit =>
    obtain ⟨hushed, result, finished⟩ := leave_hushed shut
    exact ⟨hushed, result, finished, nofun⟩

theorem handshake_speaks (fresh : session.lifecycle = .uninitialized) {context : Launch.Context}
    {command : Launch.Command} {rootUri : String}
    (prepared : session.prepareLaunch machine context = .ok (command, rootUri)) :
    Speaks session (session.start machine (.handshake context))
      (Rpc.request 1 "initialize"
        (some (Rpc.handshakeParams machine.processId rootUri session.identity.slug))) 2 := by
  let server : Server := ⟨.start session.options.requestTimeout, false⟩
  let launched : Session := { session with lifecycle := .initialized server }
  have begun : (session.start machine (.handshake context)).session =
      (launched.ask server .handshake
        (some (Rpc.handshakeParams machine.processId rootUri session.identity.slug))).session := by
    simp only [start, greet, fresh, prepared]
    rfl
  have running : launched.lifecycle.running = .ok server := rfl
  have free : server.transport.slot? = some 1 := rfl
  have asked := (ask_speaks running free .handshake
    (some (Rpc.handshakeParams machine.processId rootUri session.identity.slug))).1
  -- The queue begins with the launch.
  have empty : session.queue = [] := by simp [queue, transport?, server?, fresh, Lifecycle.server?]
  refine ⟨?_, ?_, ?_⟩
  · rw [begun, asked.queue, empty, queue_of_running rfl]
    rfl
  · rw [begun, asked.slot]
    rfl
  · rw [begun, asked.root]

end Operations

section Time

/-- What happens besides the operations keeps the slot or takes it away. -/
structure Fades (before after : Session) : Prop where
  slot : after.slot? = before.slot? ∨ after.slot? = none
  root : after.root = before.root

theorem Fades.refl (session : Session) : Fades session session := ⟨.inl rfl, rfl⟩

theorem Fades.trans {before between after : Session} (first : Fades before between)
    (second : Fades between after) : Fades before after where
  slot := by
    rcases second.slot with kept | lost
    · rw [kept]
      exact first.slot
    · exact .inr lost
  root := second.root.trans first.root

theorem fades_withTransport
    {event : Transport → Transport × List Transport.Resolution}
    (keeps : ∀ transport : Transport, (event transport).1.slot? = transport.slot? ∨
      (event transport).1.slot? = none) (session : Session) :
    Fades session (session.withTransport event).1 := by
  simp only [withTransport]
  cases found : session.server? with
  | none => exact .refl session
  | some server =>
    refine ⟨?_, rfl⟩
    cases running : session.lifecycle.running with
    | ok live =>
      have same : server = live :=
        Option.some.inj (found.symm.trans (Lifecycle.live_of_running running).1)
      subst same
      rw [slot?_of_running (running_setServer running _), slot?_of_running running]
      exact keeps server.transport
    | error failure =>
      -- Behind the end of the process the transport is still there, but takes nothing.
      right
      cases stands : session.lifecycle with
      | uninitialized | exited _ => simp only [slot?, setServer, stands]; rfl
      | initialized _ | shuttingDown _ => rw [stands] at running; cases running

theorem fades_processEnded (session : Session) : Fades session session.processEnded.1 := by
  unfold processEnded
  cases stands : session.lifecycle with
  | uninitialized | exited _ => exact .refl session
  | initialized _ | shuttingDown _ => exact ⟨.inr rfl, rfl⟩

theorem replies_withTransport
    {event : Transport → Transport × List Transport.Resolution}
    (replies : ∀ transport : Transport,
      ∀ command ∈ (event transport).1.queue.drop transport.queue.length, command.IsReply)
    (session : Session) :
    ∀ command ∈ (session.withTransport event).1.queue.drop session.queue.length,
      command.IsReply := by
  simp only [withTransport]
  cases found : session.server? with
  | none => simp
  | some server =>
    have before : session.queue = server.transport.queue := by simp [queue, transport?, found]
    have after : (session.setServer { server with transport := (event server.transport).1 }).queue =
        (event server.transport).1.queue := by
      cases stands : session.lifecycle with
      | uninitialized => rw [server?, stands] at found; cases found
      | initialized _ | shuttingDown _ | exited _ =>
        simp [queue, transport?, server?, setServer, stands, Lifecycle.server?, Lifecycle.onServer]
    rw [before, after]
    exact replies server.transport

theorem replies_processEnded (session : Session) :
    ∀ command ∈ session.processEnded.1.queue.drop session.queue.length, command.IsReply := by
  unfold processEnded
  cases stands : session.lifecycle with
  | uninitialized | exited _ => simp
  | initialized server | shuttingDown server =>
    have before : session.queue = server.transport.queue := by
      simp [queue, transport?, server?, stands, Lifecycle.server?]
    rw [before]
    exact (Transport.Replies.close server.transport).drop_queue

end Time

end WorkspaceServers.Session
