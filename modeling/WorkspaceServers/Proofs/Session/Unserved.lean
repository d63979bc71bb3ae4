import WorkspaceServers.Proofs.Session.Grounds
import WorkspaceServers.Proofs.Session.Waiting

/-!
Operations that find no server to work with. Before the launch and after the end they fail,
whatever their arguments, and leave the session as it is. Over a closed transport nothing is
queued and nobody waits, but a shutdown still moves the session on, and an exit still tells the
server to end.
-/

namespace WorkspaceServers

/-- All that is asked of a transport fails at once; only its requests are counted on. -/
structure Transport.Refuses (transport : Transport) : Prop where
  request : ∀ method params, transport.request method params =
    ({ transport with nextId := transport.nextId + 1 }, transport.nextId, some .terminated)
  notify : ∀ method params, transport.notify method params = (transport, .error .terminated)
  nobody : transport.pending.waiting = []

theorem Transport.refuses_of_isClosed {transport : Transport}
    (closed : transport.isClosed = true) : transport.Refuses where
  request _ _ := request_of_closed closed
  notify _ _ := notify_of_closed closed
  nobody := transport.pending.empty_of_closed closed

namespace Session

def Server.countedTo (nextId : UInt64) (server : Server) : Server :=
  { server with transport := { server.transport with nextId } }

/-- An operation over the server has queued nothing, nobody waits for it, and no process has been
started. -/
structure Traceless (session : Session) (started : Started) : Prop where
  queue : started.session.queue = session.queue
  nobody : ∀ id, ¬ started.session.Waits id
  no_process : started.launched = none

structure Fruitless (session : Session) (server : Server) (started : Started) : Prop
    extends Traceless session started where
  failed : started.progress = .finished (.error .terminated)
  only_counted : ∃ nextId, started.session = session.setServer (server.countedTo nextId)
  no_signal : started.signalled = false

/-- What becomes of operations once the transport of the live server is closed. -/
structure Deaf (machine : Launch.Machine) (session : Session) (server : Server) : Prop where
  refuses : server.transport.Refuses
  fruitless : ∀ operation, operation.uses = true →
    Fruitless session server (session.start machine operation)
  shutdown_traceless : Traceless session (session.start machine .shutdown)
  shutdown_fails : (session.start machine .shutdown).progress = .finished (.error .terminated)
  shutdown_moves : (session.start machine .shutdown).session = { session with
    lifecycle := .shuttingDown (server.countedTo (server.transport.nextId + 1)) }
  exit_traceless : Traceless session (session.start machine .exit)
  exit_done : (session.start machine .exit).progress = .finished (.ok .done)
  exit_tells : (session.start machine .exit).session =
    session.setServer { server with signalled := true }
  exit_signals : (session.start machine .exit).signalled = !server.signalled

/-- What operations do in a session, as far as they find no server to work with. -/
structure Unserved (machine : Launch.Machine) (session : Session) : Prop where
  same_stage : ∀ operation, operation.uses = true →
    (session.start machine operation).session.stage = session.stage
  no_process : ∀ operation, operation.uses = true →
    (session.start machine operation).launched = none
  uninitialized : session.stage = .uninitialized → ∀ operation, operation.uses = true →
    session.start machine operation = session.finished (.error .notInitialized)
  uninitialized_shutdown : session.stage = .uninitialized →
    session.start machine .shutdown = session.finished (.ok .done)
  exited : session.stage = .exited → ∀ operation, operation.uses = true →
    session.start machine operation = session.finished (.error .terminated)
  exited_shutdown : session.stage = .exited →
    session.start machine .shutdown = session.finished (.error .terminated)
  idle_exit : session.stage = .uninitialized ∨ session.stage = .exited →
    session.start machine .exit = session.finished (.ok .done)
  closed : ∀ server, session.lifecycle.running = .ok server → server.transport.isClosed = true →
    Deaf machine session server

variable {session : Session} {server : Server}

section Stages

theorem stage_setServer (session : Session) (server : Server) :
    (session.setServer server).stage = session.stage :=
  Lifecycle.stage_onServer _ session.lifecycle

theorem stage_of_serves {started : Started} (serves : Serves session started) :
    started.session.stage = session.stage ∧ started.launched = none := by
  cases serves with
  | idle _ | astray _ _ => exact ⟨rfl, rfl⟩
  | told running method params => exact ⟨stage_setServer session _, rfl⟩
  | asked running question params =>
    obtain ⟨asked, launched, -⟩ := ask_effect session _ question params
    rw [asked]
    exact ⟨stage_setServer session _, launched⟩

theorem lifecycle_of_exited (exited : session.stage = .exited) :
    ∃ server, session.lifecycle = .exited server := by
  rw [stage] at exited
  cases stands : session.lifecycle with
  | exited server => exact ⟨server, rfl⟩
  | uninitialized | initialized _ | shuttingDown _ =>
    rw [stands] at exited
    cases exited

end Stages

section Closed

theorem not_waits_of_closed (found : session.server? = some server)
    (closed : server.transport.isClosed = true) (id : UInt64) : ¬ session.Waits id := by
  rintro ⟨transport, method, known, waiting⟩
  have same : server.transport = transport := by simpa [transport?, found] using known
  rw [← same, Transport.find?_of_isClosed closed] at waiting
  cases waiting

theorem traceless_setServer (running : session.lifecycle.running = .ok server) {new : Server}
    {started : Started} (came : started.session = session.setServer new)
    (queue : new.transport.queue = server.transport.queue)
    (closed : new.transport.isClosed = true) (launched : started.launched = none) :
    Traceless session started := by
  have found : session.server? = some server := (Lifecycle.live_of_running running).1
  constructor
  · rw [came, queue_of_running (running_setServer running new), queue, queue_of_running running]
  · rw [came]
    exact not_waits_of_closed (server?_setServer found new) closed
  · exact launched

theorem ask_of_closed (closed : server.transport.isClosed = true) (session : Session)
    (question : Question) (params : Option Json) :
    session.ask server question params =
      (session.setServer (server.countedTo (server.transport.nextId + 1))).finished
        (.error .terminated) := by
  simp only [ask, Transport.request_of_closed closed]
  rfl

theorem tell_of_closed (closed : server.transport.isClosed = true) (session : Session)
    (method : String) (params : Option Json) :
    session.tell server method params =
      (session.setServer server).finished (.error .terminated) := by
  simp only [tell, Transport.notify_of_closed closed]
  rfl

theorem fruitless_setServer (running : session.lifecycle.running = .ok server)
    (closed : server.transport.isClosed = true) (nextId : UInt64) :
    Fruitless session server
      ((session.setServer (server.countedTo nextId)).finished (.error .terminated)) where
  toTraceless := traceless_setServer running rfl rfl closed rfl
  failed := rfl
  only_counted := ⟨nextId, rfl⟩
  no_signal := rfl

theorem fruitless_of_serves (grounded : Grounded session)
    (running : session.lifecycle.running = .ok server)
    (closed : server.transport.isClosed = true) {started : Started}
    (serves : Serves session started) : Fruitless session server started := by
  cases serves with
  | idle absent =>
    rw [running] at absent
    cases absent
  | astray _ absent =>
    -- Under the root of a live server every document has its URI.
    obtain ⟨uri, found⟩ :=
      Workspace.exists_documentUri (grounded_of_running grounded running) _
    rw [found] at absent
    cases absent
  | told running' method params =>
    rw [running] at running'
    cases running'
    rw [tell_of_closed closed]
    exact fruitless_setServer running closed server.transport.nextId
  | asked running' question params =>
    rw [running] at running'
    cases running'
    rw [ask_of_closed closed]
    exact fruitless_setServer running closed _

theorem shutdown_of_closed (running : session.lifecycle.running = .ok server)
    (closed : server.transport.isClosed = true) :
    session.beginShutdown = Session.finished { session with
      lifecycle := .shuttingDown (server.countedTo (server.transport.nextId + 1)) }
      (.error .terminated) := by
  rw [beginShutdown_of_running running, ask_of_closed closed]
  rfl

theorem leave_of_closed (running : session.lifecycle.running = .ok server)
    (closed : server.transport.isClosed = true) :
    session.leave = ⟨session.setServer { server with signalled := true }, .finished (.ok .done),
      none, !server.signalled⟩ := by
  simp only [leave, running, Transport.notify_of_closed closed]

theorem deaf_of_closed (machine : Launch.Machine) (grounded : Grounded session)
    (running : session.lifecycle.running = .ok server)
    (closed : server.transport.isClosed = true) : Deaf machine session server := by
  -- Both go on as over an open transport, but nothing is queued and nobody waits.
  have shuts := shutdown_of_closed running closed
  have leaves := leave_of_closed running closed
  constructor
  · exact Transport.refuses_of_isClosed closed
  · intro operation uses
    exact fruitless_of_serves grounded running closed (serves_start machine session uses)
  · rw [start, shuts]
    constructor
    · rw [queue_of_running running]
      rfl
    · exact not_waits_of_closed rfl closed
    · rfl
  · rw [start, shuts]
    rfl
  · rw [start, shuts]
    rfl
  · rw [start, leaves]
    exact traceless_setServer running rfl rfl closed rfl
  · rw [start, leaves]
  · rw [start, leaves]
  · rw [start, leaves]

end Closed

theorem unserved_of_grounded (machine : Launch.Machine) (grounded : Grounded session) :
    Unserved machine session := by
  constructor
  · intro operation uses
    exact (stage_of_serves (serves_start machine session uses)).1
  · intro operation uses
    exact (stage_of_serves (serves_start machine session uses)).2
  · intro fresh operation uses
    apply (serves_start machine session uses).eq_finished
    rw [lifecycle_of_fresh fresh]
    rfl
  · intro fresh
    simp only [start, beginShutdown, lifecycle_of_fresh fresh]
  · intro exited operation uses
    obtain ⟨server, stands⟩ := lifecycle_of_exited exited
    apply (serves_start machine session uses).eq_finished
    rw [stands]
    rfl
  · intro exited
    obtain ⟨server, stands⟩ := lifecycle_of_exited exited
    simp only [start, beginShutdown, stands]
  · intro idle
    cases idle with
    | inl fresh => simp only [start, leave, lifecycle_of_fresh fresh, Lifecycle.running]
    | inr exited =>
      obtain ⟨server, stands⟩ := lifecycle_of_exited exited
      simp only [start, leave, stands, Lifecycle.running]
  · intro server running closed
    exact deaf_of_closed machine grounded running closed

section Reached

variable {identity : Workspace.Identity} {root : Path} {options : Options}

theorem operations_without_server (machine : Launch.Machine)
    (led : Leads (create identity root options) session) : Unserved machine session :=
  unserved_of_grounded machine (led.grounded (grounded_create identity root options))

/-- A server has been launched, and its transport is closed before it answers. -/
theorem operations_without_server_closed :
    let machine : Launch.Machine := ⟨7, fun _ => some (.ofString "/bin/lsp"), fun _ => true⟩
    let context := Launch.Context.ofList
      [("serverPath", "lsp"), ("SDKPath", "sdk"), ("target", "x86")]
    let fresh := create ⟨"default", "host", "demo"⟩ (.ofString "/demo") .default
    let launched := fresh.turn machine (.event (.start (.handshake context)))
    let cut := launched.turn machine (.event (.incident .close))
    Unserved machine fresh ∧ cut.stage = .initialized ∧
      (cut.start machine (.hover "a" 0 0)).progress = .finished (.error .terminated) ∧
      (cut.start machine .shutdown).session.stage = .shuttingDown ∧
      (cut.start machine .exit).signalled = true := by
  intro machine context fresh launched cut
  have unserved : Unserved machine fresh := operations_without_server machine .refl
  have deafened : Unserved machine cut := operations_without_server machine
    (.turn machine (.event (.incident .close))
      (.turn machine (.event (.start (.handshake context))) .refl))
  have deaf := deafened.closed _ rfl rfl
  have failed := (deaf.fruitless (.hover "a" 0 0) rfl).failed
  have moved : (cut.start machine .shutdown).session.stage = .shuttingDown := by
    rw [deaf.shutdown_moves]
    rfl
  exact ⟨unserved, rfl, failed, moved, deaf.exit_signals⟩

end Reached

end Session

end WorkspaceServers
