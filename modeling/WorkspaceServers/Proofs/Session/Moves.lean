import WorkspaceServers.Proofs.Session.Serving
import WorkspaceServers.Proofs.Transport.Runs
import WorkspaceServers.Session.Run

/-!
What one event can do to where a session stands in its life. There are three kinds of
moves: nothing changes, the one server is launched, or the server that is there goes on
and its transport with it, perhaps into a later stage.
-/

namespace WorkspaceServers.Session

/-- The lifecycle before and after an event, and what the event left in the record. -/
inductive Move (limit : Option Duration) : Lifecycle → Lifecycle → Record → Prop where
  | idle {lifecycle : Lifecycle} {record : Record} (launched : record.launched = [])
      (silent : record.signals = 0) : Move limit lifecycle lifecycle record
  | launch {record : Record} (command : Launch.Command) (events : List Transport.Event)
      (launched : record.launched = [command]) (silent : record.signals = 0) :
      Move limit .uninitialized
        (.initialized ⟨((Transport.start limit).run events).1, false⟩) record
  | serve {before after : Lifecycle} {record : Record} {server : Server}
      (events : List Transport.Event) (signalled : Bool)
      (old : before.server? = some server)
      (new : after.server? = some ⟨(server.transport.run events).1, signalled⟩)
      (forward : before.stage.rank ≤ after.stage.rank)
      (ends : after.stage = .exited →
        before.stage = .exited ∨ events = [.incident .close])
      (launched : record.launched = [])
      (told : server.signalled.toNat + record.signals = signalled.toNat) :
      Move limit before after record

def Moves (session after : Session) (record : Record) : Prop :=
  ∃ lifecycle, after = { session with lifecycle } ∧
    Move session.options.requestTimeout session.lifecycle lifecycle record

namespace Lifecycle

@[simp] theorem server?_onServer (change : Server → Server) (lifecycle : Lifecycle) :
    (lifecycle.onServer change).server? = lifecycle.server?.map change := by
  cases lifecycle <;> rfl

@[simp] theorem stage_onServer (change : Server → Server) (lifecycle : Lifecycle) :
    (lifecycle.onServer change).stage = lifecycle.stage := by
  cases lifecycle <;> rfl

theorem live_of_running {lifecycle : Lifecycle} {server : Server}
    (running : lifecycle.running = .ok server) :
    lifecycle.server? = some server ∧ lifecycle.stage ≠ .exited := by
  cases lifecycle with
  | uninitialized => cases running
  | exited _ => cases running
  | initialized _ | shuttingDown _ =>
    cases running
    exact ⟨rfl, by simp [stage]⟩

end Lifecycle

variable {session : Session} {server : Server}

theorem server?_setServer (found : session.server? = some server) (new : Server) :
    (session.setServer new).server? = some new := by
  unfold server? at found
  unfold server? setServer
  rw [Lifecycle.server?_onServer, found]
  rfl

theorem moves_finished (session : Session) (result : Except Failure Reply) :
    Moves session (session.finished result).session (.ofStarted (session.finished result)) :=
  ⟨session.lifecycle, rfl, .idle rfl rfl⟩

theorem ask_effect (session : Session) (server : Server) (question : Question)
    (params : Option Json) :
    (session.ask server question params).session =
        session.setServer
          ⟨(server.transport.run [.request question.method params]).1, server.signalled⟩ ∧
      (session.ask server question params).launched = none ∧
      (session.ask server question params).signalled = false := by
  simp only [ask, Transport.run_cons, Transport.run_nil, Transport.step]
  rcases server.transport.request question.method params with ⟨transport, id, failure⟩
  cases failure <;> exact ⟨rfl, rfl, rfl⟩

theorem tell_effect (session : Session) (server : Server) (method : String)
    (params : Option Json) :
    (session.tell server method params).session =
        session.setServer
          ⟨(server.transport.run [.notify method params]).1, server.signalled⟩ ∧
      (session.tell server method params).launched = none ∧
      (session.tell server method params).signalled = false :=
  ⟨rfl, rfl, rfl⟩

theorem moves_setServer (found : session.server? = some server) (events : List Transport.Event)
    (signalled : Bool) {record : Record} (launched : record.launched = [])
    (told : server.signalled.toNat + record.signals = signalled.toNat) :
    Moves session (session.setServer ⟨(server.transport.run events).1, signalled⟩) record := by
  refine ⟨_, rfl, .serve events signalled found ?_ (by simp) (fun exited => .inl ?_) launched told⟩
  · rw [Lifecycle.server?_onServer, show session.lifecycle.server? = some server from found]
    rfl
  · rwa [Lifecycle.stage_onServer] at exited

theorem moves_ask (running : session.lifecycle.running = .ok server) (question : Question)
    (params : Option Json) :
    Moves session (session.ask server question params).session
      (.ofStarted (session.ask server question params)) := by
  obtain ⟨asked, launched, signalled⟩ := ask_effect session server question params
  rw [asked]
  exact moves_setServer (Lifecycle.live_of_running running).1 _ _
    (by simp [Record.ofStarted, launched]) (by simp [Record.ofStarted, signalled])

theorem moves_tell (running : session.lifecycle.running = .ok server) (method : String)
    (params : Option Json) :
    Moves session (session.tell server method params).session
      (.ofStarted (session.tell server method params)) := by
  obtain ⟨told, launched, signalled⟩ := tell_effect session server method params
  rw [told]
  exact moves_setServer (Lifecycle.live_of_running running).1 _ _
    (by simp [Record.ofStarted, launched]) (by simp [Record.ofStarted, signalled])

theorem moves_of_serves {started : Started} (serves : Serves session started) :
    Moves session started.session (.ofStarted started) := by
  cases serves with
  | idle _ | astray _ _ => exact moves_finished session _
  | told running method params => exact moves_tell running method params
  | asked running question params => exact moves_ask running question params

theorem moves_greet (machine : Launch.Machine) (session : Session) (context : Launch.Context) :
    Moves session (session.greet machine context).session
      (.ofStarted (session.greet machine context)) := by
  unfold greet
  split
  · exact moves_finished session _
  · exact moves_finished session _
  · exact moves_finished session _
  -- Only a session without a server comes to the preparations, and they may still fail.
  · rename_i fresh
    split
    · exact moves_finished session _
    · rename_i command rootUri _
      obtain ⟨asked, _, signalled⟩ := ask_effect
        { session with lifecycle := .initialized ⟨.start session.options.requestTimeout, false⟩ }
        ⟨.start session.options.requestTimeout, false⟩ .handshake
        (some (Rpc.handshakeParams machine.processId rootUri session.identity.slug))
      refine ⟨.initialized ⟨_, false⟩, asked, ?_⟩
      rw [fresh]
      exact .launch command _ rfl (by simp [Record.ofStarted, signalled])

theorem moves_shuttingDown (running : session.lifecycle.running = .ok server) :
    Moves session
      (({ session with lifecycle := .shuttingDown server } : Session).ask server .shutdown
        none).session
      (.ofStarted (({ session with lifecycle := .shuttingDown server } : Session).ask server
        .shutdown none)) := by
  obtain ⟨asked, launched, signalled⟩ := ask_effect
    { session with lifecycle := .shuttingDown server } server .shutdown none
  refine ⟨.shuttingDown ⟨_, server.signalled⟩, asked, ?_⟩
  refine .serve _ _ (Lifecycle.live_of_running running).1 rfl ?_ nofun
    (by simp [Record.ofStarted, launched]) (by simp [Record.ofStarted, signalled])
  cases stands : session.lifecycle <;> rw [stands] at running <;> cases running <;>
    simp [Lifecycle.stage, Stage.rank]

theorem moves_beginShutdown (session : Session) :
    Moves session session.beginShutdown.session (.ofStarted session.beginShutdown) := by
  unfold beginShutdown
  split
  · exact moves_finished session _
  · exact moves_finished session _
  · rename_i stands
    exact moves_shuttingDown (by rw [stands]; rfl)
  · rename_i stands
    exact moves_shuttingDown (by rw [stands]; rfl)

theorem moves_leave (session : Session) :
    Moves session session.leave.session (.ofStarted session.leave) := by
  unfold leave
  cases running : session.lifecycle.running with
  | error failure => exact moves_finished session _
  | ok server =>
    -- The notification is one step of the transport, also where it is refused.
    refine moves_setServer (Lifecycle.live_of_running running).1 [.notify "exit" none] true
      rfl ?_
    cases told : server.signalled <;> simp [Record.ofStarted, told]

theorem moves_start (machine : Launch.Machine) (session : Session) (operation : Operation) :
    Moves session (session.start machine operation).session
      (.ofStarted (session.start machine operation)) := by
  cases operation with
  | handshake context => exact moves_greet machine session context
  | confirm | openDocument _ _ | symbols _ | hover _ _ _ | definition _ _ _ =>
    exact moves_of_serves (serves_start machine session rfl)
  | shutdown => exact moves_beginShutdown session
  | exit => exact moves_leave session

theorem moves_incident (session : Session) (incident : Transport.Incident) (machine) :
    Moves session (session.step machine (.incident incident)).1
      (session.step machine (.incident incident)).2 := by
  simp only [step, withTransport]
  cases found : session.server? with
  | none => exact ⟨session.lifecycle, rfl, .idle rfl rfl⟩
  | some server => exact moves_setServer found [.incident incident] server.signalled rfl rfl

theorem moves_processEnded (machine : Launch.Machine) (session : Session) :
    Moves session (session.step machine .processEnded).1
      (session.step machine .processEnded).2 := by
  simp only [step, processEnded]
  cases stands : session.lifecycle with
  | uninitialized => exact ⟨session.lifecycle, rfl, .idle rfl rfl⟩
  | exited server => exact ⟨session.lifecycle, rfl, .idle rfl rfl⟩
  | initialized server | shuttingDown server =>
    refine ⟨_, rfl, ?_⟩
    rw [stands]
    exact .serve [.incident .close] server.signalled rfl rfl
      (by simp [Lifecycle.stage, Stage.rank]) (fun _ => .inr rfl) rfl rfl

theorem moves_step (machine : Launch.Machine) (session : Session) (event : Event) :
    Moves session (session.step machine event).1 (session.step machine event).2 := by
  cases event with
  | start operation => exact moves_start machine session operation
  | incident incident => exact moves_incident session incident machine
  | processEnded => exact moves_processEnded machine session

end WorkspaceServers.Session
