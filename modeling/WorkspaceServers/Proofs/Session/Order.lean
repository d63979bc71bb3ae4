import WorkspaceServers.Proofs.Session.Preparing
import WorkspaceServers.Proofs.Session.Utterances

/-!
The order of what a session says. Before the launch nothing is said. The greeting comes
first and only once, and behind it come the frames of the operations, each in its turn.
-/

namespace WorkspaceServers.Session

variable {machine : Launch.Machine} {session : Session} {root : Path}

section Greeting

variable {context : Launch.Context} {command : Launch.Command} {rootUri : String}

def greeting (machine : Launch.Machine) (session : Session) (rootUri : String) : Json :=
  Rpc.request 1 "initialize"
    (some (Rpc.handshakeParams machine.processId rootUri session.identity.slug))

theorem turn_of_fresh (fresh : session.lifecycle = .uninitialized) {turn : Turn}
    (still : turn.operation? = none) : session.turn machine turn = session := by
  cases turn with
  | event event =>
    cases event with
    | start operation => cases still
    | incident incident =>
      simp [Session.turn, step, withTransport, server?, fresh, Lifecycle.server?]
    | processEnded => simp [Session.turn, step, processEnded, fresh]
  | shutSink => simp [Session.turn, withTransport, server?, fresh, Lifecycle.server?]

theorem start_of_fresh (machine : Launch.Machine)
    (fresh : session.lifecycle = .uninitialized) (operation : Operation) :
    (session.start machine operation).session = session ∨
      ∃ context command rootUri, operation = .handshake context ∧
        session.prepareLaunch machine context = .ok (command, rootUri) := by
  cases operation with
  | handshake context =>
    cases prepared : session.prepareLaunch machine context with
    | ok launch => exact .inr ⟨context, launch.1, launch.2, rfl, prepared⟩
    | error failure =>
      left
      simp only [start, greet, fresh, prepared]
      rfl
  | confirm | openDocument _ _ | symbols _ | hover _ _ _ | definition _ _ _ =>
    -- These fail for want of a server before they look at anything else.
    have absent : session.lifecycle.running = .error .notInitialized := by
      rw [fresh]
      rfl
    left
    rw [(serves_start machine session rfl).eq_finished absent]
    rfl
  | shutdown =>
    left
    simp only [start, beginShutdown, fresh]
    rfl
  | exit =>
    left
    simp only [start, leave, fresh, Lifecycle.running]
    rfl

theorem fileUri_of_prepareLaunch
    (prepared : session.prepareLaunch machine context = .ok (command, rootUri)) :
    session.root.fileUri? = some rootUri := by
  rcases prepareLaunch_cases machine session context with
    ⟨failure, -, failed⟩ | ⟨_, _, clear, launched⟩
  · rw [failed] at prepared
    cases prepared
  · rw [launched] at prepared
    cases prepared
    exact clear.uri

end Greeting

end WorkspaceServers.Session
