import WorkspaceServers.Session.Basic

/-!
Operations that use the server. There are four ways for them to go: without a server or
without a URI they fail and leave the session as it is, and otherwise the server is told
something or asked.
-/

namespace WorkspaceServers.Session

/-- The operation needs a live server, and neither launches nor ends one. -/
def Operation.uses : Operation → Bool
  | .confirm | .openDocument _ _ | .symbols _ | .hover _ _ _ | .definition _ _ _ => true
  | .handshake _ | .shutdown | .exit => false

variable {session : Session}

inductive Serves (session : Session) : Started → Prop
  | idle {failure : Failure} (absent : session.lifecycle.running = .error failure) :
      Serves session (session.finished (.error failure))
  | astray {server : Server} {document : String} (running : session.lifecycle.running = .ok server)
      (absent : Workspace.documentUri? session.root document = none) :
      Serves session
        (session.finished (.error (.invalidPath (Workspace.documentPath session.root document))))
  | told {server : Server} (running : session.lifecycle.running = .ok server) (method : String)
      (params : Option Json) : Serves session (session.tell server method params)
  | asked {server : Server} (running : session.lifecycle.running = .ok server)
      (question : Question) (params : Option Json) :
      Serves session (session.ask server question params)

theorem serves_withServer {α : Type} {prepare : Except Failure α} {act : Server → α → Started}
    (fails : ∀ server failure, session.lifecycle.running = .ok server →
      prepare = .error failure → Serves session (session.finished (.error failure)))
    (acts : ∀ server value, session.lifecycle.running = .ok server →
      Serves session (act server value)) :
    Serves session (session.withServer prepare act) := by
  unfold withServer
  cases running : session.lifecycle.running with
  | error failure => exact .idle running
  | ok server =>
    cases prepare with
    | error failure => exact fails server failure running rfl
    | ok value => exact acts server value running

theorem serves_document {act : Server → String → Started} (document : String)
    (acts : ∀ server uri, session.lifecycle.running = .ok server →
      Serves session (act server uri)) :
    Serves session (session.withServer (session.documentUri document) act) := by
  apply serves_withServer _ acts
  intro server failure running failed
  unfold documentUri at failed
  cases found : Workspace.documentUri? session.root document with
  | none =>
    rw [found] at failed
    cases failed
    exact .astray running found
  | some uri =>
    rw [found] at failed
    cases failed

theorem serves_start (machine : Launch.Machine) (session : Session) {operation : Operation}
    (uses : operation.uses = true) : Serves session (session.start machine operation) := by
  cases operation with
  | handshake _ | shutdown | exit => cases uses
  | confirm =>
    show Serves session (session.withServer (.ok ()) fun server _ =>
      session.tell server "initialized" (some (.object [])))
    apply serves_withServer
    · intro server failure running failed
      cases failed
    · intro server nothing running
      exact .told running _ _
  | openDocument document text =>
    apply serves_document
    intro server uri running
    exact .told running _ _
  | symbols document | hover document line character | definition document line character =>
    apply serves_document
    intro server uri running
    exact .asked running _ _

theorem Serves.eq_finished {started : Started} (serves : Serves session started)
    {failure : Failure} (absent : session.lifecycle.running = .error failure) :
    started = session.finished (.error failure) := by
  cases serves with
  | idle absent' =>
    rw [absent] at absent'
    cases absent'
    rfl
  | astray running _ | told running _ _ | asked running _ _ =>
    rw [absent] at running
    cases running

end WorkspaceServers.Session
