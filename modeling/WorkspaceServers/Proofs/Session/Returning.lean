import WorkspaceServers.Proofs.Session.Grounds
import WorkspaceServers.Proofs.Transport.Outcomes

/-!
What the caller of an operation gets back, at once or when its request comes to an outcome.
Under an absolute root no path is ever to blame: the only paths that are made into URIs are
that of the root and those of documents below it, and a server's answer names none.
-/

namespace WorkspaceServers.Session

/-- The operation returns this: by itself, or for an outcome of its request, however long the
session has gone on until then. -/
inductive Returns (machine : Launch.Machine) (session : Session) (operation : Operation) :
    Except Failure Reply → Prop
  | atOnce {result : Except Failure Reply}
      (finished : (session.start machine operation).progress = .finished result) :
      Returns machine session operation result
  | later {id : UInt64} {question : Question} {between : Session} {outcome : Except Failure Json}
      (waiting : (session.start machine operation).progress = .waiting id question)
      (led : Leads (session.start machine operation).session between)
      (machine' : Launch.Machine) (turn : Turn)
      (resolved : ⟨id, outcome⟩ ∈ between.resolvedBy machine' turn) :
      Returns machine session operation (question.conclude outcome)

/-- No path is to blame, in that it has no URI. -/
def Pathless (result : Except Failure Reply) : Prop := ∀ path, result ≠ .error (.invalidPath path)

def Spared (session : Session) : Prop :=
  ∀ machine operation result, Returns machine session operation result → Pathless result

variable {session : Session} {server : Server} {machine : Launch.Machine}

section Resolved

theorem known_withTransport {event : Transport → Transport × List Transport.Resolution}
    (known : ∀ transport, Transport.Known (event transport).2) :
    Transport.Known (session.withTransport event).2 := by
  unfold withTransport
  cases session.server? with
  | none => exact Transport.known_nil
  | some server => exact known server.transport

theorem known_resolvedBy (machine : Launch.Machine) (session : Session) (turn : Turn) :
    Transport.Known (session.resolvedBy machine turn) := by
  cases turn with
  | shutSink => exact Transport.known_nil
  | event event =>
    cases event with
    | start operation => exact Transport.known_nil
    | incident incident =>
      exact known_withTransport fun transport => transport.known_suffer incident
    | processEnded =>
      simp only [resolvedBy, step, processEnded]
      cases session.lifecycle with
      | uninitialized | exited _ => exact Transport.known_nil
      | initialized server | shuttingDown server => exact server.transport.known_failPending

theorem pathless_conclude (question : Question) {outcome : Except Failure Json}
    (known : Transport.IsOutcome outcome) : Pathless (question.conclude outcome) := by
  intro path
  cases known with
  | refused _ | terminated | timedOut _ _ => exact nofun
  | answered result =>
    rw [Question.conclude, Question.concludeBy]
    split <;> exact nofun

end Resolved

section Starting

def Started.Pathless (started : Started) : Prop :=
  ∀ result, started.progress = .finished result → Session.Pathless result

theorem Pathless.finished {result : Except Failure Reply} (pathless : Pathless result)
    (session : Session) : (session.finished result).Pathless := by
  intro other same
  cases same
  exact pathless

theorem pathless_ask (running : session.lifecycle.running = .ok server) (question : Question)
    (params : Option Json) : (session.ask server question params).Pathless := by
  intro result finished
  cases slot : server.transport.slot? with
  | none =>
    rw [(ask_hushed running slot _ _).2] at finished
    cases finished
    exact nofun
  | some id =>
    rw [(ask_speaks running slot _ _).2] at finished
    cases finished

theorem pathless_tell (running : session.lifecycle.running = .ok server) (method : String)
    (params : Option Json) : (session.tell server method params).Pathless := by
  intro result finished
  cases slot : server.transport.slot? with
  | none =>
    rw [(tell_hushed running slot).2] at finished
    cases finished
    exact nofun
  | some id =>
    rw [(tell_speaks running slot).2] at finished
    cases finished
    exact nofun

theorem pathless_of_serves (absolute : session.root.isAbsolute = true) {started : Started}
    (serves : Serves session started) : started.Pathless := by
  cases serves with
  | idle absent =>
    apply Pathless.finished
    cases stands : session.lifecycle with
    | uninitialized | exited _ =>
      rw [stands] at absent
      cases absent
      exact nofun
    | initialized _ | shuttingDown _ =>
      rw [stands] at absent
      cases absent
  | astray _ absent =>
    obtain ⟨uri, found⟩ := Workspace.exists_documentUri absolute _
    rw [found] at absent
    cases absent
  | told running method params => exact pathless_tell running method params
  | asked running question params => exact pathless_ask running question params

theorem pathless_of_meets (absolute : session.root.isAbsolute = true) {context : Launch.Context}
    {failure : Failure} (meets : Meets machine session.root context failure) :
    Pathless (.error failure) := by
  obtain ⟨place, met, -⟩ := meets
  cases met with
  | unset _ _ | notFound _ _ | notRun _ _ _ => exact nofun
  | noUri absent =>
    -- The only obstacle that has to do with a URI is no obstacle under this root.
    have uri := (Path.fileUri?_isSome_iff session.root).mpr absolute
    rw [absent] at uri
    cases uri

theorem pathless_greet (absolute : session.root.isAbsolute = true) (machine : Launch.Machine)
    (context : Launch.Context) : (session.greet machine context).Pathless := by
  unfold greet
  cases session.lifecycle with
  | initialized _ | shuttingDown _ | exited _ =>
    apply Pathless.finished
    exact nofun
  | uninitialized =>
    rcases prepareLaunch_cases machine session context with
      ⟨failure, meets, failed⟩ | ⟨command, rootUri, -, launched⟩
    · simp only [failed]
      exact (pathless_of_meets absolute meets).finished session
    · simp only [launched]
      exact pathless_ask rfl .handshake _

theorem pathless_beginShutdown (session : Session) : session.beginShutdown.Pathless := by
  unfold beginShutdown
  cases session.lifecycle with
  | uninitialized | exited _ =>
    apply Pathless.finished
    exact nofun
  | initialized server | shuttingDown server => exact pathless_ask rfl .shutdown none

theorem pathless_leave (session : Session) : session.leave.Pathless := by
  intro result finished
  unfold leave at finished
  split at finished
  · cases finished
    exact nofun
  · cases finished
    exact nofun

theorem pathless_start (absolute : session.root.isAbsolute = true) (machine : Launch.Machine)
    (operation : Operation) : (session.start machine operation).Pathless := by
  cases operation with
  | handshake context => exact pathless_greet absolute machine context
  | confirm | openDocument _ _ | symbols _ | hover _ _ _ | definition _ _ _ =>
    exact pathless_of_serves absolute (serves_start machine session rfl)
  | shutdown => exact pathless_beginShutdown session
  | exit => exact pathless_leave session

end Starting

theorem spared_of_absolute (absolute : session.root.isAbsolute = true) : Spared session := by
  intro machine operation result returns
  cases returns with
  | atOnce finished => exact pathless_start absolute machine operation result finished
  | later _ _ machine' turn resolved =>
    exact pathless_conclude _ (known_resolvedBy machine' _ turn _ resolved)

end WorkspaceServers.Session
