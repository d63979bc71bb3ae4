import WorkspaceServers.Proofs.Session.Moves
import WorkspaceServers.Proofs.Transport.Attention
import WorkspaceServers.Proofs.Transport.Slots
import WorkspaceServers.Session.Journal

/-!
Requests of a session that wait. An operation that comes to wait has its request in the map
of the transport, and there it stays until its outcome is among those of some turn.
-/

namespace WorkspaceServers.Session

def Waits (id : UInt64) (session : Session) : Prop :=
  ∃ transport method, session.transport? = some transport ∧
    transport.pending.find? id = some method

variable {session : Session} {server : Server} {id : UInt64}

section Starting

variable {started : Started} {question : Question}

def Truthful (started : Started) : Prop :=
  ∀ id question, started.progress = .waiting id question → started.session.Waits id

theorem transport?_setServer (found : session.server? = some server) (new : Server) :
    (session.setServer new).transport? = some new.transport := by
  rw [transport?, server?_setServer found]
  rfl

theorem truthful_finished (session : Session) (result : Except Failure Reply) :
    Truthful (session.finished result) := by
  intro id question waiting
  cases waiting

theorem truthful_ask (found : session.server? = some server) (question : Question)
    (params : Option Json) : Truthful (session.ask server question params) := by
  intro id question' waiting
  cases slot : server.transport.slot? with
  | none =>
    obtain ⟨next, requested, -⟩ :=
      Transport.request_of_no_slot slot question.method params
    simp only [ask, requested] at waiting
    cases waiting
  | some taken =>
    obtain ⟨opened, writing, -⟩ := Transport.slot?_eq_some_iff.mp slot
    obtain ⟨pending, registered, requested⟩ :=
      Transport.request_of_open opened writing question.method params
    simp only [ask, requested] at waiting ⊢
    cases waiting
    refine ⟨_, question.method, transport?_setServer found _, ?_⟩
    exact (Pending.find?_register registered).trans (if_pos rfl)

theorem truthful_of_serves (serves : Serves session started) : Truthful started := by
  cases serves with
  | idle _ | astray _ _ | told _ _ _ => exact truthful_finished _ _
  | asked running question params =>
    exact truthful_ask (Lifecycle.live_of_running running).1 question params

theorem truthful_greet (machine : Launch.Machine) (session : Session) (context : Launch.Context) :
    Truthful (session.greet machine context) := by
  unfold greet
  split
  · exact truthful_finished session _
  · exact truthful_finished session _
  · exact truthful_finished session _
  · split
    · exact truthful_finished session _
    · intro id question waiting
      exact truthful_ask rfl .handshake _ id question waiting

theorem truthful_beginShutdown (session : Session) : Truthful session.beginShutdown := by
  unfold beginShutdown
  split
  · exact truthful_finished session _
  · exact truthful_finished session _
  · exact truthful_ask rfl .shutdown none
  · exact truthful_ask rfl .shutdown none

theorem truthful_leave (session : Session) : Truthful session.leave := by
  intro id question waiting
  unfold leave at waiting
  split at waiting
  · cases waiting
  · cases waiting

theorem truthful_start (machine : Launch.Machine) (session : Session) (operation : Operation) :
    Truthful (session.start machine operation) := by
  cases operation with
  | handshake context => exact truthful_greet machine session context
  | confirm | openDocument _ _ | symbols _ | hover _ _ _ | definition _ _ _ =>
    exact truthful_of_serves (serves_start machine session rfl)
  | shutdown => exact truthful_beginShutdown session
  | exit => exact truthful_leave session

end Starting

section Turns

theorem waits_withTransport (event : Transport → Transport × List Transport.Resolution)
    (attends : ∀ transport, Transport.Attends id transport (event transport))
    (waits : session.Waits id) :
    (session.withTransport event).1.Waits id ∨
      ∃ outcome, ⟨id, outcome⟩ ∈ (session.withTransport event).2 := by
  obtain ⟨transport, method, found, waiting⟩ := waits
  unfold withTransport
  cases serves : session.server? with
  | none => simp [transport?, serves] at found
  | some server =>
    have same : server.transport = transport := by simpa [transport?, serves] using found
    rcases attends transport method waiting with kept | resolved
    · rw [← same] at kept
      exact .inl ⟨_, method, transport?_setServer serves _, kept⟩
    · rw [← same] at resolved
      exact .inr resolved

theorem waits_processEnded (waits : session.Waits id) :
    session.processEnded.1.Waits id ∨
      ∃ outcome, ⟨id, outcome⟩ ∈ session.processEnded.2 := by
  obtain ⟨transport, method, found, waiting⟩ := waits
  unfold processEnded
  cases stands : session.lifecycle with
  | uninitialized => simp [transport?, server?, stands, Lifecycle.server?] at found
  | exited server => exact .inl ⟨transport, method, found, waiting⟩
  | initialized server | shuttingDown server =>
    have same : server.transport = transport := by
      simpa [transport?, server?, stands, Lifecycle.server?] using found
    rw [← same] at waiting
    have attends : Transport.Attends id server.transport (server.transport.suffer .close) :=
      Transport.attends_suffer server.transport Transport.Incident.noConfusion
    exact (attends method waiting).imp_left fun kept => ⟨_, method, rfl, kept⟩

/-- Nothing but the caller itself takes a request away without an outcome. -/
theorem waits_turn (machine : Launch.Machine) {turn : Turn} (unprompted : turn.isUnprompted = true)
    (waits : session.Waits id) :
    (session.turn machine turn).Waits id ∨
      ∃ outcome, ⟨id, outcome⟩ ∈ session.resolvedBy machine turn := by
  cases turn with
  | event event =>
    cases event with
    | start operation => cases unprompted
    | incident incident =>
      refine waits_withTransport (fun transport => transport.suffer incident) ?_ waits
      intro transport
      apply Transport.attends_suffer
      -- A caller that gives up is no unprompted turn.
      rintro rfl
      cases unprompted
    | processEnded => exact waits_processEnded waits
  | shutSink =>
    left
    refine (waits_withTransport _ ?_ waits).resolve_right ?_
    · intro transport
      exact Transport.attends_of_same rfl []
    · rintro ⟨outcome, member⟩
      unfold withTransport at member
      cases serves : session.server? with
      | none => simp [serves] at member
      | some server => simp [serves] at member

theorem not_waits_close (machine : Launch.Machine) (session : Session) (id : UInt64) :
    ¬ (session.turn machine (.event (.incident .close))).Waits id := by
  rintro ⟨transport, method, found, waiting⟩
  have closes : session.turn machine (.event (.incident .close)) =
      (session.withTransport fun transport => transport.close).1 := rfl
  rw [closes, withTransport] at found
  cases serves : session.server? with
  | none =>
    simp only [serves] at found
    rw [transport?, serves] at found
    cases found
  | some server =>
    obtain ⟨queue, closed⟩ := Transport.close_queue server.transport
    simp only [serves, closed, transport?_setServer serves] at found
    cases found
    rw [Pending.find?_close] at waiting
    cases waiting

end Turns

end WorkspaceServers.Session
