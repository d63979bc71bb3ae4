import WorkspaceServers.Proofs.Session.Preparing
import WorkspaceServers.Proofs.Session.Utterances

/-!
The handshake launches all or nothing. As long as something stands in its way the session is
as good as new, and once a server runs the session never is again, whatever becomes of the
handshake: from then on it is answered from where the session stands.
-/

namespace WorkspaceServers.Session

variable {machine : Launch.Machine} {session : Session} {context : Launch.Context}

theorem eq_create (fresh : session.stage = .uninitialized) :
    session = create session.identity session.root session.options := by
  obtain ⟨identity, root, options, lifecycle⟩ := session
  cases lifecycle with
  | uninitialized => rfl
  | initialized _ | shuttingDown _ | exited _ => cases fresh

theorem Leads.begun {later : Session} (led : Leads session later)
    (begun : session.stage ≠ .uninitialized) : later.stage ≠ .uninitialized := by
  induction led with
  | refl => exact begun
  | turn machine turn _ ih => exact begun_turn machine ih turn

/-- Nothing has come of a handshake: there is no process, no transport and no frame, and the
next one meets a new session. -/
structure Untouched (session : Session) (started : Started) : Prop where
  new : started.session = create session.identity session.root session.options
  stage : started.session.stage = .uninitialized
  no_process : started.launched = none
  no_transport : started.session.transport? = none
  nothing_queued : started.session.queue = []
  again : ∀ machine context, started.session.start machine (.handshake context) =
    (create session.identity session.root session.options).start machine (.handshake context)

/-- A handshake on a session that has had its server launches nothing and queues nothing. It
is answered from the stage that the session is in. -/
structure Repeats (session : Session) (started : Started) : Prop where
  same : started.session = session
  no_process : started.launched = none
  no_signal : started.signalled = false
  initialized : session.stage = .initialized →
    started.progress = .finished (.ok (.handshake .empty))
  shuttingDown : session.stage = .shuttingDown →
    started.progress = .finished (.error .shuttingDown)
  exited : session.stage = .exited → started.progress = .finished (.error .terminated)

/-- A handshake on a new session, and all that may come behind it. -/
structure LaunchesOnce (machine : Launch.Machine) (session : Session)
    (context : Launch.Context) (started : Started) : Prop where
  fails_iff : ∀ failure, started.progress = .finished (.error failure) ↔
    Meets machine session.root context failure
  launches_iff : (∃ command, started.launched = some command) ↔
    ∀ place failure, ¬ Obstacle machine session.root context place failure
  fails : started.launched = none → ∃ failure, Meets machine session.root context failure ∧
    started.progress = .finished (.error failure)
  untouched : started.launched = none → Untouched session started
  prepared : ∀ command, started.launched = some command →
    ∃ rootUri, Prepared machine session.root context command rootUri
  waits : ∀ command, started.launched = some command →
    started.session.stage = .initialized ∧ started.progress = .waiting 1 .handshake
  final : ∀ command, started.launched = some command → ∀ later, Leads started.session later →
    later.stage ≠ .uninitialized ∧
      ∀ machine context, Repeats later (later.start machine (.handshake context))

theorem untouched_finished (fresh : session.stage = .uninitialized)
    (result : Except Failure Reply) : Untouched session (session.finished result) := by
  have new := eq_create fresh
  constructor
  · exact new
  · exact fresh
  · rfl
  · exact stage_eq_uninitialized_iff.mp fresh
  · rw [new]
    rfl
  · intro machine context
    exact congrArg (fun session => session.start machine (.handshake context)) new

theorem repeats_of_begun (begun : session.stage ≠ .uninitialized) (machine : Launch.Machine)
    (context : Launch.Context) : Repeats session (session.start machine (.handshake context)) := by
  simp only [start, greet]
  cases stands : session.lifecycle with
  | uninitialized =>
    rw [stage, stands] at begun
    exact absurd rfl begun
  | initialized server =>
    have now : session.stage = .initialized := congrArg Lifecycle.stage stands
    constructor <;> simp [finished, now]
  | shuttingDown server =>
    have now : session.stage = .shuttingDown := congrArg Lifecycle.stage stands
    constructor <;> simp [finished, now]
  | exited server =>
    have now : session.stage = .exited := congrArg Lifecycle.stage stands
    constructor <;> simp [finished, now]

section Outcomes

variable {failure : Failure} {command : Launch.Command} {rootUri : String}

theorem launchesOnce_of_meets (fresh : session.stage = .uninitialized)
    (meets : Meets machine session.root context failure) :
    LaunchesOnce machine session context (session.finished (.error failure)) := by
  constructor
  · intro other
    constructor
    · intro failed
      cases failed
      exact meets
    · intro meets'
      -- There is only one first thing in the way.
      rw [meets.unique meets']
      rfl
  · constructor
    · intro launched
      obtain ⟨command, launched⟩ := launched
      cases launched
    · intro clear
      obtain ⟨place, met, -⟩ := meets
      exact absurd met (clear place failure)
  · intro _
    exact ⟨failure, meets, rfl⟩
  · intro _
    exact untouched_finished fresh _
  · intro command launched
    cases launched
  · intro command launched
    cases launched
  · intro command launched
    cases launched

def launchedBy (machine : Launch.Machine) (session : Session) (command : Launch.Command)
    (rootUri : String) : Started :=
  let server : Server := ⟨.start session.options.requestTimeout, false⟩
  { ({ session with lifecycle := .initialized server }).ask server .handshake
      (some (Rpc.handshakeParams machine.processId rootUri session.identity.slug)) with
    launched := some command }

theorem stage_launchedBy (machine : Launch.Machine) (session : Session)
    (command : Launch.Command) (rootUri : String) :
    (launchedBy machine session command rootUri).session.stage = .initialized := by
  unfold launchedBy
  dsimp only
  rw [(ask_effect _ _ _ _).1]
  rfl

theorem launchesOnce_of_prepared
    (prepared : Prepared machine session.root context command rootUri) :
    LaunchesOnce machine session context (launchedBy machine session command rootUri) := by
  have stands := stage_launchedBy machine session command rootUri
  -- The handshake waits for its answer, so it has not failed.
  have waiting : (launchedBy machine session command rootUri).progress = .waiting 1 .handshake :=
    (ask_speaks rfl rfl _ _).2
  constructor
  · intro failure
    constructor
    · intro failed
      cases waiting.symm.trans failed
    · intro meets
      obtain ⟨place, met, -⟩ := meets
      exact absurd met prepared.clear
  · constructor
    · intro _ place failure
      exact prepared.clear
    · intro _
      exact ⟨command, rfl⟩
  · intro launched
    cases launched
  · intro launched
    cases launched
  · intro other launched
    cases launched
    exact ⟨rootUri, prepared⟩
  · intro other launched
    exact ⟨stands, waiting⟩
  · intro other launched later led
    have begun : later.stage ≠ .uninitialized := by
      apply led.begun
      rw [stands]
      exact Stage.noConfusion
    exact ⟨begun, repeats_of_begun begun⟩

end Outcomes

theorem handshake_launches_once (machine : Launch.Machine)
    (fresh : session.stage = .uninitialized) (context : Launch.Context) :
    LaunchesOnce machine session context (session.start machine (.handshake context)) := by
  have new : session.lifecycle = .uninitialized := congrArg Session.lifecycle (eq_create fresh)
  rcases prepareLaunch_cases machine session context with
    ⟨failure, meets, failed⟩ | ⟨command, rootUri, prepared, launched⟩
  · have started : session.start machine (.handshake context) =
        session.finished (.error failure) := by
      simp only [start, greet, new, failed]
    rw [started]
    exact launchesOnce_of_meets fresh meets
  · have started : session.start machine (.handshake context) =
        launchedBy machine session command rootUri := by
      simp only [start, greet, new, launched]
      rfl
    rw [started]
    exact launchesOnce_of_prepared prepared

/-- Without an SDK and under a root that has no URI, the SDK is what is missed. Under another
root and with all settings the server runs. -/
theorem handshake_launches_once_retried :
    let machine : Launch.Machine := ⟨7, fun _ => some (.ofString "/bin/lsp"), fun _ => true⟩
    let short := Launch.Context.ofList [("serverPath", "lsp"), ("target", "x86")]
    let whole := short.insert "SDKPath" "sdk"
    let identity : Workspace.Identity := ⟨"default", "host", "demo"⟩
    let wandering := create identity (.ofString "demo") .default
    let standing := create identity (.ofString "/demo") .default
    (wandering.start machine (.handshake short)).progress =
        .finished (.error (.missingSetting ⟨.sdkPath⟩)) ∧
      (standing.start machine (.handshake whole)).progress = .waiting 1 .handshake ∧
      LaunchesOnce machine wandering short (wandering.start machine (.handshake short)) ∧
      LaunchesOnce machine standing whole (standing.start machine (.handshake whole)) := by
  intro machine short whole identity wandering standing
  have tried : LaunchesOnce machine wandering short (wandering.start machine (.handshake short)) :=
    handshake_launches_once machine rfl short
  have retried : LaunchesOnce machine standing whole (standing.start machine (.handshake whole)) :=
    handshake_launches_once machine rfl whole
  refine ⟨(tried.fails_iff _).mpr ⟨1, .unset rfl (by decide), ?_⟩, ?_, tried, retried⟩
  · intro earlier other before met
    obtain rfl : earlier = 0 := by omega
    cases met with
    | unset asked absent =>
      cases asked
      revert absent
      decide
  · have launched : (standing.start machine (.handshake whole)).launched =
        some ⟨.ofString "/bin/lsp", _, none⟩ := rfl
    exact (retried.waits _ launched).2

end WorkspaceServers.Session
