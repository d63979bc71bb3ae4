import WorkspaceServers.Proofs.Session.Order

/-!
How one session is stopped. It is asked to shut down and is told to exit, whatever the first
comes to, and around these two no operation starts but anything else may happen to it.
-/

namespace WorkspaceServers.Session

def stopping (before between after : List Turn) : List Turn :=
  before ++ .event (.start .shutdown) :: (between ++ .event (.start .exit) :: after)

def Quiet (turns : List Turn) : Prop := ∀ turn ∈ turns, turn.operation? = none

/-- A session that was found in some state and has been stopped. -/
structure Stopped (machine : Launch.Machine) (found : Session) (before between after : List Turn)
    (left : Session) : Prop where
  came : left = found.turns machine (stopping before between after)
  off : left.stage ≠ .initialized
  /-- It was sent one request and then one notification, each if frames were taken by then. -/
  sent : spoken machine (journal machine found (stopping before between after)) =
    ((found.turns machine before).slot?.map fun id =>
      .frame (Rpc.request id "shutdown" none)).toList ++
    ((found.turns machine (before ++ .event (.start .shutdown) :: between)).slot?.map fun _ =>
      .frame (Rpc.notification "exit" none)).toList
  replies : ∀ past turn future, stopping before between after = past ++ turn :: future →
    turn.operation? = none →
      ∀ command ∈ ((found.turns machine past).turn machine turn).queue.drop
        (found.turns machine past).queue.length, command.IsReply
  /-- Whatever became of the shutdown, only a server that has ended by itself is not told. -/
  told : found.stage.hasLiveServer = true → left.told = true ∨
    (.event .processEnded ∈ before ++ between ∧ left.stage = .exited)
  /-- Without a live server the two operations leave no trace. -/
  spared : found.stage.hasLiveServer = false →
    left = found.turns machine (before ++ (between ++ after)) ∧ left.stage = found.stage ∧
      spoken machine (journal machine found (stopping before between after)) = []
  fresh : found.stage = .uninitialized → left = found

variable {machine : Launch.Machine} {session : Session} {turn : Turn}

theorem turns_append (machine : Launch.Machine) (session : Session) (first second : List Turn) :
    session.turns machine (first ++ second) =
      (session.turns machine first).turns machine second :=
  List.foldl_append

theorem turns_cons (machine : Launch.Machine) (session : Session) (turn : Turn)
    (rest : List Turn) :
    session.turns machine (turn :: rest) = (session.turn machine turn).turns machine rest := rfl

theorem turns_keep {motive : Session → Prop} {turns : List Turn} (start : motive session)
    (keeps : ∀ session, motive session → ∀ turn ∈ turns, motive (session.turn machine turn)) :
    motive (session.turns machine turns) :=
  List.foldlRecOn turns (Session.turn machine) start keeps

section Quiet

theorem Quiet.append {first second : List Turn} (quiet : Quiet first) (quiet' : Quiet second) :
    Quiet (first ++ second) :=
  List.forall_mem_append.mpr ⟨quiet, quiet'⟩

theorem journal_append (machine : Launch.Machine) (session : Session) (first second : List Turn) :
    journal machine session (first ++ second) =
      journal machine session first ++ journal machine (session.turns machine first) second := by
  induction first generalizing session with
  | nil => rfl
  | cons turn rest ih =>
    rw [List.cons_append, journal, journal, ih, List.append_assoc]
    rfl

theorem journal_of_quiet {turns : List Turn} (quiet : Quiet turns) :
    journal machine session turns = [] := by
  induction turns generalizing session with
  | nil => rfl
  | cons turn rest ih =>
    obtain ⟨still, quiet'⟩ := List.forall_mem_cons.mp quiet
    rw [journal, still, ih quiet']
    rfl

theorem stage_withTransport (event : Transport → Transport × List Transport.Resolution)
    (session : Session) : (session.withTransport event).1.stage = session.stage := by
  unfold withTransport
  cases session.server? with
  | none => rfl
  | some server => exact Lifecycle.stage_onServer _ session.lifecycle

theorem stage_turn (still : turn.operation? = none) (runs : turn ≠ .event .processEnded) :
    (session.turn machine turn).stage = session.stage := by
  cases turn with
  | event event =>
    cases event with
    | start operation => cases still
    | incident incident =>
      exact stage_withTransport (fun transport => transport.suffer incident) session
    | processEnded => exact absurd rfl runs
  | shutSink => exact stage_withTransport _ session

theorem stage_turns {turns : List Turn} (quiet : Quiet turns)
    (runs : .event .processEnded ∉ turns) :
    (session.turns machine turns).stage = session.stage := by
  apply turns_keep (motive := fun later => later.stage = session.stage) rfl
  intro later same turn member
  have runs' : turn ≠ .event .processEnded := fun ends => runs (ends ▸ member)
  rw [stage_turn (quiet turn member) runs', same]

theorem replies_turn (machine : Launch.Machine) (session : Session)
    (still : turn.operation? = none) :
    ∀ command ∈ (session.turn machine turn).queue.drop session.queue.length, command.IsReply := by
  cases turn with
  | event event =>
    cases event with
    | start operation => cases still
    | incident incident =>
      exact replies_withTransport (fun transport => Transport.replies_suffer transport incident)
        session
    | processEnded => exact replies_processEnded session
  | shutSink =>
    exact replies_withTransport (fun _ => (Transport.Replies.of_same rfl).drop_queue) session

end Quiet

section Telling

theorem told_of_server {server : Server} (serves : session.server? = some server) :
    session.told = server.signalled := by
  rw [told, serves]
  rfl

theorem told_withTransport (told : session.told = true)
    (event : Transport → Transport × List Transport.Resolution) :
    (session.withTransport event).1.told = true := by
  unfold withTransport
  cases found : session.server? with
  | none => exact told
  | some server =>
    rw [told_of_server found] at told
    exact (told_of_server (server?_setServer found _)).trans told

theorem told_turn (told : session.told = true) (turn : Turn) :
    (session.turn machine turn).told = true := by
  cases turn with
  | event event =>
    have signals := (continues_step machine session event).signals
    rw [told] at signals
    cases after : (session.step machine event).1.told with
    | true => exact after
    | false =>
      rw [after] at signals
      simp at signals
  | shutSink => exact told_withTransport told _

theorem told_turns (told : session.told = true) (turns : List Turn) :
    (session.turns machine turns).told = true := by
  apply turns_keep (motive := fun later => later.told = true) told
  intro later told turn _
  exact told_turn told turn

theorem hasLiveServer_iff :
    session.stage.hasLiveServer = true ↔ ∃ server, session.lifecycle.running = .ok server := by
  unfold stage
  cases session.lifecycle <;> simp [Lifecycle.stage, Lifecycle.running, Stage.hasLiveServer]

theorem told_leave (live : session.stage.hasLiveServer = true) :
    session.leave.session.told = true := by
  obtain ⟨server, running⟩ := hasLiveServer_iff.mp live
  unfold leave
  rw [running]
  exact told_of_server (server?_setServer (Lifecycle.live_of_running running).1 _)

theorem stage_shutdown (live : session.stage.hasLiveServer = true) :
    session.beginShutdown.session.stage = .shuttingDown := by
  obtain ⟨server, running⟩ := hasLiveServer_iff.mp live
  rw [beginShutdown_of_running running, (ask_effect _ _ _ _).1]
  rfl

theorem exited_turn (gone : session.stage = .exited) (turn : Turn) :
    (session.turn machine turn).stage = .exited := by
  cases turn with
  | event event =>
    have forward := (continues_step machine session event).forward
    rw [gone] at forward
    exact Stage.rank_inj (Nat.le_antisymm (Stage.rank_le _) forward)
  | shutSink => exact (stage_withTransport _ session).trans gone

theorem exited_turns (gone : session.stage = .exited) (turns : List Turn) :
    (session.turns machine turns).stage = .exited := by
  apply turns_keep (motive := fun later => later.stage = .exited) gone
  intro later gone turn _
  exact exited_turn gone turn

theorem stage_processEnded (begun : session.stage ≠ .uninitialized) :
    session.processEnded.1.stage = .exited := by
  unfold processEnded
  unfold stage at begun
  cases stands : session.lifecycle with
  | uninitialized =>
    rw [stands] at begun
    exact absurd rfl begun
  | initialized _ | shuttingDown _ => rfl
  | exited server => exact congrArg Lifecycle.stage stands

theorem exited_of_processEnded (begun : session.stage ≠ .uninitialized) {turns : List Turn}
    (ended : .event .processEnded ∈ turns) : (session.turns machine turns).stage = .exited := by
  induction turns generalizing session with
  | nil => cases ended
  | cons turn rest ih =>
    rcases List.mem_cons.mp ended with rfl | later
    · exact exited_turns (stage_processEnded begun) rest
    · exact ih (begun_turn machine begun turn) later

end Telling

section Sparing

theorem beginShutdown_spared (idle : session.stage.hasLiveServer = false) :
    session.beginShutdown.session = session := by
  unfold beginShutdown
  unfold stage at idle
  cases stands : session.lifecycle with
  | uninitialized | exited _ => rfl
  | initialized _ | shuttingDown _ =>
    rw [stands] at idle
    cases idle

theorem leave_spared (idle : session.stage.hasLiveServer = false) :
    session.leave.session = session := by
  unfold leave
  cases running : session.lifecycle.running with
  | error failure => rfl
  | ok server =>
    rw [hasLiveServer_iff.mpr ⟨server, running⟩] at idle
    cases idle

theorem stage_turn_spared (idle : session.stage.hasLiveServer = false)
    (still : turn.operation? = none) : (session.turn machine turn).stage = session.stage := by
  by_cases ends : turn = .event .processEnded
  · subst ends
    unfold stage at idle
    show session.processEnded.1.stage = session.stage
    unfold processEnded
    cases stands : session.lifecycle with
    | uninitialized | exited _ => rfl
    | initialized _ | shuttingDown _ =>
      rw [stands] at idle
      cases idle
  · exact stage_turn still ends

theorem stage_turns_spared {turns : List Turn} (idle : session.stage.hasLiveServer = false)
    (quiet : Quiet turns) : (session.turns machine turns).stage = session.stage := by
  apply turns_keep (motive := fun later => later.stage = session.stage) rfl
  intro later same turn member
  rw [stage_turn_spared (same ▸ idle) (quiet turn member), same]

theorem turns_of_fresh {turns : List Turn} (fresh : session.lifecycle = .uninitialized)
    (quiet : Quiet turns) : session.turns machine turns = session := by
  apply turns_keep (motive := fun later => later = session) rfl
  rintro _ rfl turn member
  exact turn_of_fresh fresh (quiet turn member)

theorem Lifecycle.eq_uninitialized_of_stage {lifecycle : Lifecycle}
    (fresh : lifecycle.stage = .uninitialized) : lifecycle = .uninitialized := by
  cases lifecycle with
  | uninitialized => rfl
  | initialized _ | shuttingDown _ | exited _ => cases fresh

theorem slot?_of_spared (idle : session.stage.hasLiveServer = false) : session.slot? = none := by
  cases slot : session.slot? with
  | none => rfl
  | some id =>
    obtain ⟨server, running, -⟩ := running_of_slot slot
    rw [hasLiveServer_iff.mpr ⟨server, running⟩] at idle
    cases idle

end Sparing

section Off

theorem off_shutdown (session : Session) : session.beginShutdown.session.stage ≠ .initialized := by
  cases live : session.stage.hasLiveServer with
  | true =>
    rw [stage_shutdown live]
    exact Stage.noConfusion
  | false =>
    rw [beginShutdown_spared live]
    intro stands
    rw [stands] at live
    cases live

theorem off_leave (off : session.stage ≠ .initialized) :
    session.leave.session.stage ≠ .initialized := by
  cases running : session.lifecycle.running with
  | error failure =>
    simp only [leave, running]
    exact off
  | ok server =>
    have same : session.leave.session.stage = session.stage := by
      simp only [leave, running]
      exact Lifecycle.stage_onServer _ session.lifecycle
    rw [same]
    exact off

theorem off_turn (off : session.stage ≠ .initialized) (still : turn.operation? = none) :
    (session.turn machine turn).stage ≠ .initialized := by
  by_cases ends : turn = .event .processEnded
  · subst ends
    show session.processEnded.1.stage ≠ .initialized
    unfold processEnded
    cases session.lifecycle with
    | uninitialized | exited _ => exact off
    | initialized _ | shuttingDown _ => exact Stage.noConfusion
  · rw [stage_turn still ends]
    exact off

theorem off_turns {turns : List Turn} (off : session.stage ≠ .initialized) (quiet : Quiet turns) :
    (session.turns machine turns).stage ≠ .initialized := by
  apply turns_keep (motive := fun later => later.stage ≠ .initialized) off
  intro later off turn member
  exact off_turn off (quiet turn member)

end Off

section Sending

theorem queued_shutdown (machine : Launch.Machine) (session : Session) :
    Entry.queued machine ⟨session, .shutdown⟩ =
      (session.slot?.map fun id => .frame (Rpc.request id "shutdown" none)).toList := by
  cases slot : session.slot? with
  | none => exact Entry.queued_same (beginShutdown_hushed slot).1.queue
  | some id => exact Entry.queued_eq (shutdown_speaks slot).queue

theorem queued_exit (machine : Launch.Machine) (session : Session) :
    Entry.queued machine ⟨session, .exit⟩ =
      (session.slot?.map fun _ => .frame (Rpc.notification "exit" none)).toList := by
  cases slot : session.slot? with
  | none => exact Entry.queued_same (leave_hushed slot).1.queue
  | some id => exact Entry.queued_eq (exit_speaks slot).1.queue

variable {before between after : List Turn}

theorem turns_stopping (machine : Launch.Machine) (session : Session)
    (before between after : List Turn) :
    session.turns machine (stopping before between after) =
      (((session.turns machine before).beginShutdown.session.turns machine
        between).leave.session.turns machine after) := by
  rw [stopping, turns_append, turns_cons, turns_append, turns_cons]
  rfl

theorem spoken_stopping (machine : Launch.Machine) (session : Session) (quiet : Quiet before)
    (quiet' : Quiet between) (quiet'' : Quiet after) :
    spoken machine (journal machine session (stopping before between after)) =
      Entry.queued machine ⟨session.turns machine before, .shutdown⟩ ++
        Entry.queued machine
          ⟨session.turns machine (before ++ .event (.start .shutdown) :: between), .exit⟩ := by
  rw [stopping, journal_append, journal_of_quiet quiet, List.nil_append, journal, journal_append,
    journal_of_quiet quiet', List.nil_append, journal, journal_of_quiet quiet'', turns_append]
  simp [Turn.operation?, spoken, turns_cons]

end Sending

section Whole

variable {before between after : List Turn}

theorem off_stopping (machine : Launch.Machine) (session : Session) (before : List Turn)
    (quiet' : Quiet between) (quiet'' : Quiet after) :
    (session.turns machine (stopping before between after)).stage ≠ .initialized := by
  rw [turns_stopping]
  apply off_turns _ quiet''
  apply off_leave
  exact off_turns (off_shutdown _) quiet'

theorem told_stopping (live : session.stage.hasLiveServer = true) (quiet : Quiet before)
    (quiet' : Quiet between) (runs : .event .processEnded ∉ before ++ between)
    (after : List Turn) :
    (session.turns machine (stopping before between after)).told = true := by
  -- As long as the process runs, the session is live when it is told to exit.
  obtain ⟨runs, runs'⟩ := not_or.mp (mt List.mem_append.mpr runs)
  have live' : (session.turns machine before).stage.hasLiveServer = true := by
    rw [stage_turns quiet runs]
    exact live
  rw [turns_stopping]
  apply told_turns
  apply told_leave
  rw [stage_turns quiet' runs', stage_shutdown live']
  rfl

theorem exited_stopping (live : session.stage.hasLiveServer = true)
    (ended : .event .processEnded ∈ before ++ between) (after : List Turn) :
    (session.turns machine (stopping before between after)).stage = .exited := by
  apply exited_of_processEnded
  · intro fresh
    rw [fresh] at live
    cases live
  · rcases List.mem_append.mp ended with early | late
    · simp [stopping, early]
    · simp [stopping, late]

theorem stopping_spared (machine : Launch.Machine) (idle : session.stage.hasLiveServer = false)
    (quiet : Quiet before) (quiet' : Quiet between) (quiet'' : Quiet after) :
    session.turns machine (stopping before between after) =
        session.turns machine (before ++ (between ++ after)) ∧
      spoken machine (journal machine session (stopping before between after)) = [] := by
  -- Neither operation meets a live server, for nothing that happens brings one.
  have idle' : (session.turns machine before).stage.hasLiveServer = false := by
    rw [stage_turns_spared idle quiet, idle]
  have idle'' : ((session.turns machine before).turns machine between).stage.hasLiveServer =
      false := by
    rw [stage_turns_spared idle' quiet', idle']
  have unchanged : session.turns machine (before ++ .event (.start .shutdown) :: between) =
      (session.turns machine before).turns machine between := by
    rw [turns_append, turns_cons]
    exact congrArg (turns machine · between) (beginShutdown_spared idle')
  constructor
  · rw [turns_stopping, beginShutdown_spared idle', leave_spared idle'', turns_append,
      turns_append]
  · rw [spoken_stopping machine session quiet quiet' quiet'', queued_shutdown, queued_exit,
      unchanged, slot?_of_spared idle', slot?_of_spared idle'']
    rfl

theorem stopped (machine : Launch.Machine) (session : Session) (quiet : Quiet before)
    (quiet' : Quiet between) (quiet'' : Quiet after) :
    Stopped machine session before between after
      (session.turns machine (stopping before between after)) := by
  have quiets : Quiet (before ++ (between ++ after)) := quiet.append (quiet'.append quiet'')
  constructor
  · rfl
  · exact off_stopping machine session before quiet' quiet''
  · rw [spoken_stopping machine session quiet quiet' quiet'', queued_shutdown, queued_exit]
  · intro past turn future _ still
    exact replies_turn machine _ still
  · -- A process that ended before the word to exit has no one left to tell.
    intro live
    by_cases ended : .event .processEnded ∈ before ++ between
    · exact .inr ⟨ended, exited_stopping live ended after⟩
    · exact .inl (told_stopping live quiet quiet' ended after)
  · intro idle
    obtain ⟨left, silent⟩ := stopping_spared machine idle quiet quiet' quiet''
    refine ⟨left, ?_, silent⟩
    rw [left]
    exact stage_turns_spared idle quiets
  · -- A new session has no server, and no turn but a handshake gives it one.
    intro fresh
    have new : session.lifecycle = .uninitialized :=
      Lifecycle.eq_uninitialized_of_stage fresh
    have idle : session.stage.hasLiveServer = false := by
      rw [fresh]
      rfl
    rw [(stopping_spared machine idle quiet quiet' quiet'').1]
    exact turns_of_fresh new quiets

end Whole

end WorkspaceServers.Session
