import WorkspaceServers.Proofs.Session.Launching
import WorkspaceServers.Proofs.Session.Order

/-!
The ground that a server stands on. It is launched only under an absolute root, and the root
never changes, so the documents of a session that has had a server have URIs.
-/

namespace WorkspaceServers.Session

variable {session later : Session}

theorem lifecycle_of_fresh (fresh : session.stage = .uninitialized) :
    session.lifecycle = .uninitialized :=
  congrArg Session.lifecycle (eq_create fresh)

def Grounded (session : Session) : Prop :=
  session.stage ≠ .uninitialized → session.root.isAbsolute = true

theorem root_turn (machine : Launch.Machine) (session : Session) (turn : Turn) :
    (session.turn machine turn).root = session.root := by
  cases turn with
  | event event =>
    obtain ⟨lifecycle, moved, -⟩ := moves_step machine session event
    simp only [Session.turn, moved]
  | shutSink => exact (fades_turn machine session rfl).root

theorem grounded_turn (grounded : Grounded session) (machine : Launch.Machine) (turn : Turn) :
    Grounded (session.turn machine turn) := by
  intro begun
  by_cases fresh : session.stage = .uninitialized
  · have new := lifecycle_of_fresh fresh
    cases operates : turn.operation? with
    | none =>
      rw [turn_of_fresh new operates] at begun
      exact absurd fresh begun
    | some operation =>
      rcases start_of_fresh machine new operation with
        same | ⟨context, command, rootUri, -, prepared⟩
      · rw [turn_operation operates, same] at begun
        exact absurd fresh begun
      · -- The launch asks for the URI of the root.
        have uri := fileUri_of_prepareLaunch prepared
        rw [root_turn]
        exact (Path.fileUri?_isSome_iff session.root).mp (Option.isSome_of_eq_some uri)
  · rw [root_turn]
    exact grounded fresh

theorem Leads.root (led : Leads session later) : later.root = session.root := by
  induction led with
  | refl => rfl
  | turn machine turn led ih => rw [root_turn, ih]

theorem Leads.grounded (led : Leads session later) (grounded : Grounded session) :
    Grounded later := by
  induction led with
  | refl => exact grounded
  | turn machine turn led ih => exact grounded_turn ih machine turn

theorem grounded_create (identity : Workspace.Identity) (root : Path) (options : Options) :
    Grounded (create identity root options) := by
  intro begun
  exact absurd rfl begun

theorem grounded_of_running {server : Server} (grounded : Grounded session)
    (running : session.lifecycle.running = .ok server) : session.root.isAbsolute = true := by
  apply grounded
  rw [stage]
  intro fresh
  cases stands : session.lifecycle with
  | uninitialized =>
    rw [stands] at running
    cases running
  | initialized _ | shuttingDown _ | exited _ =>
    rw [stands] at fresh
    cases fresh

end WorkspaceServers.Session
