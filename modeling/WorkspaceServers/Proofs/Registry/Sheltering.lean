import Mathlib.Logic.Basic
import WorkspaceServers.Proofs.Registry.Runs
import WorkspaceServers.Proofs.Session.Returning
import WorkspaceServers.Proofs.Workspace.Sources

/-!
Paths without a URI. A storage has an absolute base or is not made at all, so no session that
is found through a registry can come upon such a path. A session under any other root does,
but only as long as it has no server, and its handshake then never gets one.
-/

namespace WorkspaceServers.Registry

open Workspace (Identity Storage documentPath)

/-- All paths below the storage are absolute, and whatever is done with the sessions of a
registry over it, no path is ever to blame. -/
structure Shelters (storage : Storage) : Prop where
  base : storage.base.isAbsolute = true
  root : ∀ group, (storage.root group).isAbsolute = true
  documentRoot : ∀ identity, (storage.documentRoot identity).isAbsolute = true
  document : ∀ identity name,
    (documentPath (storage.documentRoot identity) name).isAbsolute = true
  spares : ∀ machine options events number session later,
    ((create storage options).run machine events).1.session? number = some session →
      Session.Leads session later → later.Spared

theorem shelters (storage : Storage) : Shelters storage := by
  have documentRoot := Workspace.isAbsolute_documentRoot storage
  constructor
  · exact storage.absolute
  · intro group
    exact Path.isAbsolute_extend storage.absolute _
  · exact documentRoot
  · intro identity name
    exact Path.isAbsolute_extend (documentRoot identity) name
  · intro machine options events number session later found led
    apply Session.spared_of_absolute
    have sound := (sound_create storage options).run machine events
    have rooted := sound.rooted session (List.mem_of_getElem? found)
    rw [(settings_run machine _ events).1] at rooted
    rw [led.root, rooted]
    exact documentRoot session.identity

theorem no_path_to_blame :
    (∀ override configured fallback appGroup,
      Storage.Resolves override configured fallback appGroup
        (Storage.resolve override configured fallback appGroup)) ∧
    (∀ override configured fallback appGroup storage,
      Storage.resolve override configured fallback appGroup = .ok storage →
        Shelters storage) ∧
    ∀ identity root options session,
      Session.Leads (Session.create identity root options) session →
        session.stage ≠ .uninitialized → session.Spared := by
  constructor
  · exact Storage.resolves
  constructor
  · intro override configured fallback appGroup storage _
    -- No storage has another base, however it was made.
    exact shelters storage
  · intro identity root options session led begun
    apply Session.spared_of_absolute
    exact led.grounded (Session.grounded_create identity root options) begun

/-- An empty override is passed over for the configured base. A session that has been launched
under a root of its own is safe as well, but a handshake under a relative root fails for it. -/
theorem no_path_to_blame_configured :
    let machine : Launch.Machine := ⟨7, fun _ => some (.ofString "/bin/lsp"), fun _ => true⟩
    let context := Launch.Context.ofList
      [("serverPath", "lsp"), ("SDKPath", "sdk"), ("target", "x86")]
    let identity : Identity := ⟨"default", "host", "demo"⟩
    let storage : Storage := ⟨.ofString "/srv", "app", by decide⟩
    let stored := Session.create identity (storage.documentRoot identity) .default
    let standing := Session.create identity (.ofString "/demo") .default
    let launched := standing.turn machine (.event (.start (.handshake context)))
    let wandering := Session.create identity (.ofString "demo") .default
    Storage.resolve (some []) (some (.ofString "/srv")) (some (.ofString "share")) "app" =
        .ok storage ∧
      stored.Spared ∧ launched.stage = .initialized ∧ launched.Spared ∧
      Session.Returns machine wandering (.handshake context)
        (.error (.invalidPath (.ofString "demo"))) := by
  intro machine context identity storage stored standing launched wandering
  obtain ⟨resolves, shelters, later⟩ := no_path_to_blame
  have resolved := ((resolves (some []) (some (.ofString "/srv")) (some (.ofString "share"))
    "app").ok_iff storage).mpr ⟨.configured (.inr rfl) rfl, rfl⟩
  have spares := (shelters _ _ _ _ storage resolved).spares machine .default
    [.getOrCreate identity] 0 stored stored rfl .refl
  have led : Session.Leads standing launched := .turn machine _ .refl
  have begun : launched.stage = .initialized := rfl
  have spares' := later identity _ .default launched led
    (begun.trans_ne Session.Stage.noConfusion)
  exact ⟨resolved, spares, begun, spares', .atOnce rfl⟩

end WorkspaceServers.Registry
