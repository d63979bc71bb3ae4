import WorkspaceServers.CommandLine.Run
import WorkspaceServers.Proofs.Launch.Precedence
import WorkspaceServers.Proofs.Path.Composition
import WorkspaceServers.Proofs.Workspace.Sources

/-!
What becomes of the texts in a config file. Those for a launch and for the base of the storage
are expanded before anything else sees them. The app group is not, so the containers are named
by the text as it stands in the file.
-/

namespace WorkspaceServers.Config

open Launch (Setting)
open Workspace (Storage StorageError defaultAppGroup storageRootVariable)

namespace Settings

def rootText? (settings : Settings) : Option String := settings.storage.bind StorageSection.root

def groupText? (settings : Settings) : Option String :=
  settings.storage.bind StorageSection.appGroup

end Settings

/-- The way of each text of the file into the program. -/
structure TakesUp (settings : Settings) (environment : Environment) : Prop where
  launch : ∀ setting : Setting, (settings.launchDefaults environment).raw? setting.name =
    (settings.configured setting).map environment.expand
  launch_only : ∀ key, (∀ setting : Setting, setting.name ≠ key) →
    (settings.launchDefaults environment).raw? key = none
  base : Storage.Resolves (environment.raw? storageRootVariable)
    (settings.rootText?.map fun text => .ofString (environment.expand text))
    (environment.dataDirectory?.map fun directory => directory.push (.ofString "sourcebridge"))
    (settings.groupText?.getD defaultAppGroup) (settings.resolveStorage environment)
  container : ∀ storage, settings.resolveStorage environment = .ok storage → ∀ group,
    storage.root group =
      storage.base.extend (group ++ "." ++ settings.groupText?.getD defaultAppGroup)
  /-- A container is named as if the app group had been expanded only where this would change
  nothing in its segments. -/
  expanded_iff : ∀ storage text, settings.resolveStorage environment = .ok storage →
    settings.groupText? = some text → ∀ group,
      (storage.root group =
          storage.base.extend (group ++ "." ++ environment.expand text) ↔
        Path.segments (group ++ "." ++ text).toList =
          Path.segments (group ++ "." ++ environment.expand text).toList)
  setup : ∀ (arguments : CommandLine.Arguments) (state : Path → FileState),
    CommandLine.loadSettings arguments environment state = .ok settings →
      CommandLine.prepare arguments environment state =
        ((settings.resolveStorage environment).mapError .storage).map fun storage =>
          { storage
            options := settings.sessionOptions
            context := arguments.launchContext.mergedOver (settings.launchDefaults environment) }

variable {settings : Settings} {environment : Environment} {storage : Storage}

section Contexts

theorem raw?_ofList_of_absent {entries : List (String × String)} {key : String}
    (absent : ∀ entry ∈ entries, entry.1 ≠ key) :
    (Launch.Context.ofList entries).raw? key = none := by
  rw [Launch.Context.raw?, Launch.Context.ofList, Keyed.find?_ofList, Keyed.find?_eq_none_iff]
  intro entry member
  exact absent entry (List.mem_reverse.mp member)

theorem raw?_ofSettings_of_other {given : List (Setting × Option String)} {key : String}
    (other : ∀ setting : Setting, setting.name ≠ key) :
    (Launch.Context.ofSettings given).raw? key = none := by
  apply raw?_ofList_of_absent
  intro entry member
  obtain ⟨⟨setting, value?⟩, -, named⟩ := List.mem_filterMap.mp member
  obtain ⟨value, -, rfl⟩ := Option.map_eq_some_iff.mp named
  exact other setting

theorem raw?_launchDefaults_of_other {key : String}
    (other : ∀ setting : Setting, setting.name ≠ key) :
    (settings.launchDefaults environment).raw? key = none := by
  unfold Settings.launchDefaults
  split
  · rfl
  · exact raw?_ofSettings_of_other other

end Contexts

section Storages

theorem resolves_resolveStorage (settings : Settings) (environment : Environment) :
    Storage.Resolves (environment.raw? storageRootVariable)
      (settings.rootText?.map fun text => .ofString (environment.expand text))
      (environment.dataDirectory?.map fun directory => directory.push (.ofString "sourcebridge"))
      (settings.groupText?.getD defaultAppGroup) (settings.resolveStorage environment) :=
  Storage.resolves _ _ _ _

theorem root_of_resolveStorage (resolved : settings.resolveStorage environment = .ok storage)
    (group : String) :
    storage.root group =
      storage.base.extend (group ++ "." ++ settings.groupText?.getD defaultAppGroup) := by
  obtain ⟨-, named⟩ := ((resolves_resolveStorage settings environment).ok_iff storage).mp resolved
  rw [Storage.root, named]

end Storages

theorem prepare_of_loadSettings {arguments : CommandLine.Arguments} {state : Path → FileState}
    (loaded : CommandLine.loadSettings arguments environment state = .ok settings) :
    CommandLine.prepare arguments environment state =
      ((settings.resolveStorage environment).mapError .storage).map fun storage =>
        { storage
          options := settings.sessionOptions
          context :=
            arguments.launchContext.mergedOver (settings.launchDefaults environment) } := by
  rw [CommandLine.prepare, loaded]
  show ((settings.resolveStorage environment).mapError CommandLine.Problem.storage >>=
    fun storage => _) = _
  cases settings.resolveStorage environment with
  | error problem => rfl
  | ok storage => rfl

theorem texts_taken_up (settings : Settings) (environment : Environment) :
    TakesUp settings environment := by
  constructor
  · exact Launch.raw?_launchDefaults settings environment
  · intro key other
    exact raw?_launchDefaults_of_other other
  · exact resolves_resolveStorage settings environment
  · intro storage resolved group
    exact root_of_resolveStorage resolved group
  · intro storage text resolved written group
    rw [root_of_resolveStorage resolved, written]
    exact Path.extend_inj storage.base
  · intro arguments state loaded
    exact prepare_of_loadSettings loaded

/-- Of two texts that name one variable, the base is expanded and the app group is not. -/
theorem appGroup_unexpanded :
    let settings : Settings := ⟨some ⟨some "/srv/$\x7bORG\x7d", some "$\x7bORG\x7d.app"⟩, none⟩
    let environment : Environment := ⟨[("ORG", Utf8.ofString "acme")]⟩
    (settings.resolveStorage environment).map (fun storage => storage.root "GRP") =
        .ok (.ofString "/srv/acme/GRP.$\x7bORG\x7d.app") ∧
      environment.expand "$\x7bORG\x7d.app" = "acme.app" := by
  decide +kernel

end WorkspaceServers.Config
