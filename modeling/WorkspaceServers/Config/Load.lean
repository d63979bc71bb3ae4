import WorkspaceServers.Config.Settings
import WorkspaceServers.Launch.Context
import WorkspaceServers.Session.Options
import WorkspaceServers.Workspace.Storage

/-!
From the config file to what a session needs: launch defaults, limits in time, and the
storage. Texts from the file that name paths, a target or the storage are expanded.
-/

namespace WorkspaceServers.Config

inductive FileState where
  | missing
  | unreadable
  | content (bytes : Bytes)

inductive Error where
  | unreadable (path : Path)
  | malformed (path : Path)

namespace Error

def path : Error → Path
  | unreadable path => path
  | malformed path => path

def message : Error → String
  | unreadable path => "failed to read config at " ++ path.display
  | malformed path => "failed to parse config at " ++ path.display

end Error

def load (path : Path) : FileState → Except Error (Option Settings)
  | .missing => .ok none
  | .unreadable => .error (.unreadable path)
  | .content bytes =>
    match Utf8.decode? bytes with
    | none => .error (.unreadable path)
    | some text =>
      match Settings.parse? text with
      | some settings => .ok (some settings)
      | none => .error (.malformed path)

def directory (home : Path) : Path := home.push (.ofString ".sourcebridge")

def defaultPath (home : Path) : Path := (directory home).push (.ofString "config.toml")

def logDirectory (home : Path) : Path := (directory home).push (.ofString "logs")

def logName : String := "sourcebridge.log"

namespace Settings

def launchDefaults (settings : Settings) (environment : Environment) : Launch.Context :=
  match settings.server with
  | none => .empty
  | some server =>
    .ofSettings [(.serverPath, server.path.map environment.expand),
      (.sdkPath, server.sdkPath.map environment.expand),
      (.target, server.target.map environment.expand),
      (.toolchain, server.toolchain.map environment.expand)]

def sessionOptions (settings : Settings) : Session.Options :=
  match settings.server with
  | none => .default
  | some server =>
    { requestTimeout := server.requestTimeout.map fun seconds => .ofSeconds seconds.toNat
      exitGrace :=
        (server.exitGrace.map fun ms => ⟨ms.toNat⟩).getD Session.Options.default.exitGrace }

/-- The app group is taken as it stands. -/
def appGroup (settings : Settings) : String :=
  (settings.storage.bind StorageSection.appGroup).getD Workspace.defaultAppGroup

def storageRoot? (settings : Settings) (environment : Environment) : Option Path :=
  (settings.storage.bind StorageSection.root).map fun root => .ofString (environment.expand root)

def resolveStorage (settings : Settings) (environment : Environment) :
    Except Workspace.StorageError Workspace.Storage :=
  Workspace.Storage.resolve (environment.raw? Workspace.storageRootVariable)
    (settings.storageRoot? environment)
    (environment.dataDirectory?.map fun directory => directory.push (.ofString "sourcebridge"))
    settings.appGroup

end Settings

end WorkspaceServers.Config
