import WorkspaceServers.Path.Basic
import WorkspaceServers.Workspace.Key

/-!
Where workspaces live: one container for each install group under a base directory,
and in it a directory for each resource and slug. The base is absolute, and everything
below it is composed segment by segment, so nothing leaves its container.
-/

namespace WorkspaceServers.Workspace

def storageRootVariable : String := "SOURCEBRIDGE_STORAGE_ROOT"

def defaultAppGroup : String := "com.sourcebridge.workspaces"

inductive StorageError where
  | unresolved
  | notAbsolute (base : Path)
deriving DecidableEq

def StorageError.message : StorageError → String
  | unresolved =>
    "shared storage location could not be resolved; set " ++ storageRootVariable ++
      " or [storage].root"
  | notAbsolute base =>
    "shared storage root " ++ base.display ++ " must be an absolute path"

structure Storage where
  base : Path
  appGroup : String
  absolute : base.isAbsolute = true
deriving DecidableEq

namespace Storage

def ofBase (base : Path) (appGroup : String) : Except StorageError Storage :=
  if absolute : base.isAbsolute = true then .ok ⟨base, appGroup, absolute⟩
  else .error (.notAbsolute base)

/-- The base that counts: an override that is not empty, then the configured one, then
the fallback. -/
def chooseBase? (override configured fallback : Option Path) : Option Path :=
  (override.filter (· ≠ [])).or (configured.or fallback)

def resolve (override configured fallback : Option Path) (appGroup : String) :
    Except StorageError Storage :=
  match chooseBase? override configured fallback with
  | none => .error .unresolved
  | some base => ofBase base appGroup

def root (storage : Storage) (group : String) : Path :=
  storage.base.extend (group ++ "." ++ storage.appGroup)

def documentRoot (storage : Storage) (identity : Identity) : Path :=
  ((storage.root identity.group).extend identity.resource).extend identity.slug

end Storage

end WorkspaceServers.Workspace
