import WorkspaceServers.Session.Basic
import WorkspaceServers.Workspace.Storage

/-!
The sessions of a host, found by the key of their workspace. A session is made when it
is first asked for and is known by its number from then on; what has left the map keeps
its number.
-/

namespace WorkspaceServers

structure Registry where
  storage : Workspace.Storage
  options : Session.Options
  entries : List (Workspace.Key × Nat)
  /-- Every session there ever was, by its number. -/
  sessions : List Session

namespace Registry

def create (storage : Workspace.Storage) (options : Session.Options) : Registry :=
  ⟨storage, options, [], []⟩

def size (registry : Registry) : Nat := registry.entries.length

def enroll (session : Session) (registry : Registry) : Registry × Nat :=
  ({ registry with sessions := registry.sessions ++ [session] }, registry.sessions.length)

def find? (registry : Registry) (key : Workspace.Key) : Option Nat := registry.entries.lookup key

/-- The stored session of the workspace, whichever install group it was made for, or a
new one under the storage of the group. -/
def getOrCreate (registry : Registry) (identity : Workspace.Identity) : Registry × Nat :=
  match registry.find? identity.key with
  | some number => (registry, number)
  | none =>
    let session := Session.create identity (registry.storage.documentRoot identity) registry.options
    let (registry, number) := registry.enroll session
    ({ registry with entries := registry.entries ++ [(identity.key, number)] }, number)

def get? (registry : Registry) (resource slug : String) : Option Nat :=
  registry.find? (.ofParts resource slug)

/-- The session that leaves the map; its server is not touched. -/
def remove (registry : Registry) (resource slug : String) : Registry × Option Nat :=
  let key := Workspace.Key.ofParts resource slug
  ({ registry with entries := registry.entries.filter fun entry => entry.1 ≠ key },
    registry.find? key)

def session? (registry : Registry) (number : Nat) : Option Session := registry.sessions[number]?

def setSession (number : Nat) (session : Session) (registry : Registry) : Registry :=
  { registry with sessions := registry.sessions.set number session }

/-- What is to be done, one after another, to stop some sessions. How the one ends
changes nothing for the others. -/
def stopPlan (numbers : List Nat) : List (Nat × Session.Operation) :=
  numbers.flatMap fun number => [(number, .shutdown), (number, .exit)]

def drain (registry : Registry) : Registry × List (Nat × Session.Operation) :=
  ({ registry with entries := [] }, stopPlan (registry.entries.map Prod.snd))

end Registry

end WorkspaceServers
