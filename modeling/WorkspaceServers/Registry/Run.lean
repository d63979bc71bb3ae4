import WorkspaceServers.Registry.Basic
import WorkspaceServers.Session.Run

/-!
Runs of a registry. Callers ask for sessions and take them out in any order, and each
session lives on by itself, whether it is still in the map or not.
-/

namespace WorkspaceServers.Registry

inductive Event where
  | getOrCreate (identity : Workspace.Identity)
  | get (resource slug : String)
  | remove (resource slug : String)
  /-- Takes all sessions out; what stops them follows as events of the sessions. -/
  | drain
  | session (number : Nat) (event : Session.Event)

def step (machine : Launch.Machine) (registry : Registry) : Event → Registry × Option Nat
  | .getOrCreate identity =>
    let (registry, number) := registry.getOrCreate identity
    (registry, some number)
  | .get resource slug => (registry, registry.get? resource slug)
  | .remove resource slug => registry.remove resource slug
  | .drain => (registry.drain.1, none)
  | .session number event =>
    match registry.session? number with
    | none => (registry, none)
    | some session => (registry.setSession number (session.step machine event).1, none)

def run (machine : Launch.Machine) (registry : Registry) :
    List Event → Registry × List (Option Nat)
  | [] => (registry, [])
  | event :: rest =>
    let (registry, answer) := registry.step machine event
    let (registry, answers) := registry.run machine rest
    (registry, answer :: answers)

end WorkspaceServers.Registry
