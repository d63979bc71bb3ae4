import WorkspaceServers.Pending.Desk

/-!
Runs of the map of waiting requests: registrations, answers, closes, and waiters that are
given up part by part, in any order.
-/

namespace WorkspaceServers.Pending

inductive Event where
  | register (id : UInt64)
  | complete (id : UInt64) (outcome : Outcome)
  | close
  | dropGuard (number : Nat)
  | dropReceiver (number : Nat)

namespace Desk

def step (desk : Desk) : Event → Desk
  | .register id => (desk.register id).1
  | .complete id outcome => (desk.complete id outcome).1
  | .close => desk.close.1
  | .dropGuard number => (desk.dropGuard number).1
  | .dropReceiver number => desk.dropReceiver number

def run (desk : Desk) (events : List Event) : Desk := events.foldl step desk

end Desk

end WorkspaceServers.Pending
