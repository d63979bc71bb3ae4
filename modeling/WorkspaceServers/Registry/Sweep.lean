import WorkspaceServers.Registry.Basic
import WorkspaceServers.Session.Journal

/-!
The sweep that stops the sessions of a registry. It goes through its plan operation by
operation, whatever they come to. Where one has to wait, the sweep waits with it, and in the
meantime anything may happen to any of the sessions.
-/

namespace WorkspaceServers.Registry

def begin (machine : Launch.Machine) (number : Nat) (operation : Session.Operation)
    (registry : Registry) : Registry × Session.Progress :=
  match registry.session? number with
  | none => (registry, .finished (.error .terminated))
  | some session =>
    let started := session.start machine operation
    (registry.setSession number started.session, started.progress)

structure Awaited where
  number : Nat
  id : UInt64
  question : Session.Question

namespace Awaited

def ofProgress? (number : Nat) : Session.Progress → Option Awaited
  | .finished _ => none
  | .waiting id question => some ⟨number, id, question⟩

def isMet (number : Nat) (resolved : List Transport.Resolution) (awaited : Awaited) : Bool :=
  awaited.number = number && resolved.any fun resolution => resolution.id = awaited.id

end Awaited

structure Sweep where
  registry : Registry
  plan : List (Nat × Session.Operation)
  awaited : Option Awaited

namespace Sweep

def ofNumbers (numbers : List Nat) (registry : Registry) : Sweep :=
  ⟨registry.drain.1, stopPlan numbers, none⟩

def proceed (machine : Launch.Machine) (sweep : Sweep) : Sweep :=
  match sweep.awaited, sweep.plan with
  | none, (number, operation) :: rest =>
    let (registry, progress) := sweep.registry.begin machine number operation
    ⟨registry, rest, Awaited.ofProgress? number progress⟩
  | none, [] | some _, _ => sweep

def happen (machine : Launch.Machine) (number : Nat) (turn : Session.Turn) (sweep : Sweep) :
    Sweep :=
  match sweep.registry.session? number with
  | none => sweep
  | some session =>
    { sweep with
      registry := sweep.registry.setSession number (session.turn machine turn)
      awaited := sweep.awaited.filter fun awaited =>
        !awaited.isMet number (session.resolvedBy machine turn) }

/-- While the sweep is at work no other caller acts on the sessions. -/
inductive Event where
  | proceed
  | happens (number : Nat) (turn : Session.Turn) (unprompted : turn.isUnprompted = true)

def step (machine : Launch.Machine) (sweep : Sweep) : Event → Sweep
  | .proceed => sweep.proceed machine
  | .happens number turn _ => sweep.happen machine number turn

def run (machine : Launch.Machine) (sweep : Sweep) (events : List Event) : Sweep :=
  events.foldl (step machine) sweep

/-- Goes on until it has to wait or all is done. -/
def advance (machine : Launch.Machine) (sweep : Sweep) : Sweep :=
  sweep.run machine (.replicate sweep.plan.length .proceed)

structure Returned (sweep : Sweep) : Prop where
  done : sweep.plan = []
  idle : sweep.awaited = none

end Sweep

end WorkspaceServers.Registry
