import WorkspaceServers.Simulation.Wire

/-!
A transport put through steps: calls are started and numbered, time passes only on
demand, and after every step all is done that can be done.
-/

namespace WorkspaceServers.Simulation

structure Call where
  number : Nat
  id : UInt64
  deadline : Option Nat

structure Bench where
  wire : Wire
  now : Nat
  started : Nat
  waiting : List Call

inductive Step where
  | request (method : String) (params : Option Json)
  | notify (method : String) (params : Option Json)
  | send (bytes : Bytes)
  | closeOut
  | closeIn
  | close
  | cancel (call : Nat)
  | advance (milliseconds : Nat)

inductive Answer where
  | call (number : Nat)
  | sent (accepted : Bool)
  | failed (count : Nat)
  | nothing

structure Report where
  answer : Answer
  done : List (Nat × Except Failure Json)
  seen : List Seen

namespace Bench

def start (requestTimeout : Option Duration) : Bench := ⟨.start requestTimeout, 0, 0, []⟩

def resolve (bench : Bench) (resolved : List Transport.Resolution) :
    Bench × List (Nat × Except Failure Json) :=
  let outcome? (call : Call) := resolved.find? fun resolution => resolution.id = call.id
  ({ bench with waiting := bench.waiting.filter fun call => (outcome? call).isNone },
    bench.waiting.filterMap fun call =>
      (outcome? call).map fun resolution => (call.number, resolution.outcome))

def isDue (bench : Bench) (call : Call) : Bool := call.deadline.any (· ≤ bench.now)

def expire (bench : Bench) : Bench × List (Nat × Except Failure Json) :=
  let (transport, resolved) := (bench.waiting.filter bench.isDue).foldl
    (fun (transport, resolved) call =>
      let (transport, more) := transport.expire call.id
      (transport, resolved ++ more)) (bench.wire.transport, [])
  { bench with wire := { bench.wire with transport } }.resolve resolved

def act (bench : Bench) : Step → Bench × Answer × List (Nat × Except Failure Json)
  | .request method params =>
    let number := bench.started
    let (transport, id, failure?) := bench.wire.transport.request method params
    let bench := { bench with wire := { bench.wire with transport }, started := number + 1 }
    match failure? with
    | some failure => (bench, .call number, [(number, .error failure)])
    | none =>
      let deadline := transport.requestTimeout.map fun span => bench.now + span.milliseconds
      ({ bench with waiting := bench.waiting ++ [⟨number, id, deadline⟩] }, .call number, [])
  | .notify method params =>
    let number := bench.started
    let (transport, outcome) := bench.wire.transport.notify method params
    ({ bench with wire := { bench.wire with transport }, started := number + 1 }, .call number,
      [(number, outcome.map fun _ => .null)])
  | .send bytes =>
    let (wire, accepted, resolved) := bench.wire.send bytes
    let (bench, done) := { bench with wire }.resolve resolved
    (bench, .sent accepted, done)
  | .closeOut =>
    let (wire, resolved) := bench.wire.closeOut
    let (bench, done) := { bench with wire }.resolve resolved
    (bench, .nothing, done)
  | .closeIn => ({ bench with wire := bench.wire.closeIn }, .nothing, [])
  | .close =>
    let (transport, resolved) := bench.wire.transport.close
    let (bench, done) := { bench with wire := { bench.wire with transport } }.resolve resolved
    (bench, .failed resolved.length, done)
  | .cancel number =>
    let transport := (bench.waiting.filter (·.number = number)).foldl
      (fun transport call => transport.abandon call.id) bench.wire.transport
    ({ bench with
        wire := { bench.wire with transport }
        waiting := bench.waiting.filter (·.number ≠ number) }, .nothing, [])
  | .advance milliseconds => ({ bench with now := bench.now + milliseconds }, .nothing, [])

def step (bench : Bench) (step : Step) : Bench × Report :=
  let (bench, answer, done) := bench.act step
  let (wire, seen) := bench.wire.settle
  let (bench, late) := { bench with wire }.expire
  (bench, ⟨answer, done ++ late, seen⟩)

end Bench

end WorkspaceServers.Simulation
