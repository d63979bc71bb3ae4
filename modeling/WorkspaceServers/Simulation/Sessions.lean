import WorkspaceServers.Registry.Sweep
import WorkspaceServers.Simulation.Wire

/-!
A registry put through tasks: its sessions get servers in memory, calls on them are
started and numbered, time passes only on demand, and after every task all is done that
can be done.
-/

namespace WorkspaceServers.Simulation

open Session (Operation Question Reply)

structure Awaited where
  session : Nat
  id : UInt64
  question : Question
  deadline : Option Nat

/-- A call under way: what it waits for and what it does afterwards. A sweep goes through
its plan whatever the single results are. -/
structure Running where
  number : Nat
  awaited : Awaited
  plan : List (Nat × Operation)
  sweep : Bool

structure Office where
  registry : Registry
  machine : Launch.Machine
  peers : List (Nat × Peer)
  now : Nat
  started : Nat
  running : List Running

inductive Task where
  | getOrCreate (identity : Workspace.Identity)
  | get (resource slug : String)
  | remove (resource slug : String)
  | create (identity : Workspace.Identity) (root : Path)
  | attach (session : Nat)
  | call (session : Nat) (operation : Operation)
  | stopAll
  | send (session : Nat) (bytes : Bytes)
  | closeOut (session : Nat)
  | closeIn (session : Nat)
  | close (session : Nat)
  | cancel (call : Nat)
  | advance (milliseconds : Nat)

inductive TaskAnswer where
  | session (number : Option Nat)
  | call (number : Nat)
  | sent (accepted : Bool)
  | failed (count : Nat)
  | nothing

abbrev Finished := List (Nat × Except Failure Reply)

namespace Office

def create (registry : Registry) (machine : Launch.Machine) : Office :=
  ⟨registry, machine, [], 0, 0, []⟩

def session? (office : Office) (number : Nat) : Option Session := office.registry.session? number

def setSession (number : Nat) (session : Session) (office : Office) : Office :=
  { office with registry := office.registry.setSession number session }

def peer? (office : Office) (number : Nat) : Option Peer := office.peers.lookup number

def setPeer (number : Nat) (peer : Peer) (office : Office) : Office :=
  { office with peers := (number, peer) :: office.peers.filter fun entry => entry.1 ≠ number }

def flush (number : Nat) (office : Office) : Office :=
  match office.session? number with
  | none => office
  | some session =>
    office.setSession number (session.withTransport fun transport => (transport.flush, [])).1

def flushAll (office : Office) : Office :=
  (List.range office.registry.sessions.length).foldl (fun office number => office.flush number)
    office

def await (awaited : Registry.Awaited) (office : Office) : Office × Awaited :=
  let limit := (office.session? awaited.number).bind fun session => session.options.requestTimeout
  (office.flush awaited.number,
    ⟨awaited.number, awaited.id, awaited.question,
      limit.map fun span => office.now + span.milliseconds⟩)

def begin (number : Nat) (operation : Operation) (office : Office) :
    Office × (Except Failure Reply ⊕ Awaited) :=
  let (registry, progress) := office.registry.begin office.machine number operation
  let office := { office with registry }
  match progress with
  | .finished result => (office, .inl result)
  | .waiting id question =>
    let (office, awaited) := office.await ⟨number, id, question⟩
    (office, .inr awaited)

def sweepOn (plan : List (Nat × Operation)) (office : Office) :
    Office × Option (Awaited × List (Nat × Operation)) :=
  let sweep := Registry.Sweep.advance office.machine ⟨office.registry, plan, none⟩
  let office := { office with registry := sweep.registry }
  match sweep.awaited with
  | none => (office, none)
  | some awaited =>
    let (office, awaited) := office.await awaited
    (office, some (awaited, sweep.plan))

def resume (call : Running) (outcome : Except Failure Json) (office : Office) : Office × Finished :=
  if call.sweep then
    match sweepOn call.plan office with
    | (office, none) => (office, [(call.number, .ok .done)])
    | (office, some (awaited, plan)) =>
      ({ office with running := office.running ++ [{ call with awaited, plan }] }, [])
  else (office, [(call.number, call.awaited.question.conclude outcome)])

def resolve (number : Nat) (resolved : List Transport.Resolution) (office : Office) :
    Office × Finished :=
  resolved.foldl (fun (office, done) resolution =>
    let isMeant (call : Running) : Bool :=
      call.awaited.session = number && call.awaited.id = resolution.id
    match office.running.find? isMeant with
    | none => (office, done)
    | some call =>
      let office := { office with running := office.running.filter fun call => !isMeant call }
      let (office, more) := resume call resolution.outcome office
      (office, done ++ more)) (office, [])

def onTransport (number : Nat) (event : Transport → Transport × List Transport.Resolution)
    (office : Office) : Office × List Transport.Resolution :=
  match office.session? number with
  | none => (office, [])
  | some session =>
    let (session, resolved) := session.withTransport event
    (office.setSession number session, resolved)

def expireAll : Nat → Office → Office × Finished
  | 0, office => (office, [])
  | fuel + 1, office =>
    match office.running.find? fun call => call.awaited.deadline.any (· ≤ office.now) with
    | none => (office, [])
    | some call =>
      let number := call.awaited.session
      let (office, resolved) := office.onTransport number fun transport =>
        transport.expire call.awaited.id
      let (office, done) := resolve number resolved office
      let (office, more) := expireAll fuel office
      (office, done ++ more)

/-- A bound on the waits that can still end: each call's own and those of its plan. -/
def waits (office : Office) : Nat :=
  office.running.foldl (fun total call => total + call.plan.length + 1) 0

def sendTo (number : Nat) (bytes : Bytes) (office : Office) : Office × Bool × Finished :=
  let open? := (office.session? number).bind Session.transport?
  match office.peer? number, open? with
  | some peer, some transport =>
    if peer.sending && transport.reading then
      let (office, resolved) := office.onTransport number fun transport => transport.receive bytes
      let (office, done) := resolve number resolved office
      (office, true, done)
    else (office, false, [])
  | _, _ => (office, false, [])

def act (office : Office) : Task → Office × TaskAnswer × Finished
  | .getOrCreate identity =>
    let (registry, number) := office.registry.getOrCreate identity
    ({ office with registry }, .session (some number), [])
  | .get resource slug => (office, .session (office.registry.get? resource slug), [])
  | .remove resource slug =>
    let (registry, number?) := office.registry.remove resource slug
    ({ office with registry }, .session number?, [])
  | .create identity root =>
    let (registry, number) :=
      office.registry.enroll (.create identity root office.registry.options)
    ({ office with registry }, .session (some number), [])
  | .attach number =>
    match office.session? number with
    | none => (office, .nothing, [])
    | some session =>
      let session := session.attach (.start session.options.requestTimeout)
      ((office.setSession number session).setPeer number .fresh, .nothing, [])
  | .call number operation =>
    let call := office.started
    let office := { office with started := call + 1 }
    match office.begin number operation with
    | (office, .inl result) => (office, .call call, [(call, result)])
    | (office, .inr awaited) =>
      ({ office with running := office.running ++ [⟨call, awaited, [], false⟩] }, .call call, [])
  | .stopAll =>
    let call := office.started
    let (registry, plan) := office.registry.drain
    match sweepOn plan { office with registry, started := call + 1 } with
    | (office, none) => (office, .call call, [(call, .ok .done)])
    | (office, some (awaited, plan)) =>
      ({ office with running := office.running ++ [⟨call, awaited, plan, true⟩] }, .call call, [])
  | .send number bytes =>
    let (office, accepted, done) := office.sendTo number bytes
    (office, .sent accepted, done)
  | .closeOut number =>
    match office.peer? number with
    | none => (office, .nothing, [])
    | some peer =>
      let (office, resolved) := office.onTransport number Transport.endInbound
      let (office, done) := resolve number resolved office
      (office.setPeer number { peer with sending := false }, .nothing, done)
  | .closeIn number =>
    match office.peer? number with
    | none => (office, .nothing, [])
    | some peer =>
      let (office, _) := office.onTransport number fun transport => (transport.shutSink, [])
      (office.setPeer number { peer with listening := false }, .nothing, [])
  | .close number =>
    let (office, resolved) := office.onTransport number Transport.close
    let (office, done) := resolve number resolved office
    (office, .failed resolved.length, done)
  | .cancel number =>
    let cancelled := office.running.filter fun call => call.number = number
    let office := { office with running := office.running.filter fun call => call.number ≠ number }
    (cancelled.foldl (fun office call =>
      (office.onTransport call.awaited.session fun transport =>
        (transport.abandon call.awaited.id, [])).1) office, .nothing, [])
  | .advance milliseconds => ({ office with now := office.now + milliseconds }, .nothing, [])

def look (office : Office) : Office × List (Nat × List Seen) :=
  office.peers.foldl (fun (office, seen) (number, peer) =>
    match (office.session? number).bind Session.transport? with
    | none => (office, seen)
    | some transport =>
      let (peer, items) := peer.look transport
      (office.setPeer number peer, (number, items) :: seen)) (office, [])

structure TaskReport where
  answer : TaskAnswer
  done : Finished
  seen : List (Nat × List Seen)

def perform (office : Office) (task : Task) : Office × TaskReport :=
  let (office, answer, done) := office.act task
  let office := office.flushAll
  let (office, late) := expireAll office.waits office
  let (office, seen) := office.flushAll.look
  (office, ⟨answer, done ++ late, seen⟩)

end Office

end WorkspaceServers.Simulation
