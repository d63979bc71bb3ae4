import WorkspaceServers.Registry.Basic
import WorkspaceServers.Simulation.Script

/-!
A host with one session whose server is a scripted process. The server gets to work when
the host waits for something, and time passes only then: up to the next limit that
matters, be it a request's or that of the process after it was told to end.
-/

namespace WorkspaceServers.Simulation

open Session (Operation Question Reply)

abbrev Result := Except Failure Reply

structure Wait where
  call : Option Nat
  id : UInt64
  question : Question
  deadline : Option Nat

structure Host where
  registry : Registry
  number : Nat
  machine : Launch.Machine
  script : Script
  process : Option Process
  launched : Option Launch.Command
  now : Nat
  killAt : Option Nat
  started : Nat
  waits : List Wait
  results : List (Option Nat × Result)

namespace Host

def create (registry : Registry) (number : Nat) (machine : Launch.Machine) (script : Script) :
    Host :=
  ⟨registry, number, machine, script, none, none, 0, none, 0, [], []⟩

def session? (host : Host) : Option Session := host.registry.session? host.number

def stage (host : Host) : Session.Stage := (host.session?.map Session.stage).getD .uninitialized

def setSession (session : Session) (host : Host) : Host :=
  { host with registry := host.registry.setSession host.number session }

def resolve (resolved : List Transport.Resolution) (host : Host) : Host :=
  let outcome? (wait : Wait) := resolved.find? fun resolution => resolution.id = wait.id
  { host with
    waits := host.waits.filter fun wait => (outcome? wait).isNone
    results := host.results ++ host.waits.filterMap fun wait =>
      (outcome? wait).map fun resolution => (wait.call, wait.question.conclude resolution.outcome) }

def onLink (event : Link → Link) (host : Host) : Host :=
  match host.process, host.session?, host.session?.bind Session.server? with
  | some process, some session, some server =>
    let link := event ⟨process, server.transport, []⟩
    { host with process := some link.process }.setSession
      (session.setServer { server with transport := link.transport })
      |>.resolve link.resolved
  | _, _, _ => host

def settle (host : Host) : Host := host.onLink Link.settle

def isDead (host : Host) : Bool := (host.process.map fun process => !process.alive).getD true

def noticeEnd (host : Host) : Host :=
  match host.session? with
  | none => host
  | some session =>
    let (session, resolved) := session.processEnded
    (host.setSession session).resolve resolved

def expire (wait : Wait) (host : Host) : Host :=
  match host.session? with
  | none => host
  | some session =>
    let (session, resolved) := session.withTransport fun transport => transport.expire wait.id
    (host.setSession session).resolve resolved

def passTo (moment : Nat) (host : Host) : Host :=
  let host := { host with now := max host.now moment }
  (host.waits.filter fun wait => wait.deadline.any (· ≤ moment)).foldl
    (fun host wait => host.expire wait) host

def kill (host : Host) : Host := (host.onLink Link.finish).noticeEnd

def nextMoment? (host : Host) : Option Nat :=
  (host.waits.filterMap Wait.deadline ++ host.killAt.toList).min?

def begin (call : Option Nat) (operation : Operation) (host : Host) : Host :=
  match host.session? with
  | none => { host with results := host.results ++ [(call, .error .terminated)] }
  | some session =>
    let started := session.start host.machine operation
    let (flushed, _) := started.session.withTransport fun transport => (transport.flush, [])
    let host := host.setSession flushed
    let host := match started.launched with
      | some command =>
        { host with launched := some command, process := some (.launch host.script) }
      | none => host
    let host :=
      if started.signalled then
        { host with killAt := some (host.now + session.options.exitGrace.milliseconds) }
      else host
    match started.progress with
    | .finished result => { host with results := host.results ++ [(call, result)] }
    | .waiting id question =>
      let deadline := session.options.requestTimeout.map fun span => host.now + span.milliseconds
      { host with waits := host.waits ++ [⟨call, id, question, deadline⟩] }

def result? (call : Option Nat) (host : Host) : Option Result := host.results.lookup call

/-- Waits until a call has its result; gives up when nothing can happen any more. -/
def await (call : Option Nat) : Nat → Host → Host × Result
  | 0, host => (host, (host.result? call).getD (.error .terminated))
  | fuel + 1, host =>
    match host.result? call with
    | some result => (host, result)
    | none =>
      let host := host.settle
      match host.result? call with
      | some result => (host, result)
      | none =>
        if host.isDead then await call fuel host.noticeEnd
        else match host.nextMoment? with
          | none => (host, .error .terminated)
          | some moment =>
            let host := host.passTo moment
            await call fuel (if host.killAt.any (· ≤ moment) then host.kill else host)

/-- Enough rounds for every wait to end and the process too. -/
def rounds (host : Host) : Nat := host.waits.length + 3

def forget (call : Option Nat) (host : Host) : Host :=
  { host with results := host.results.filter fun entry => entry.1 ≠ call }

def perform (operation : Operation) (host : Host) : Host × Result :=
  let host := (host.forget none).begin none operation
  host.await none host.rounds

def spawn (operation : Operation) (host : Host) : Host × Nat :=
  let call := host.started
  (({ host with started := call + 1 }).begin (some call) operation, call)

def join (call : Nat) (host : Host) : Host × Result := host.await (some call) host.rounds

def cancel (call : Nat) (host : Host) : Host :=
  let (dropped, waits) := host.waits.partition fun wait => wait.call = some call
  match host.session? with
  | none => host
  | some session =>
    { host with waits }.setSession (dropped.foldl (fun session (wait : Wait) =>
      (session.withTransport fun transport => (transport.abandon wait.id, [])).1) session)

def awaitEnd (host : Host) : Host :=
  let host := host.settle
  if !host.stage.hasLiveServer then host
  else if host.isDead then host.noticeEnd
  else match host.killAt with
    | none => host
    | some moment => (host.passTo moment).kill

def stopAll (host : Host) : Host :=
  let (registry, plan) := host.registry.drain
  plan.foldl (fun host (_, operation) => (host.perform operation).1) { host with registry }

def remove (resource slug : String) (host : Host) : Host × Option Nat :=
  let (registry, number?) := host.registry.remove resource slug
  ({ host with registry }, number?)

def received (host : Host) : List Json := (host.settle.process.map Process.received).getD []

end Host

end WorkspaceServers.Simulation
