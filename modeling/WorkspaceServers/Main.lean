import WorkspaceServers.CommandLine.Parser
import WorkspaceServers.CommandLine.Text
import WorkspaceServers.Registry.Basic

/-!
The command line program. Servers are started by whoever supervises them, so a server
path names a directory with two pipes: `in`, which the server reads, and `out`, which it
writes. Everything else is decided by the library; here bytes are moved, clocks read and
texts printed.
-/

namespace WorkspaceServers.Main

open Session (Operation Reply)

/-- The pipe to a server, and what has come through the one from it and is not taken yet;
the flag tells that nothing more will come. -/
structure Pipes where
  toServer : IO.FS.Handle
  inbox : IO.Ref (ByteArray × Bool)

structure Live where
  registry : Registry
  number : Nat
  machine : Launch.Machine
  pipes : Option Pipes
  sent : Nat

namespace Live

def session? (live : Live) : Option Session := live.registry.session? live.number

def setSession (session : Session) (live : Live) : Live :=
  { live with registry := live.registry.setSession live.number session }

end Live

abbrev Line := StateT Live IO

def systemFile (name : String) : IO Bytes :=
  try return (← IO.FS.readBinFile name).toList catch _ => return []

def environment : IO Environment := do
  let block ← systemFile "/proc/self/environ"
  return ⟨(Text.pieces (· = 0) block).filterMap fun entry =>
    (Text.splitAtFirst? (· = 0x3D) entry).bind fun (name, value) =>
      (Utf8.toString? name).map (·, value)⟩

def processId : IO UInt32 := do
  let digits := (← systemFile "/proc/self/stat").takeWhile (· ≠ 0x20)
  return UInt32.ofNat ((Decimal.natural? (Utf8.lossyFrom Utf8.closed digits)).getD 0)

def fileState (path : Path) : IO Config.FileState := do
  match Utf8.toString? path with
  | none => return .missing
  | some name =>
    try return .content (← IO.FS.readBinFile name).toList
    catch
      | .noFileOrDirectory _ _ _ => return .missing
      | _ => return .unreadable

/-- Makes the log file; if something is in its way the run goes on without. -/
def openLog (environment : Environment) : IO Unit := do
  if let some directory := (environment.home?.map Config.logDirectory).bind Utf8.toString? then
    try
      IO.FS.createDirAll directory
      let _ ← IO.FS.Handle.mk (directory ++ "/" ++ Config.logName) .append
    catch _ => return

partial def listen (fromServer : IO.FS.Handle) (inbox : IO.Ref (ByteArray × Bool)) : IO Unit := do
  let byte ← try fromServer.read 1 catch _ => pure ByteArray.empty
  if byte.isEmpty then inbox.modify fun (bytes, _) => (bytes, true)
  else
    inbox.modify fun (bytes, ended) => (bytes ++ byte, ended)
    listen fromServer inbox

def openPipes (spec : Launch.Spec) : IO (Option Pipes) := do
  try
    let toServer ← IO.FS.Handle.mk (spec.serverPath ++ "/in") .write
    let fromServer ← IO.FS.Handle.mk (spec.serverPath ++ "/out") .read
    let inbox ← IO.mkRef (ByteArray.empty, false)
    let _ ← IO.asTask (listen fromServer inbox) Task.Priority.dedicated
    return some ⟨toServer, inbox⟩
  catch _ => return none

def onTransport (event : Transport → Transport × List Transport.Resolution) :
    Line (List Transport.Resolution) := do
  let live ← get
  let some session := live.session? | return []
  let (session, resolved) := session.withTransport fun transport =>
    let (transport, resolved) := event transport
    (transport.flush, resolved)
  let written := (session.transport?.map fun transport => transport.sink.written).getD []
  let accepted ← match live.pipes with
    | none => pure false
    | some pipes =>
      try
        pipes.toServer.write ⟨(written.drop live.sent).toArray⟩
        pipes.toServer.flush
        pure true
      catch _ => pure false
  let session := if accepted then session
    else (session.withTransport fun transport => (transport.shutSink, [])).1
  set { live.setSession session with sent := written.length }
  return resolved

/-- Waits for bytes from the server, up to a moment if there is one; no bytes at all mean
that nothing more will come. -/
partial def receive (deadline : Option Nat) : Line (Option ByteArray) := do
  match (← get).pipes with
  | none => return some ByteArray.empty
  | some pipes =>
    let (bytes, ended) ← pipes.inbox.modifyGet fun (bytes, ended) =>
      ((bytes, ended), (ByteArray.empty, ended))
    if ended || !bytes.isEmpty then return some bytes
    else if deadline.any (· ≤ (← IO.monoMsNow)) then return none
    else
      IO.sleep 2
      receive deadline

partial def await (id : UInt64) (question : Session.Question) (deadline : Option Nat) :
    Line (Except Failure Reply) := do
  let resolved ← match ← receive deadline with
    | none => onTransport fun transport => transport.expire id
    | some bytes =>
      if bytes.isEmpty then onTransport Transport.endInbound
      else onTransport fun transport => transport.receive bytes.toList
  match resolved.find? (·.id = id) with
  | some resolution => return question.conclude resolution.outcome
  | none => await id question deadline

def perform (operation : Operation) : Line (Except Failure Reply) := do
  let live ← get
  let some session := live.session? | return .error .terminated
  let started := session.start live.machine operation
  set (live.setSession started.session)
  let _ ← onTransport (·, [])
  match started.progress with
  | .finished result => return result
  | .waiting id question =>
    let now ← IO.monoMsNow
    await id question (session.options.requestTimeout.map fun span => now + span.milliseconds)

partial def awaitEnd (deadline : Nat) : Line Unit := do
  if !((← get).session?.map fun session => session.stage.hasLiveServer).getD false then return
  match ← receive (some deadline) with
  | some bytes => if bytes.isEmpty then return else awaitEnd deadline
  | none => return

def client : CommandLine.Client Line where
  perform := perform
  readText path := do
    match ← fileState path with
    | .content bytes => return Utf8.toString? bytes
    | _ => return none
  awaitEnd := do
    let grace := (← get).registry.options.exitGrace
    awaitEnd ((← IO.monoMsNow) + grace.milliseconds)
    modify fun live => match live.session? with
      | some session => live.setSession session.processEnded.1
      | none => live
  remove resource slug := modify fun live =>
    { live with registry := (live.registry.remove resource slug).1 }

def runArguments (arguments : CommandLine.Arguments) (environment : Environment) :
    IO CommandLine.Verdict := do
  let state ← match arguments.config.or (environment.home?.map Config.defaultPath) with
    | some path => fileState path
    | none => pure .missing
  match CommandLine.prepare arguments environment fun _ => state with
  | .error problem => return .failed problem
  | .ok setup =>
    let pipes ← match Launch.Spec.ofContext setup.context with
      | .ok spec => openPipes spec
      | .error _ => pure none
    let machine : Launch.Machine :=
      ⟨← processId, fun name => if pipes.isSome then some (.ofString name) else none, fun _ => true⟩
    let (registry, number) :=
      (Registry.create setup.storage setup.options).getOrCreate arguments.identity
    (CommandLine.run client setup arguments).run' ⟨registry, number, machine, pipes, 0⟩

end WorkspaceServers.Main

open WorkspaceServers in
def main (words : List String) : IO UInt32 := do
  let environment ← Main.environment
  Main.openLog environment
  let ending ← match CommandLine.parse (words.map Utf8.ofString) with
    | .error refusal =>
      if refusal.exitCode ≠ 0 then IO.eprintln ("error: " ++ refusal.message)
      pure refusal.ending
    | .ok arguments =>
      pure (← Main.runArguments arguments environment).ending
  IO.print ending.output
  if let some text := ending.error then IO.eprintln ("Error: " ++ text)
  return ending.exitCode.toUInt32
