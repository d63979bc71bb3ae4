import WorkspaceServers.CommandLine.Parser
import WorkspaceServers.CommandLine.Text
import WorkspaceServers.Simulation.Files
import WorkspaceServers.Simulation.Host

/-!
The whole program on files in memory and with a scripted server.
-/

namespace WorkspaceServers.Simulation

open CommandLine (Arguments Ending Verdict)

structure Trace where
  ending : Ending
  launched : Option Launch.Command
  received : List Json
  files : Files

def searchPathVariable : String := "PATH"

def hostClient (files : Files) : CommandLine.Client (StateM Host) where
  perform operation := do
    let (host, result) := (← get).perform operation
    set host
    return result
  readText path := return files.text? path
  awaitEnd := modify Host.awaitEnd
  remove resource slug := modify fun host => (host.remove resource slug).1

def openLog (environment : Environment) (files : Files) : Files :=
  match environment.home? with
  | none => files
  | some home =>
    let directory := Config.logDirectory home
    let parts := Text.pieces (· = Path.slash) directory
    match files.makeDirectories parts (files.origin directory) with
    | (files, none) => files
    | (files, some place) =>
      let log := place ++ [Utf8.ofString Config.logName]
      if (files.node? log).isSome then files else files.put log (.file [] .plain)

def runArguments (arguments : Arguments) (environment : Environment) (processId : UInt32)
    (script : Script) (files : Files) : Trace :=
  match CommandLine.prepare arguments environment files.state with
  | .error problem => ⟨(Verdict.failed problem).ending, none, [], files⟩
  | .ok setup =>
    let (registry, number) :=
      (Registry.create setup.storage setup.options).getOrCreate arguments.identity
    let machine := files.machine (environment.raw? searchPathVariable) environment.home? processId
    let (verdict, host) := (CommandLine.run (hostClient files) setup arguments).run
      (.create registry number machine script)
    ⟨verdict.ending, host.launched, host.received, files⟩

def runProgram (words : List Bytes) (environment : Environment) (processId : UInt32)
    (script : Script) (files : Files) : Trace :=
  let files := openLog environment files
  match CommandLine.parse words with
  | .error refusal => ⟨refusal.ending, none, [], files⟩
  | .ok arguments => runArguments arguments environment processId script files

end WorkspaceServers.Simulation
