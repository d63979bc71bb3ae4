import WorkspaceServers.CommandLine.Arguments
import WorkspaceServers.Config.Load
import WorkspaceServers.Session.Operation
import WorkspaceServers.Workspace.Document

/-!
One run of the command line: what it needs is worked out first, then the session is
taken through greeting, opening and query, and whatever became of these it is shut down
and leaves the registry. The steps are written for any way of performing them.
-/

namespace WorkspaceServers.CommandLine

open Session (Operation Reply)

inductive Problem where
  | config (error : Config.Error)
  | noConfig (path : Path)
  | storage (error : Workspace.StorageError)
  | unreadable (document : Path)
  | session (failure : Failure)

def Problem.message : Problem → String
  | config error => error.message
  | noConfig path => "config file " ++ path.display ++ " does not exist"
  | storage _ => "cannot resolve shared storage for workspaces"
  | unreadable document => "failed to read " ++ document.display
  | session failure => failure.message

inductive Verdict where
  | value (json : Json)
  | failed (problem : Problem)
  /-- The result could not be written down and the run broke off on the spot. -/
  | aborted

structure Setup where
  storage : Workspace.Storage
  options : Session.Options
  context : Launch.Context

/-- A config file that is asked for has to be there and to be right; the one in its usual
place does not. -/
def loadSettings (arguments : Arguments) (environment : Environment)
    (state : Path → Config.FileState) : Except Problem Config.Settings :=
  match arguments.config with
  | some path =>
    match Config.load path (state path) with
    | .error error => .error (.config error)
    | .ok none => .error (.noConfig path)
    | .ok (some settings) => .ok settings
  | none =>
    match environment.home?.map Config.defaultPath with
    | none => .ok .empty
    | some path =>
      match Config.load path (state path) with
      | .ok (some settings) => .ok settings
      | _ => .ok .empty

def prepare (arguments : Arguments) (environment : Environment)
    (state : Path → Config.FileState) : Except Problem Setup := do
  let settings ← loadSettings arguments environment state
  let storage ← (settings.resolveStorage environment).mapError Problem.storage
  return {
    storage
    options := settings.sessionOptions
    context := arguments.launchContext.mergedOver (settings.launchDefaults environment) }

structure Client (m : Type → Type) where
  perform : Operation → m (Except Failure Reply)
  readText : Path → m (Option String)
  awaitEnd : m Unit
  remove : String → String → m Unit

variable {m : Type → Type} [Monad m]

def Client.answer (client : Client m) (operation : Operation) : m Verdict := do
  match ← client.perform operation with
  | .ok reply => return .value reply.toJson
  | .error failure => return .failed (.session failure)

/-- What the command asks for, once its document is open. The result of opening names
the path, which has to be text. -/
def inquire (client : Client m) (root : Path) : Command → m Verdict
  | .openDocument document =>
    match Utf8.toString? (Workspace.documentPath root document) with
    | some path => return .value (.object [("opened", .str path)])
    | none => return .aborted
  | .symbols document => client.answer (.symbols document)
  | .hover document line character => client.answer (.hover document line character)
  | .definition document line character => client.answer (.definition document line character)

def query (client : Client m) (root : Path) (command : Command) : m Verdict := do
  let path := Workspace.documentPath root command.document
  match ← client.readText path with
  | none => return .failed (.unreadable path)
  | some text =>
    match ← client.perform (.openDocument command.document text) with
    | .error failure => return .failed (.session failure)
    | .ok _ => inquire client root command

def confirm (client : Client m) (root : Path) (command : Command) : m Verdict := do
  match ← client.perform .confirm with
  | .error failure => return .failed (.session failure)
  | .ok _ => query client root command

def converse (client : Client m) (context : Launch.Context) (root : Path) (command : Command) :
    m Verdict := do
  match ← client.perform (.handshake context) with
  | .error failure => return .failed (.session failure)
  | .ok _ => confirm client root command

/-- Ends the session; how that goes does not matter any more. -/
def close (client : Client m) : m Unit := do
  let _ ← client.perform .shutdown
  let _ ← client.perform .exit
  client.awaitEnd

def run (client : Client m) (setup : Setup) (arguments : Arguments) : m Verdict := do
  let root := setup.storage.documentRoot arguments.identity
  match ← converse client setup.context root arguments.command with
  | .aborted => return .aborted
  | verdict =>
    close client
    client.remove arguments.resource arguments.slug
    return verdict

end WorkspaceServers.CommandLine
