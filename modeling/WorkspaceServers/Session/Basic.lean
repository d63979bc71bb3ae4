import WorkspaceServers.Launch.Machine
import WorkspaceServers.Session.Operation
import WorkspaceServers.Session.Options
import WorkspaceServers.Transport.Basic
import WorkspaceServers.Workspace.Document
import WorkspaceServers.Workspace.Key

/-!
A session: the one server of a workspace and where it stands in its life. The first
handshake that gets as far as a running server ends the first stage for good; a server
is launched at most once, and when it is gone the session is over.
-/

namespace WorkspaceServers

structure Session.Server where
  transport : Transport
  signalled : Bool

inductive Session.Lifecycle where
  | uninitialized
  | initialized (server : Session.Server)
  | shuttingDown (server : Session.Server)
  | exited (server : Session.Server)

structure Session where
  identity : Workspace.Identity
  root : Path
  options : Session.Options
  lifecycle : Session.Lifecycle

namespace Session

inductive Stage where
  | uninitialized
  | initialized
  | shuttingDown
  | exited
deriving DecidableEq

namespace Stage

def rank : Stage → Nat
  | uninitialized => 0
  | initialized => 1
  | shuttingDown => 2
  | exited => 3

/-- A server has been launched and is not known to be gone. -/
def hasLiveServer : Stage → Bool
  | initialized | shuttingDown => true
  | uninitialized | exited => false

end Stage

def create (identity : Workspace.Identity) (root : Path) (options : Options) : Session :=
  ⟨identity, root, options, .uninitialized⟩

def key (session : Session) : Workspace.Key := session.identity.key

namespace Lifecycle

def stage : Lifecycle → Stage
  | uninitialized => .uninitialized
  | initialized _ => .initialized
  | shuttingDown _ => .shuttingDown
  | exited _ => .exited

def server? : Lifecycle → Option Server
  | uninitialized => none
  | initialized server | shuttingDown server | exited server => some server

def onServer (change : Server → Server) : Lifecycle → Lifecycle
  | uninitialized => uninitialized
  | initialized server => initialized (change server)
  | shuttingDown server => shuttingDown (change server)
  | exited server => exited (change server)

def running : Lifecycle → Except Failure Server
  | uninitialized => .error .notInitialized
  | initialized server | shuttingDown server => .ok server
  | exited _ => .error .terminated

end Lifecycle

def stage (session : Session) : Stage := session.lifecycle.stage

def server? (session : Session) : Option Server := session.lifecycle.server?

def transport? (session : Session) : Option Transport := session.server?.map Server.transport

def setServer (server : Server) (session : Session) : Session :=
  { session with lifecycle := session.lifecycle.onServer fun _ => server }

def withTransport (event : Transport → Transport × List Transport.Resolution)
    (session : Session) : Session × List Transport.Resolution :=
  match session.server? with
  | none => (session, [])
  | some server =>
    let (transport, resolved) := event server.transport
    (session.setServer { server with transport }, resolved)

inductive Progress where
  | finished (result : Except Failure Reply)
  | waiting (id : UInt64) (question : Question)

structure Started where
  session : Session
  progress : Progress
  launched : Option Launch.Command
  signalled : Bool

def finished (session : Session) (result : Except Failure Reply) : Started :=
  ⟨session, .finished result, none, false⟩

def ask (session : Session) (server : Server) (question : Question) (params : Option Json) :
    Started :=
  let (transport, id, failure?) := server.transport.request question.method params
  let session := session.setServer { server with transport }
  match failure? with
  | some failure => session.finished (.error failure)
  | none => ⟨session, .waiting id question, none, false⟩

def tell (session : Session) (server : Server) (method : String) (params : Option Json) : Started :=
  let (transport, outcome) := server.transport.notify method params
  (session.setServer { server with transport }).finished (outcome.map fun _ => .done)

/-- Goes on with the live server and what `prepare` makes of the session; the lack of a
server comes before all other failures. -/
def withServer {α : Type} (session : Session) (prepare : Except Failure α)
    (act : Server → α → Started) : Started :=
  match session.lifecycle.running with
  | .error failure => session.finished (.error failure)
  | .ok server =>
    match prepare with
    | .error failure => session.finished (.error failure)
    | .ok value => act server value

def documentUri (session : Session) (document : String) : Except Failure String :=
  match Workspace.documentUri? session.root document with
  | some uri => .ok uri
  | none => .error (.invalidPath (Workspace.documentPath session.root document))

def prepareLaunch (machine : Launch.Machine) (session : Session) (context : Launch.Context) :
    Except Failure (Launch.Command × String) := do
  let spec ← (Launch.Spec.ofContext context).mapError Failure.missingSetting
  let rootUri ← match session.root.fileUri? with
    | some uri => .ok uri
    | none => .error (.invalidPath session.root)
  let program ← match machine.find? spec.serverPath with
    | some program => .ok program
    | none => .error (.serverNotFound (.ofString spec.serverPath))
  let command := spec.command program
  if machine.canRun command then .ok (command, rootUri) else .error (.notLaunched program)

def greet (machine : Launch.Machine) (session : Session) (context : Launch.Context) : Started :=
  match session.lifecycle with
  | .initialized _ => session.finished (.ok (.handshake .empty))
  | .shuttingDown _ => session.finished (.error .shuttingDown)
  | .exited _ => session.finished (.error .terminated)
  | .uninitialized =>
    match session.prepareLaunch machine context with
    | .error failure => session.finished (.error failure)
    | .ok (command, rootUri) =>
      let server : Server := ⟨.start session.options.requestTimeout, false⟩
      let params := Rpc.handshakeParams machine.processId rootUri session.identity.slug
      { ({ session with lifecycle := .initialized server }).ask server .handshake (some params) with
        launched := some command }

def beginShutdown (session : Session) : Started :=
  match session.lifecycle with
  | .uninitialized => session.finished (.ok .done)
  | .exited _ => session.finished (.error .terminated)
  | .initialized server | .shuttingDown server =>
    ({ session with lifecycle := .shuttingDown server }).ask server .shutdown none

/-- Tells the server to end whether or not the notification can be sent. -/
def leave (session : Session) : Started :=
  match session.lifecycle.running with
  | .error _ => session.finished (.ok .done)
  | .ok server =>
    let (transport, _) := server.transport.notify "exit" none
    ⟨session.setServer ⟨transport, true⟩, .finished (.ok .done), none, !server.signalled⟩

def start (machine : Launch.Machine) (session : Session) : Operation → Started
  | .handshake context => session.greet machine context
  | .confirm =>
    session.withServer (.ok ()) fun server _ =>
      session.tell server "initialized" (some (.object []))
  | .openDocument document text =>
    session.withServer (session.documentUri document) fun server uri =>
      let language := Workspace.documentLanguage session.root document
      session.tell server "textDocument/didOpen" (some (Rpc.openParams uri language.id text))
  | .symbols document =>
    session.withServer (session.documentUri document) fun server uri =>
      session.ask server .symbols (some (Rpc.documentParams uri))
  | .hover document line character =>
    session.withServer (session.documentUri document) fun server uri =>
      session.ask server .hover (some (Rpc.positionParams uri line character))
  | .definition document line character =>
    session.withServer (session.documentUri document) fun server uri =>
      session.ask server .definition (some (Rpc.positionParams uri line character))
  | .shutdown => session.beginShutdown
  | .exit => session.leave

def processEnded (session : Session) : Session × List Transport.Resolution :=
  match session.lifecycle with
  | .initialized server | .shuttingDown server =>
    let (transport, failed) := server.transport.close
    ({ session with lifecycle := .exited { server with transport } }, failed)
  | .uninitialized | .exited _ => (session, [])

def attach (transport : Transport) (session : Session) : Session :=
  { session with lifecycle := .initialized ⟨transport, false⟩ }

end Session

end WorkspaceServers
