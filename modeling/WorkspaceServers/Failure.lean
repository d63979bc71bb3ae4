import WorkspaceServers.Duration
import WorkspaceServers.Launch.Spec
import WorkspaceServers.Path.Basic
import WorkspaceServers.Rpc.ResponseError

/-!
Why an operation on a session failed.
-/

namespace WorkspaceServers

inductive Failure where
  | missingSetting (missing : Launch.MissingSetting)
  | notInitialized
  | shuttingDown
  | terminated
  | refused (error : Rpc.ResponseError)
  | serverNotFound (path : Path)
  | notLaunched (path : Path)
  | invalidPath (path : Path)
  | malformed (method : String)
  | timedOut (method : String) (after : Duration)

namespace Failure

def message : Failure → String
  | missingSetting missing => missing.message
  | notInitialized => "session has not been initialized"
  | shuttingDown => "session is shutting down"
  | terminated => "session terminated"
  | refused error => "server returned an error: " ++ error.display
  | serverNotFound path => "language server " ++ path.display ++ " not found"
  | notLaunched path => "failed to launch " ++ path.display
  | invalidPath path => "cannot convert path to file URI: " ++ path.display
  | malformed method => "malformed " ++ method ++ " message"
  | timedOut method after => method ++ " request timed out after " ++ after.text

def isTerminated : Failure → Bool
  | terminated => true
  | _ => false

end Failure

end WorkspaceServers
