import WorkspaceServers.Duration

/-!
Limits in time that all sessions of a registry share.
-/

namespace WorkspaceServers.Session

structure Options where
  /-- How long a request may wait for its answer; forever if nothing is set. -/
  requestTimeout : Option Duration
  /-- How long a server may take to end by itself before it is killed. -/
  exitGrace : Duration
deriving DecidableEq

def Options.default : Options := ⟨none, .ofSeconds 2⟩

end WorkspaceServers.Session
