import WorkspaceServers.Session.Basic

/-!
A session's way out: what stands in its queue, and whether frames are taken at all.
-/

namespace WorkspaceServers

/-- The id that the next request takes, as long as frames are taken. -/
def Transport.slot? (transport : Transport) : Option UInt64 :=
  if transport.isClosed || !transport.writing then none else some transport.nextId

namespace Session

def queue (session : Session) : List Transport.Command :=
  (session.transport?.map Transport.queue).getD []

def slot? (session : Session) : Option UInt64 :=
  match session.lifecycle.running with
  | .ok server => server.transport.slot?
  | .error _ => none

end Session

end WorkspaceServers
