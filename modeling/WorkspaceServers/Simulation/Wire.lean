import WorkspaceServers.Transport.Basic

/-!
The server's end of a transport whose two directions are held in memory. The server
sees a frame as soon as the writer has placed all of it, and the end of the stream once
the writer has stopped.
-/

namespace WorkspaceServers.Simulation

inductive Seen where
  | frame (json : Json)
  | finished

structure Peer where
  sending : Bool
  listening : Bool
  taken : Nat
  sawEnd : Bool

namespace Peer

def fresh : Peer := ⟨true, true, 0, false⟩

def look (peer : Peer) (transport : Transport) : Peer × List Seen :=
  if !peer.listening then (peer, [])
  else
    let written := transport.sink.written
    let frames := (Frame.allFrames (written.drop peer.taken)).map Seen.frame
    let ended := !transport.writing && !peer.sawEnd
    ({ peer with taken := written.length, sawEnd := peer.sawEnd || ended },
      frames ++ if ended then [.finished] else [])

end Peer

structure Wire where
  transport : Transport
  peer : Peer

namespace Wire

def start (requestTimeout : Option Duration) : Wire := ⟨.start requestTimeout, .fresh⟩

/-- Sends bytes to the client; refused when one of the two has stopped before. -/
def send (wire : Wire) (bytes : Bytes) : Wire × Bool × List Transport.Resolution :=
  if wire.peer.sending && wire.transport.reading then
    let (transport, resolved) := wire.transport.receive bytes
    ({ wire with transport }, true, resolved)
  else (wire, false, [])

def closeOut (wire : Wire) : Wire × List Transport.Resolution :=
  if wire.peer.sending then
    let (transport, resolved) := wire.transport.endInbound
    (⟨transport, { wire.peer with sending := false }⟩, resolved)
  else (wire, [])

def closeIn (wire : Wire) : Wire :=
  ⟨wire.transport.shutSink, { wire.peer with listening := false }⟩

def settle (wire : Wire) : Wire × List Seen :=
  let transport := wire.transport.flush
  let (peer, seen) := wire.peer.look transport
  (⟨transport, peer⟩, seen)

end Wire

end WorkspaceServers.Simulation
