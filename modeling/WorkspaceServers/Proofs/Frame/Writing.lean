import WorkspaceServers.Frame.Writer

/-!
Writing to a sink that takes everything and whose flushes succeed: every message goes out
whole, one frame behind the other.
-/

namespace WorkspaceServers.Frame.Sink

structure Roomy (sink : Sink) : Prop where
  room : sink.room = none
  flushes : sink.flushFails = false

theorem roomy_unlimited : Roomy unlimited := ⟨rfl, rfl⟩

variable {sink : Sink}

theorem accept_of_roomy (roomy : sink.Roomy) (bytes : Bytes) :
    sink.accept bytes = ({ sink with written := sink.written ++ bytes }, true) := by
  simp only [accept, roomy.room]

theorem write_of_roomy (roomy : sink.Roomy) (message : Json) :
    sink.write message = ({ sink with written := sink.written ++ encode message }, .ok ()) := by
  have after : Roomy { sink with written := sink.written ++ header message.bytes.length } :=
    ⟨roomy.room, roomy.flushes⟩
  simp only [write, accept_of_roomy roomy, accept_of_roomy after]
  simp [roomy.flushes, encode]

theorem writeAll_of_roomy (roomy : sink.Roomy) (messages : List Json) :
    sink.writeAll messages =
      ({ sink with written := sink.written ++ messages.flatMap encode },
        messages.map fun _ => .ok ()) := by
  induction messages generalizing sink with
  | nil => simp [writeAll]
  | cons message rest ih =>
    have after : Roomy { sink with written := sink.written ++ encode message } :=
      ⟨roomy.room, roomy.flushes⟩
    simp [writeAll, write_of_roomy roomy, ih after]

end WorkspaceServers.Frame.Sink
