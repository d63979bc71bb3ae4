import WorkspaceServers.Proofs.Frame.RoundTrip

/-!
What has been handed out stays. The frames at the front of a stream are the same however the
stream goes on, so a reader that acts on them as they come in never has to take one back.
-/

namespace WorkspaceServers.Frame

variable {stream rest : Bytes} {frames : List Json}

theorem length_readings (count : Nat) (stream : Bytes) :
    (readings count stream).1.length = count := by
  induction count generalizing stream with
  | zero => rfl
  | succ count ih => exact congrArg (· + 1) (ih _)

theorem opens_of_readings {count : Nat} (read : readings count stream = (frames.map .frame, rest)) :
    frames.length = count ∧ Opens stream frames rest := by
  have same : frames.length = count := by
    have counted := length_readings count stream
    rw [read, List.length_map] at counted
    exact counted
  subst same
  exact ⟨rfl, read⟩

/-- Nothing that could still change is handed out, and all else is. -/
theorem settledFrames_eq (stream : Bytes) : (settledFrames stream).1 = allFrames stream := by
  obtain ⟨frames, rest, opens, ends⟩ := collect_settled (Nat.lt_succ_self stream.length)
  rcases ends with ⟨collected, hungry⟩ | ⟨collected, stops, -⟩
  · have stops : Stops rest := by
      intro json found
      rw [(read_frame found).1] at hungry
      cases hungry
    rw [settledFrames, collected, allFrames_eq opens stops]
  · rw [settledFrames, collected, allFrames_eq opens stops]

theorem Opens.prefix_allFrames (opens : Opens stream frames rest) :
    frames <+: allFrames stream := by
  obtain ⟨others, last, later, stops⟩ := exists_opens rest
  rw [allFrames_eq (opens.append later) stops]
  exact List.prefix_append _ _

theorem allFrames_append (stream more : Bytes) :
    allFrames stream <+: allFrames (stream ++ more) := by
  obtain ⟨frames, rest, opens, stops⟩ := exists_opens stream
  rw [allFrames_eq opens stops]
  exact (opens.more more).prefix_allFrames

/-- What a stream has handed out, once it goes on. -/
structure Stands (stream more : Bytes) (count : Nat) (frames : List Json) (rest : Bytes) :
    Prop where
  readings : readings count (stream ++ more) = (frames.map .frame, rest ++ more)
  handed_out : frames <+: (settledFrames stream).1
  never_changed : (settledFrames stream).1 <+: (settledFrames (stream ++ more)).1
  at_the_end : (settledFrames stream).1 <+: allFrames (stream ++ more)

theorem delivered_frames_stand {count : Nat}
    (delivered : readings count stream = (frames.map .frame, rest)) (more : Bytes) :
    Stands stream more count frames rest := by
  obtain ⟨rfl, opens⟩ := opens_of_readings delivered
  constructor
  · exact opens.more more
  · rw [settledFrames_eq]
    exact opens.prefix_allFrames
  · rw [settledFrames_eq, settledFrames_eq]
    exact allFrames_append stream more
  · rw [settledFrames_eq]
    exact allFrames_append stream more

/-- Behind the first frame a length line has begun. -/
def begun : Bytes := encode .null ++ Utf8.ofString "Content-Length: 1"

theorem delivered_frames_stand_begun :
    readings 1 begun = ([Json.null].map .frame, Utf8.ofString "Content-Length: 1") ∧
    Stands begun (Utf8.ofString "2\n\n\"ten bytes!\"") 1 [.null]
      (Utf8.ofString "Content-Length: 1") := by
  have sendable : Sendable .null := ⟨.null, by decide, by decide⟩
  have opens : Opens begun [.null] (Utf8.ofString "Content-Length: 1") := by
    apply opens_cons.mpr
    rw [begun, read_encode sendable]
    exact ⟨rfl, opens_nil _⟩
  exact ⟨opens, delivered_frames_stand opens _⟩

/-- The number of that line was not all there yet. -/
example : (allFrames (begun ++ Utf8.ofString "2\n\n\"ten bytes!\"")).map Json.text =
    ["null", "\"ten bytes!\""] := by
  decide +kernel

end WorkspaceServers.Frame
