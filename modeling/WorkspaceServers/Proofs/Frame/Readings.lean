import WorkspaceServers.Frame.Stream

/-!
Readings one after another. A settled reading takes something off the stream and stays what
it is when more bytes follow; an unsettled one finds no frame. So the frames at the front of
a stream do not depend on how much of it has come in.
-/

namespace WorkspaceServers.Frame

def readings : Nat → Bytes → List Found × Bytes
  | 0, stream => ([], stream)
  | count + 1, stream =>
    let (found, rest) := readings count (read stream).rest
    ((read stream).found :: found, rest)

section Blocks

variable {length : Option Nat} {started : Bool} {line stream : Bytes}

theorem readBlock_nil (length : Option Nat) (started : Bool) (line : Bytes) :
    ∃ block, readBlock length started line [] = ⟨block, [], false⟩ := by
  rw [readBlock]
  split
  · exact ⟨_, rfl⟩
  · split <;> exact ⟨_, rfl⟩

theorem readBlock_cons (length : Option Nat) (started : Bool) (line : Bytes) (byte : UInt8) :
    (∃ block, ∀ rest, readBlock length started line (byte :: rest) = ⟨block, rest, true⟩) ∨
    ∃ length' started' line', ∀ rest,
      readBlock length started line (byte :: rest) = readBlock length' started' line' rest := by
  by_cases ends : byte = lineFeed
  · cases meaning : Header.ofLine line.reverse with
    | blank => exact .inl ⟨.close length, fun rest => by rw [readBlock, if_pos ends, meaning]⟩
    | faulty error =>
      exact .inl ⟨.failed error, fun rest => by rw [readBlock, if_pos ends, meaning]⟩
    | length bytes =>
      exact .inr ⟨some bytes, true, [], fun rest => by rw [readBlock, if_pos ends, meaning]⟩
    | other => exact .inr ⟨length, true, [], fun rest => by rw [readBlock, if_pos ends, meaning]⟩
  · exact .inr ⟨length, started, byte :: line, fun rest => by rw [readBlock, if_neg ends]⟩

theorem readBlock_append (settled : (readBlock length started line stream).settled = true)
    (more : Bytes) :
    readBlock length started line (stream ++ more) =
      ⟨(readBlock length started line stream).found,
        (readBlock length started line stream).rest ++ more, true⟩ := by
  induction stream generalizing length started line with
  | nil =>
    obtain ⟨block, ended⟩ := readBlock_nil length started line
    rw [ended] at settled
    cases settled
  | cons byte rest ih =>
    rw [List.cons_append]
    rcases readBlock_cons length started line byte with ⟨block, ends⟩ | ⟨_, _, _, goes⟩
    · rw [ends, ends]
    · rw [goes] at settled ⊢
      rw [goes]
      exact ih settled

theorem readBlock_unsettled (unsettled : (readBlock length started line stream).settled = false) :
    (readBlock length started line stream).rest = [] := by
  induction stream generalizing length started line with
  | nil =>
    obtain ⟨block, ended⟩ := readBlock_nil length started line
    rw [ended]
  | cons byte rest ih =>
    rcases readBlock_cons length started line byte with ⟨block, ends⟩ | ⟨_, _, _, goes⟩
    · rw [ends] at unsettled
      cases unsettled
    · rw [goes] at unsettled ⊢
      exact ih unsettled

theorem readBlock_shortens (settled : (readBlock length started line stream).settled = true) :
    (readBlock length started line stream).rest.length < stream.length := by
  induction stream generalizing length started line with
  | nil =>
    obtain ⟨block, ended⟩ := readBlock_nil length started line
    rw [ended] at settled
    cases settled
  | cons byte rest ih =>
    rcases readBlock_cons length started line byte with ⟨block, ends⟩ | ⟨_, _, _, goes⟩
    · rw [ends]
      exact Nat.lt_succ_self _
    · rw [goes] at settled ⊢
      exact Nat.lt_succ_of_lt (ih settled)

end Blocks

section Bodies

theorem readBody_append {reading : Reading Block} (whole : reading.settled = true)
    (settled : (readBody reading).settled = true) (more : Bytes) :
    readBody ⟨reading.found, reading.rest ++ more, true⟩ =
      ⟨(readBody reading).found, (readBody reading).rest ++ more, true⟩ := by
  obtain ⟨block, rest, _⟩ := reading
  subst whole
  cases block with
  | finished => rfl
  | failed error => rfl
  | length bytes =>
    simp only [readBody] at settled ⊢
    split at settled
    -- A length beyond the limit fails before any byte of the body is looked at.
    · rename_i long
      rw [if_pos long]
      rw [if_pos long]
    · rename_i fits
      split at settled
      · cases settled
      · rename_i enough
        have enough' : ¬ (rest ++ more).length < bytes := by
          rw [List.length_append]
          omega
        rw [if_neg fits, if_neg fits, if_neg enough, if_neg enough',
          List.take_append_of_le_length (Nat.le_of_not_lt enough),
          List.drop_append_of_le_length (Nat.le_of_not_lt enough)]
        cases Json.ofBytes? (rest.take bytes) <;> rfl

theorem ofBytes?_nil : Json.ofBytes? [] = none := rfl

theorem readBody_frame {reading : Reading Block} {json : Json}
    (ended : reading.settled = false → reading.rest = [])
    (frame : (readBody reading).found = .frame json) :
    (readBody reading).settled = true ∧ reading.settled = true ∧
      (readBody reading).rest.length ≤ reading.rest.length := by
  -- No text is empty, so a frame is found only behind a settled block.
  obtain ⟨block, rest, settled⟩ := reading
  cases block with
  | finished => cases frame
  | failed error => cases frame
  | length bytes =>
    simp only [readBody] at frame ⊢
    split at frame
    · cases frame
    · rename_i fits
      split at frame
      · cases frame
      · rename_i enough
        rw [if_neg fits, if_neg enough]
        cases settled with
        | true =>
          refine ⟨?_, rfl, ?_⟩
          · split <;> rfl
          · split <;> simp
        | false =>
          -- Nothing is left behind such a block, which is no body.
          cases ended rfl
          rw [List.take_nil, ofBytes?_nil] at frame
          cases frame

theorem settled_of_readBody {reading : Reading Block}
    (settled : (readBody reading).settled = true) : reading.settled = true := by
  obtain ⟨block, rest, whole⟩ := reading
  cases block with
  | finished => exact settled
  | failed error => exact settled
  | length bytes =>
    simp only [readBody] at settled
    split at settled
    · exact settled
    · split at settled
      · cases settled
      · split at settled <;> exact settled

end Bodies

section Single

variable {stream : Bytes}

/-- What is settled stays as it is, and more bytes only add to the rest. -/
theorem read_append (settled : (read stream).settled = true) (more : Bytes) :
    read (stream ++ more) = ⟨(read stream).found, (read stream).rest ++ more, true⟩ := by
  rw [read] at settled ⊢
  have whole := settled_of_readBody settled
  rw [readBlock_append whole, readBody_append whole settled, read]

theorem read_frame {json : Json} (frame : (read stream).found = .frame json) :
    (read stream).settled = true ∧ (read stream).rest.length < stream.length := by
  rw [read] at frame ⊢
  obtain ⟨settled, whole, fewer⟩ := readBody_frame readBlock_unsettled frame
  exact ⟨settled, Nat.lt_of_le_of_lt fewer (readBlock_shortens whole)⟩

end Single

section Several

theorem readings_append (first second : Nat) (stream : Bytes) :
    readings (first + second) stream =
      ((readings first stream).1 ++ (readings second (readings first stream).2).1,
        (readings second (readings first stream).2).2) := by
  induction first generalizing stream with
  | zero => simp [readings]
  | succ count ih => simp [readings, Nat.succ_add, ih]

/-- `frames` are what stands at the front of the stream, and `rest` is what is left. -/
def Opens (stream : Bytes) (frames : List Json) (rest : Bytes) : Prop :=
  readings frames.length stream = (frames.map .frame, rest)

variable {stream rest : Bytes} {frames : List Json}

theorem opens_nil (stream : Bytes) : Opens stream [] stream := rfl

theorem opens_cons {frame : Json} :
    Opens stream (frame :: frames) rest ↔
      (read stream).found = .frame frame ∧ Opens (read stream).rest frames rest := by
  simp only [Opens, readings, List.length_cons, List.map_cons, Prod.ext_iff, List.cons.injEq]
  exact and_assoc

theorem Opens.append {others : List Json} {last : Bytes} (first : Opens stream frames rest)
    (second : Opens rest others last) : Opens stream (frames ++ others) last := by
  rw [Opens, List.length_append, readings_append, first, second, List.map_append]

theorem Opens.more (opens : Opens stream frames rest) (more : Bytes) :
    Opens (stream ++ more) frames (rest ++ more) := by
  induction frames generalizing stream with
  | nil =>
    cases opens
    exact opens_nil _
  | cons frame others ih =>
    obtain ⟨found, later⟩ := opens_cons.mp opens
    refine opens_cons.mpr ?_
    rw [read_append (read_frame found).1]
    exact ⟨found, ih later⟩

def Stops (stream : Bytes) : Prop := ∀ json, (read stream).found ≠ .frame json

theorem exists_opens (stream : Bytes) : ∃ frames rest, Opens stream frames rest ∧ Stops rest := by
  -- Every stream comes to such an end, since each frame takes bytes off it.
  -- Streams get shorter from frame to frame, and not by single bytes.
  induction size : stream.length using Nat.strongRecOn generalizing stream with
  | ind size ih =>
    subst size
    cases found : (read stream).found with
    | frame json =>
      obtain ⟨frames, rest, opens, stops⟩ := ih _ (read_frame found).2 _ rfl
      exact ⟨json :: frames, rest, opens_cons.mpr ⟨found, opens⟩, stops⟩
    | finished => exact ⟨[], stream, opens_nil stream, by simp [Stops, found]⟩
    | failed error => exact ⟨[], stream, opens_nil stream, by simp [Stops, found]⟩

theorem collect_opens (opens : Opens stream frames rest) (stops : Stops rest) {fuel : Nat}
    (enough : stream.length < fuel) : (collect (fun _ => true) fuel stream).1 = frames := by
  induction frames generalizing stream fuel with
  | nil =>
    cases opens
    cases fuel with
    | zero => cases enough
    | succ fuel =>
      cases found : (read rest).found with
      | frame json => exact absurd found (stops json)
      | finished => simp [collect, found]
      | failed error => simp [collect, found]
  | cons frame others ih =>
    obtain ⟨found, later⟩ := opens_cons.mp opens
    cases fuel with
    | zero => cases enough
    | succ fuel =>
      have fewer := (read_frame found).2
      have collected := ih later (show _ < fuel by omega)
      simp [collect, found, collected]

theorem allFrames_eq (opens : Opens stream frames rest) (stops : Stops rest) :
    allFrames stream = frames :=
  collect_opens opens stops (Nat.lt_succ_self _)

theorem collect_settled {fuel : Nat} (enough : stream.length < fuel) :
    ∃ frames rest, Opens stream frames rest ∧
      ((collect id fuel stream = (frames, rest, .hungry) ∧ (read rest).settled = false) ∨
        (collect id fuel stream = (frames, (read rest).rest, .over) ∧
          Stops rest ∧ (read rest).settled = true)) := by
  -- Collecting settled readings stops in front of the first one that is not, or behind the first
  -- one that is no frame.
  induction fuel generalizing stream with
  | zero => cases enough
  | succ fuel ih =>
    cases settled : (read stream).settled with
    | false => exact ⟨[], stream, opens_nil stream, .inl ⟨by simp [collect, settled], settled⟩⟩
    | true =>
      cases found : (read stream).found with
      | frame json =>
        have fewer := (read_frame found).2
        obtain ⟨frames, rest, opens, ends⟩ := ih (show (read stream).rest.length < fuel by omega)
        refine ⟨json :: frames, rest, opens_cons.mpr ⟨found, opens⟩, ?_⟩
        rcases ends with ⟨collected, hungry⟩ | ⟨collected, ended⟩
        · exact .inl ⟨by simp [collect, settled, found, collected], hungry⟩
        · exact .inr ⟨by simp [collect, settled, found, collected], ended⟩
      | finished =>
        refine ⟨[], stream, opens_nil stream, .inr ⟨?_, ?_, settled⟩⟩
        · simp [collect, settled, found]
        · simp [Stops, found]
      | failed error =>
        refine ⟨[], stream, opens_nil stream, .inr ⟨?_, ?_, settled⟩⟩
        · simp [collect, settled, found]
        · simp [Stops, found]

theorem allFrames_of_hungry (paused : settledFrames stream = (frames, rest, .hungry))
    (more : Bytes) : allFrames (stream ++ more) = frames ++ allFrames (rest ++ more) := by
  obtain ⟨taken, left, opens, ⟨collected, _⟩ | ⟨collected, _⟩⟩ :=
    collect_settled (Nat.lt_succ_self stream.length)
  · rw [settledFrames, collected] at paused
    cases paused
    -- What is left may end inside a frame, so it is read anew with the bytes that follow.
    obtain ⟨others, last, later, stops⟩ := exists_opens (rest ++ more)
    rw [allFrames_eq later stops]
    exact allFrames_eq ((opens.more more).append later) stops
  · rw [settledFrames, collected] at paused
    cases paused

theorem allFrames_of_over (paused : settledFrames stream = (frames, rest, .over))
    (more : Bytes) : allFrames (stream ++ more) = frames := by
  obtain ⟨taken, left, opens, ⟨collected, _⟩ | ⟨collected, stops, settled⟩⟩ :=
    collect_settled (Nat.lt_succ_self stream.length)
  · rw [settledFrames, collected] at paused
    cases paused
  · rw [settledFrames, collected] at paused
    cases paused
    refine allFrames_eq (opens.more more) ?_
    rw [Stops, read_append settled]
    exact stops

end Several

end WorkspaceServers.Frame
