import WorkspaceServers.Proofs.Frame.Limits
import WorkspaceServers.Proofs.Frame.RoundTrip

/-!
Streams that break off. Wherever a frame is torn, within its length line, between its line
ends or within its body, its reading is one failure that leaves nothing, so that whole
frames and a clean end are told from lost bytes.
-/

namespace WorkspaceServers.Frame

theorem prefix_append_cases {front first second : Bytes} (cut : front <+: first ++ second) :
    front <+: first ∨ ∃ more, front = first ++ more ∧ more <+: second := by
  rcases List.prefix_or_prefix_of_prefix cut (List.prefix_append first second) with inner | outer
  · exact .inl inner
  · obtain ⟨more, rfl⟩ := outer
    exact .inr ⟨more, rfl, (List.prefix_append_right_inj first).mp cut⟩

section Single

variable {torn : Bytes}

theorem readBlock_line (line : lineFeed ∉ torn) (present : torn ≠ []) :
    ∃ error, readBlock none false [] torn = ⟨.failed error, [], false⟩ := by
  -- Without a length before it, a line that does not end is no block.
  have begun := readBlock_bytes line none false [] []
  rw [List.append_nil, List.append_nil] at begun
  rw [begun, readBlock, if_neg (mt List.reverse_eq_nil_iff.mp present)]
  cases Header.ofLine torn.reverse.reverse with
  | blank | faulty _ | length _ | other => exact ⟨_, rfl⟩

theorem readBlock_torn {length : Nat} (fits : length < UInt64.size)
    (cut : torn <+: header length) (present : torn ≠ []) :
    (∃ error, readBlock none false [] torn = ⟨.failed error, [], false⟩) ∨
      ∃ settled, readBlock none false [] torn = ⟨.length length, [], settled⟩ := by
  -- The length is known only from the carriage return of the blank line on.
  have line := lineFeed_notMem_lengthLine length
  have meaning := ofLine_lengthLine fits
  rw [header_eq] at cut
  rcases prefix_append_cases cut with inner | ⟨ending, rfl, cutEnding⟩
  · exact .inl (readBlock_line (fun member => line (inner.subset member)) present)
  rcases List.prefix_cons_iff.mp cutEnding with rfl | ⟨second, rfl, cutSecond⟩
  · rw [List.append_nil] at present ⊢
    exact .inl (readBlock_line line present)
  rw [readBlock_length line meaning]
  rcases List.prefix_cons_iff.mp cutSecond with rfl | ⟨last, rfl, cutLast⟩
  · exact .inl ⟨.endInHeader, rfl⟩
  rcases List.prefix_cons_iff.mp cutLast with rfl | ⟨behind, rfl, nothing⟩
  · exact .inr ⟨false, rfl⟩
  · rw [List.prefix_nil.mp nothing]
    exact .inr ⟨true, rfl⟩

theorem bytes_length_pos {message : Json} (sendable : Sendable message) :
    0 < message.bytes.length := by
  -- No text is empty, so a frame without its body is not a whole one.
  refine List.length_pos_iff.mpr fun empty => ?_
  have read := Json.ofBytes?_bytes sendable.plain sendable.shallow
  rw [empty, ofBytes?_nil] at read
  cases read

theorem read_torn {message : Json} (sendable : Sendable message)
    (cut : torn <+: encode message) (present : torn ≠ []) (part : torn ≠ encode message) :
    ∃ error, read torn = ⟨.failed error, [], false⟩ := by
  have short := sendable.short
  have fits : message.bytes.length < UInt64.size := Nat.lt_of_le_of_lt short (by decide)
  have ends (rest : Bytes) (settled : Bool) (fewer : rest.length < message.bytes.length) :
      readBody ⟨.length message.bytes.length, rest, settled⟩ =
        ⟨.failed .endInBody, [], false⟩ := by
    rw [readBody, if_neg (Nat.not_lt.mpr short), if_pos fewer]
  rw [read]
  rcases prefix_append_cases cut with inner | ⟨body, rfl, cutBody⟩
  · rcases readBlock_torn fits inner present with ⟨error, failed⟩ | ⟨settled, found⟩
    · rw [failed]
      exact ⟨error, rfl⟩
    · rw [found, ends [] settled (bytes_length_pos sendable)]
      exact ⟨_, rfl⟩
  · rw [readBlock_header fits, ends]
    · exact ⟨_, rfl⟩
    · refine Nat.lt_of_le_of_ne cutBody.length_le fun same => part ?_
      rw [encode, cutBody.eq_of_length same]

end Single

theorem readings_nil (count : Nat) : readings count [] = (List.replicate count .finished, []) := by
  induction count with
  | zero => rfl
  | succ count ih =>
    have ended : read [] = ⟨.finished, [], false⟩ := rfl
    simp only [readings, ended, ih, List.replicate_succ]

/-- What a reader finds in the bytes that there was room for. It finds the messages that fit
and then the end, at once if no frame is torn and behind one failure if one is. -/
structure Truncated (room : Nat) (messages : List Json) (written : Bytes) : Prop where
  accepted : written = (messages.flatMap encode).take room
  front : fitting room messages <+: messages
  fits : ∀ place, place < (fitting room messages).length ↔
    place < messages.length ∧ ((messages.take (place + 1)).flatMap encode).length ≤ room
  whole : written = (fitting room messages).flatMap encode → ∀ more,
    readings ((fitting room messages).length + more) written =
      ((fitting room messages).map .frame ++ List.replicate more .finished, [])
  torn : written ≠ (fitting room messages).flatMap encode → ∃ error, ∀ more,
    readings ((fitting room messages).length + (1 + more)) written =
      ((fitting room messages).map .frame ++ .failed error :: List.replicate more .finished, [])

theorem truncated_take {messages : List Json} (sendable : ∀ message ∈ messages, Sendable message)
    (room : Nat) : Truncated room messages ((messages.flatMap encode).take room) := by
  obtain ⟨torn, taken, ends⟩ := take_flatMap_encode room messages
  have opens := opens_encode
    (fun message member => sendable message ((fitting_isPrefix room messages).subset member)) torn
  rw [← taken] at opens
  refine ⟨rfl, fitting_isPrefix room messages, lt_fitting_iff room messages, ?_, ?_⟩
  · intro whole more
    rw [taken, List.append_right_eq_self] at whole
    rw [readings_append, opens, whole, readings_nil]
  · intro broken
    rw [taken, ne_eq, List.append_right_eq_self] at broken
    rcases ends with whole | ⟨message, member, cut, part⟩
    · exact absurd whole broken
    · obtain ⟨error, failed⟩ := read_torn (sendable message member) cut broken part
      refine ⟨error, fun more => ?_⟩
      rw [readings_append, opens, readings_append]
      simp only [readings, failed, readings_nil]
      rfl

end WorkspaceServers.Frame
