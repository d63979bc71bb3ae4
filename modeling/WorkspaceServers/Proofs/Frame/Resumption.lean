import WorkspaceServers.Proofs.Frame.Acceptance
import WorkspaceServers.Proofs.Frame.Tears

/-!
Where reading goes on. Every reading leaves a suffix of the stream, a shorter one unless the
stream was at its end, and after a failure the suffix begins where the failure says.
-/

namespace WorkspaceServers.Frame

inductive Fails (stream : Bytes) : ReadError → (rest : Bytes) → Prop where
  | inHeader {error : ReadError} {rest : Bytes} (breaks : Breaks stream error rest) :
    Fails stream error rest
  | tooLong {length : Nat} {rest : Bytes} (heads : Heads stream length rest)
      (long : maxLength < length) :
    Fails stream (.tooLong length) rest
  | endInBody {length : Nat} {part : Bytes} (heads : Heads stream length part)
      (small : length ≤ maxLength) (short : part.length < length) :
    Fails stream .endInBody []
  | bodyNotJson {body rest : Bytes} (heads : Heads stream body.length (body ++ rest))
      (small : body.length ≤ maxLength) (foreign : Json.ofBytes? body = none) :
    Fails stream .bodyNotJson rest

/-- What one reading, and one reading after another, make of the stream. -/
structure Progresses (stream : Bytes) : Prop where
  suffix : (read stream).rest <:+ stream
  finished : (read stream).found = .finished ↔ stream = []
  shortens : stream ≠ [] → (read stream).rest.length < stream.length
  failed : ∀ error rest,
    (read stream).found = .failed error ∧ (read stream).rest = rest ↔ Fails stream error rest
  ends : ∃ found : List Found, found.length ≤ stream.length ∧ (∀ one ∈ found, one ≠ .finished) ∧
    ∀ more, readings (found.length + more) stream = (found ++ List.replicate more .finished, [])

variable {stream rest : Bytes}

section Suffixes

theorem readBlock_suffix {length : Option Nat} {started : Bool} {line : Bytes} :
    (readBlock length started line stream).rest <:+ stream := by
  induction stream generalizing length started line with
  | nil =>
    obtain ⟨block, ended⟩ := readBlock_nil length started line
    have nothing : (readBlock length started line []).rest = [] := by rw [ended]
    exact List.suffix_nil.mpr nothing
  | cons byte rest ih =>
    rcases readBlock_cons length started line byte with ⟨block, ends⟩ | ⟨_, _, _, goes⟩
    · rw [ends]
      exact List.suffix_cons byte rest
    · rw [goes]
      exact ih.trans (List.suffix_cons byte rest)

theorem readBody_suffix (reading : Reading Block) : (readBody reading).rest <:+ reading.rest := by
  obtain ⟨block, rest, whole⟩ := reading
  cases block with
  | finished => exact List.suffix_rfl
  | failed error => exact List.suffix_rfl
  | length n =>
    simp only [readBody]
    split
    · exact List.suffix_rfl
    · split
      · exact List.nil_suffix
      · split <;> exact List.drop_suffix n rest

theorem read_suffix (stream : Bytes) : (read stream).rest <:+ stream := by
  rw [read]
  exact (readBody_suffix _).trans readBlock_suffix

theorem read_shortens (present : stream ≠ []) : (read stream).rest.length < stream.length := by
  -- A block that is not settled leaves nothing, and a settled one ended at a line feed.
  rw [read]
  refine Nat.lt_of_le_of_lt (readBody_suffix _).length_le ?_
  cases settled : (readBlock none false [] stream).settled with
  | false =>
    rw [readBlock_unsettled settled]
    exact List.length_pos_iff.mpr present
  | true => exact readBlock_shortens settled

end Suffixes

section Failures

theorem readBody_finished_iff (reading : Reading Block) :
    (readBody reading).found = .finished ↔ reading.found = .finished := by
  obtain ⟨block, rest, whole⟩ := reading
  cases block with
  | finished => exact ⟨fun _ => rfl, fun _ => rfl⟩
  | failed error => exact ⟨nofun, nofun⟩
  | length n =>
    refine ⟨fun found => ?_, nofun⟩
    simp only [readBody] at found
    split at found
    · cases found
    · split at found
      · cases found
      · split at found <;> cases found

theorem read_finished_iff : (read stream).found = .finished ↔ stream = [] := by
  rw [read, readBody_finished_iff, readBlock_finished_iff]

theorem fails_of_read {error : ReadError} (found : (read stream).found = .failed error) :
    Fails stream error (read stream).rest := by
  rw [read] at found ⊢
  rcases opening : readBlock none false [] stream with ⟨block, left, whole⟩
  rw [opening] at found
  cases block with
  | finished => cases found
  | failed other =>
    cases found
    exact .inHeader (readBlock_failed_iff.mp (by rw [opening]; exact ⟨rfl, rfl⟩))
  | length n =>
    have heads : Heads stream n left :=
      readBlock_length_iff.mp (by rw [opening]; exact ⟨rfl, rfl⟩)
    -- The limit is looked at before the bytes of the body are.
    by_cases long : maxLength < n
    · rw [readBody, if_pos long] at found ⊢
      cases found
      exact .tooLong heads long
    have small := Nat.le_of_not_lt long
    by_cases short : left.length < n
    · rw [readBody, if_neg long, if_pos short] at found ⊢
      cases found
      exact .endInBody heads small short
    have enough := Nat.le_of_not_lt short
    have count : (left.take n).length = n := List.length_take_of_le enough
    cases parsed : Json.ofBytes? (left.take n) with
    | some json =>
      rw [readBody_of_json whole small enough parsed] at found
      cases found
    | none =>
      rw [readBody_of_foreign whole small enough parsed] at found ⊢
      cases found
      have split : Heads stream (left.take n).length (left.take n ++ left.drop n) := by
        rwa [List.take_append_drop, count]
      exact .bodyNotJson split (by rwa [count]) parsed

theorem Fails.read {error : ReadError} (fails : Fails stream error rest) :
    (read stream).found = .failed error ∧ (read stream).rest = rest := by
  rw [Frame.read]
  cases fails with
  | inHeader breaks =>
    obtain ⟨whole, block⟩ := breaks.readBlock
    rw [block]
    exact ⟨rfl, rfl⟩
  | tooLong heads long =>
    obtain ⟨whole, block⟩ := heads.readBlock
    rw [block, readBody, if_pos long]
    exact ⟨rfl, rfl⟩
  | endInBody heads small short =>
    obtain ⟨whole, block⟩ := heads.readBlock
    rw [block, readBody, if_neg (Nat.not_lt.mpr small), if_pos short]
    exact ⟨rfl, rfl⟩
  | bodyNotJson heads small foreign =>
    obtain ⟨whole, block⟩ := heads.readBlock
    rw [block, readBody_of_foreign whole small (by simp) (by rwa [List.take_left])]
    exact ⟨rfl, List.drop_left⟩

end Failures

section Runs

theorem readings_end (stream : Bytes) :
    ∃ found : List Found, found.length ≤ stream.length ∧ (∀ one ∈ found, one ≠ .finished) ∧
      ∀ more, readings (found.length + more) stream =
        (found ++ List.replicate more .finished, []) := by
  -- The induction is on what a reading leaves.
  by_cases empty : stream = []
  · refine ⟨[], Nat.zero_le _, nofun, fun more => ?_⟩
    rw [empty, List.length_nil, Nat.zero_add, readings_nil]
    rfl
  · have shorter := read_shortens empty
    obtain ⟨found, few, unfinished, run⟩ := readings_end (read stream).rest
    refine ⟨(read stream).found :: found, ?_, ?_, fun more => ?_⟩
    · exact Nat.lt_of_le_of_lt few shorter
    · exact List.forall_mem_cons.mpr ⟨mt read_finished_iff.mp empty, unfinished⟩
    · rw [List.length_cons, Nat.succ_add_eq_add_succ, Nat.add_succ, readings, run]
      rfl
termination_by stream.length

end Runs

theorem reader_progresses (stream : Bytes) : Progresses stream where
  suffix := read_suffix stream
  finished := read_finished_iff
  shortens := read_shortens
  failed error rest := by
    refine ⟨?_, Fails.read⟩
    rintro ⟨found, rfl⟩
    exact fails_of_read found
  ends := readings_end stream

end WorkspaceServers.Frame
