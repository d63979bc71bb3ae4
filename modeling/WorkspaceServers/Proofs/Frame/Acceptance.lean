import WorkspaceServers.Proofs.Frame.Blocks
import WorkspaceServers.Proofs.Frame.Readings

/-!
What the reader accepts. A frame is read exactly where the grammar of frames has one, and the
lines that do not give a length do not matter for it.
-/

namespace WorkspaceServers.Frame

def Reads (stream : Bytes) (json : Json) (rest : Bytes) : Prop :=
  (read stream).found = .frame json ∧ (read stream).rest = rest

/-- The grammar of a frame: header lines that are not blank and of which the last that gives a
length gives one within the limit, a blank line, and as many bytes of a JSON text. -/
def Framed (stream : Bytes) (json : Json) (rest : Bytes) : Prop :=
  ∃ headers blank body length,
    stream = lines (headers ++ [blank]) ++ (body ++ rest) ∧
    (∀ header ∈ headers, Passes header) ∧ '\n' ∉ blank ∧ IsBlank blank ∧
    Announces headers length ∧ length ≤ maxLength ∧
    body.length = length ∧ Json.ofBytes? body = some json

variable {json : Json} {stream rest : Bytes}

section Bodies

theorem readBody_of_json {n : Nat} {behind : Bytes} (whole : Bool) (small : n ≤ maxLength)
    (enough : n ≤ behind.length) (parsed : Json.ofBytes? (behind.take n) = some json) :
    readBody ⟨.length n, behind, whole⟩ = ⟨.frame json, behind.drop n, whole⟩ := by
  rw [readBody, if_neg (Nat.not_lt.mpr small), if_neg (Nat.not_lt.mpr enough), parsed]

theorem readBody_of_foreign {n : Nat} {behind : Bytes} (whole : Bool) (small : n ≤ maxLength)
    (enough : n ≤ behind.length) (foreign : Json.ofBytes? (behind.take n) = none) :
    readBody ⟨.length n, behind, whole⟩ = ⟨.failed .bodyNotJson, behind.drop n, whole⟩ := by
  rw [readBody, if_neg (Nat.not_lt.mpr small), if_neg (Nat.not_lt.mpr enough), foreign]

theorem readBody_frame_iff {reading : Reading Block} :
    ((readBody reading).found = .frame json ∧ (readBody reading).rest = rest) ↔
      ∃ body, reading.found = .length body.length ∧ body.length ≤ maxLength ∧
        reading.rest = body ++ rest ∧ Json.ofBytes? body = some json := by
  obtain ⟨block, behind, whole⟩ := reading
  constructor
  · rintro ⟨found, left⟩
    cases block with
    | finished => cases found
    | failed error => cases found
    | length n =>
      by_cases long : maxLength < n
      · rw [readBody, if_pos long] at found
        cases found
      by_cases short : behind.length < n
      · rw [readBody, if_neg long, if_pos short] at found
        cases found
      have small := Nat.le_of_not_lt long
      have enough := Nat.le_of_not_lt short
      -- With enough bytes there, the body has just the length that was announced.
      have count : (behind.take n).length = n := List.length_take_of_le enough
      cases parsed : Json.ofBytes? (behind.take n) with
      | none =>
        rw [readBody_of_foreign whole small enough parsed] at found
        cases found
      | some value =>
        rw [readBody_of_json whole small enough parsed] at found left
        cases found
        refine ⟨behind.take n, by rw [count], by rwa [count], ?_, parsed⟩
        rw [← left, List.take_append_drop]
  · rintro ⟨body, announced, small, taken, parsed⟩
    simp only at announced taken
    rw [announced, taken, readBody_of_json whole small (by simp) (by rwa [List.take_left])]
    exact ⟨rfl, List.drop_left⟩

theorem reads_iff :
    Reads stream json rest ↔
      ∃ body, (readBlock none false [] stream).found = .length body.length ∧
        body.length ≤ maxLength ∧ (readBlock none false [] stream).rest = body ++ rest ∧
        Json.ofBytes? body = some json := by
  rw [Reads, read, readBody_frame_iff]

end Bodies

section Grammar

theorem lines_blank (headers : List (List Char)) (blank : List Char) (behind : Bytes) :
    lines (headers ++ [blank]) ++ behind =
      lines headers ++ (Utf8.encode blank ++ lineFeed :: behind) := by
  rw [lines_append, List.append_assoc, lines_cons]
  rfl

theorem framed_of_reads (reads : Reads stream json rest) : Framed stream json rest := by
  obtain ⟨body, announced, small, taken, parsed⟩ := reads_iff.mp reads
  obtain ⟨headers, text, cut, blank, announces⟩ := readBlock_length_iff.mp ⟨announced, taken⟩
  obtain ⟨behind, whole, split, leads⟩ := cut.leads
  generalize left : body ++ rest = after at leads
  -- The line feed of the blank line is there, since a body follows, which is never empty.
  cases leads with
  | whole =>
    refine ⟨headers, text, body, body.length, ?_, cut.passing, notMem_of_encode cut.clear, blank,
      announces, small, rfl, parsed⟩
    rw [split, lines_blank, left]
  | last =>
    rw [(List.append_eq_nil_iff.mp left).1, ofBytes?_nil] at parsed
    cases parsed

theorem reads_of_framed (framed : Framed stream json rest) : Reads stream json rest := by
  obtain ⟨headers, blank, body, length, rfl, passing, line, isBlank, announces, small, rfl,
    parsed⟩ := framed
  have cut : Cut (lines (headers ++ [blank]) ++ (body ++ rest)) headers (Utf8.encode blank)
      (body ++ rest) :=
    ⟨passing, lineFeed_notMem_encode line, _, true, lines_blank headers blank _, .whole _⟩
  obtain ⟨announced, taken⟩ := readBlock_length_iff.mpr ⟨headers, blank, cut, isBlank, announces⟩
  exact reads_iff.mpr ⟨body, announced, small, taken, parsed⟩

end Grammar

section Others

structure Idle (header : List Char) : Prop where
  line : '\n' ∉ header
  present : ¬ IsBlank header
  silent : ∀ value, ¬ GivesLength header value

theorem Idle.passes {header : List Char} (idle : Idle header) : Passes header where
  line := idle.line
  present := idle.present
  sound value gives := absurd gives (idle.silent value)

theorem readBlock_started {length : Option Nat} {behind : Bytes} (line : Bytes)
    (present : line ≠ [] ∨ behind ≠ []) (first second : Bool) :
    readBlock length first line behind = readBlock length second line behind := by
  -- Whether a line came before one matters at the very end of the stream only.
  induction behind generalizing line with
  | nil =>
    have begun : line ≠ [] := present.resolve_right (· rfl)
    rw [readBlock, readBlock, if_neg begun, if_neg begun]
  | cons byte rest ih =>
    rw [readBlock, readBlock]
    split
    · rfl
    · exact ih (byte :: line) (.inl (List.cons_ne_nil _ _))

theorem readBlock_end (length : Option Nat) (started : Bool) (n : Nat) :
    (readBlock length started [] []).found ≠ .length n := by
  cases started <;> nofun

theorem readBlock_front {before : List (List Char)}
    (front : ∀ header ∈ before, '\n' ∉ header ∧ ¬ IsBlank header) (length : Option Nat)
    (started : Bool) :
    (∃ error, ∀ behind, (readBlock length started [] (lines before ++ behind)).found =
        .failed error) ∨
      ∃ length' started', ∀ behind, readBlock length started [] (lines before ++ behind) =
        readBlock length' started' [] behind := by
  induction before generalizing length started with
  | nil => exact .inr ⟨length, started, fun _ => rfl⟩
  | cons header others ih =>
    obtain ⟨⟨line, present⟩, later⟩ := List.forall_mem_cons.mp front
    rcases blank_or_passes_or_faulty line with blank | passes | ⟨value, gives, bad⟩
    · exact absurd blank present
    · simp only [lines_cons, readBlock_passes passes]
      exact ih later (heed length header) true
    · refine .inl ⟨.badLength value, fun behind => ?_⟩
      rw [lines_cons, readBlock_faulty (lineFeed_notMem_encode line)]
      rw [ofLine_encode, Header.ofText_of_faulty gives bad]

theorem readBlock_idle {others : List (List Char)} (idle : ∀ other ∈ others, Idle other)
    (length : Option Nat) (started : Bool) (behind : Bytes) :
    ∃ started', readBlock length started [] (lines others ++ behind) =
      readBlock length started' [] behind := by
  refine ⟨started || !others.isEmpty, ?_⟩
  rw [readBlock_lines fun other member => (idle other member).passes,
    foldl_heed_of_not_gives fun other member => (idle other member).silent]

theorem reads_idle_iff {before others : List (List Char)}
    (front : ∀ header ∈ before, '\n' ∉ header ∧ ¬ IsBlank header)
    (idle : ∀ other ∈ others, Idle other) (behind : Bytes) :
    Reads (lines (before ++ others) ++ behind) json rest ↔
      Reads (lines before ++ behind) json rest := by
  rw [reads_iff, reads_iff, lines_append, List.append_assoc]
  rcases readBlock_front front none false with ⟨error, fails⟩ | ⟨length, started, leads⟩
  · simp only [fails, reduceCtorEq, false_and, exists_false]
  · obtain ⟨started', passed⟩ := readBlock_idle idle length started behind
    rw [leads, leads, passed]
    -- The two readings differ in whether a line came before, which only an end would tell.
    by_cases empty : behind = []
    · simp only [empty, readBlock_end, false_and, exists_false]
    · rw [readBlock_started [] (.inr empty) started' started]

theorem frames_accepted :
    (∀ stream json rest, Reads stream json rest ↔ Framed stream json rest) ∧
    ∀ before others : List (List Char), (∀ header ∈ before, '\n' ∉ header ∧ ¬ IsBlank header) →
      (∀ other ∈ others, Idle other) → ∀ behind json rest,
        Reads (lines (before ++ others) ++ behind) json rest ↔
          Reads (lines before ++ behind) json rest :=
  ⟨fun _ _ _ => ⟨framed_of_reads, reads_of_framed⟩,
    fun _ _ front idle behind _ _ => reads_idle_iff front idle behind⟩

/-- The later length counts, with its sign, and the line without a colon does not matter. -/
theorem frames_accepted_null :
    Framed (lines ["Content-Length: 9\r".toList, "remark\r".toList, "content-LENGTH:+4".toList,
      []] ++ Utf8.encode "null0".toList) .null [0x30] :=
  (frames_accepted.1 _ _ _).mp ⟨by rfl, by rfl⟩

end Others

end WorkspaceServers.Frame
