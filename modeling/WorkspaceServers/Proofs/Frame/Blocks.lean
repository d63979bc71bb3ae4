import Mathlib.Data.List.Induction
import WorkspaceServers.Proofs.Frame.Grammar
import WorkspaceServers.Proofs.Frame.Heading
import WorkspaceServers.Proofs.Text.WellFormed

/-!
Header blocks as lines of text. Every stream is cut in one way into whole header lines that
pass and what stops the block behind them: a blank line, a line with a faulty length, a line
that is no text, or the end of the stream in the middle of a line or between two.
-/

namespace WorkspaceServers.Frame

/-- A header line over which the reader goes on. -/
structure Passes (header : List Char) : Prop where
  line : '\n' ∉ header
  present : ¬ IsBlank header
  sound : ∀ value, GivesLength header value → ∃ n, Decimal.IsNumeral value n

/-- The last line that gives a length gives this one. -/
def Announces (headers : List (List Char)) (length : Nat) : Prop :=
  ∃ before header value after, headers = before ++ header :: after ∧
    GivesLength header value ∧ Decimal.IsNumeral value length ∧
    ∀ other ∈ after, ∀ value, ¬ GivesLength other value

def lines (texts : List (List Char)) : Bytes :=
  texts.flatMap fun text => Utf8.encode text ++ [lineFeed]

theorem lines_append (front back : List (List Char)) :
    lines (front ++ back) = lines front ++ lines back :=
  List.flatMap_append

theorem lines_cons (text : List Char) (texts : List (List Char)) (behind : Bytes) :
    lines (text :: texts) ++ behind = Utf8.encode text ++ lineFeed :: (lines texts ++ behind) := by
  simp [lines]

section Lengths

def heed (length : Option Nat) (header : List Char) : Option Nat :=
  match Header.ofText header with
  | .length bytes => some bytes
  | _ => length

variable {length : Option Nat} {header value : List Char}

theorem heed_of_gives {n : Nat} (gives : GivesLength header value)
    (numeral : Decimal.IsNumeral value n) : heed length header = some n := by
  rw [heed, Header.ofText_of_numeral gives numeral]

theorem heed_of_not_gives (silent : ∀ value, ¬ GivesLength header value) :
    heed length header = length := by
  by_cases blank : IsBlank header
  · rw [heed, Header.ofText_of_blank blank]
  · rw [heed, Header.ofText_of_not_gives blank silent]

theorem foldl_heed_of_not_gives {headers : List (List Char)}
    (silent : ∀ header ∈ headers, ∀ value, ¬ GivesLength header value) :
    headers.foldl heed length = length := by
  induction headers with
  | nil => rfl
  | cons header rest ih =>
    obtain ⟨here, later⟩ := List.forall_mem_cons.mp silent
    rw [List.foldl_cons, heed_of_not_gives here, ih later]

theorem foldl_heed_eq_some_iff {headers : List (List Char)} {n : Nat}
    (passing : ∀ header ∈ headers, Passes header) :
    headers.foldl heed none = some n ↔ Announces headers n := by
  constructor
  · induction headers using List.reverseRecOn with
    | nil => nofun
    | append_singleton front last ih =>
      intro known
      rw [List.foldl_append, List.foldl_cons, List.foldl_nil] at known
      -- The last line decides if it gives a length, and else what stands before it.
      by_cases gives : ∃ value, GivesLength last value
      · obtain ⟨value, gives⟩ := gives
        obtain ⟨m, numeral⟩ := (passing last (by simp)).sound value gives
        rw [heed_of_gives gives numeral] at known
        cases known
        exact ⟨front, last, value, [], rfl, gives, numeral, nofun⟩
      · rw [heed_of_not_gives (not_exists.mp gives)] at known
        obtain ⟨before, header, value, after, rfl, giving, numeral, silent⟩ :=
          ih (fun header member => passing header (List.mem_append_left _ member)) known
        refine ⟨before, header, value, after ++ [last], by simp, giving, numeral, ?_⟩
        intro other member
        rcases List.mem_append.mp member with inside | final
        · exact silent other inside
        · rw [List.mem_singleton.mp final]
          exact not_exists.mp gives
  · rintro ⟨before, header, value, after, rfl, gives, numeral, silent⟩
    rw [List.foldl_append, List.foldl_cons, heed_of_gives gives numeral,
      foldl_heed_of_not_gives silent]

theorem foldl_heed_eq_none_iff {headers : List (List Char)}
    (passing : ∀ header ∈ headers, Passes header) :
    headers.foldl heed none = none ↔ ∀ n, ¬ Announces headers n := by
  simp only [Option.eq_none_iff_forall_ne_some, ne_eq, foldl_heed_eq_some_iff passing]

end Lengths

section Meanings

variable {text : List Char}

theorem ofLine_encode (text : List Char) :
    Header.ofLine (Utf8.encode text) = Header.ofText text := by
  rw [Header.ofLine, Utf8.decode?_encode]

theorem ofLine_of_foreign {line : Bytes} (foreign : ∀ text, line ≠ Utf8.encode text) :
    Header.ofLine line = .faulty .lineNotText := by
  rw [Header.ofLine]
  split
  · rfl
  · rename_i text decoded
    exact absurd (Utf8.decode?_eq_some_iff.mp decoded) (foreign text)

theorem Passes.ofText (passes : Passes text) :
    Header.ofText text = .other ∨ ∃ n, Header.ofText text = .length n := by
  by_cases gives : ∃ value, GivesLength text value
  · obtain ⟨value, gives⟩ := gives
    obtain ⟨n, numeral⟩ := passes.sound value gives
    exact .inr ⟨n, Header.ofText_of_numeral gives numeral⟩
  · exact .inl (Header.ofText_of_not_gives passes.present (not_exists.mp gives))

theorem Passes.encode_ne_nil (passes : Passes text) : Utf8.encode text ≠ [] := by
  intro empty
  have decoded := Utf8.decode?_encode text
  rw [empty] at decoded
  cases decoded
  exact passes.present nofun

theorem blank_or_passes_or_faulty (line : '\n' ∉ text) :
    IsBlank text ∨ Passes text ∨
      ∃ value, GivesLength text value ∧ ¬ ∃ n, Decimal.IsNumeral value n := by
  by_cases blank : IsBlank text
  · exact .inl blank
  · by_cases sound : ∀ value, GivesLength text value → ∃ n, Decimal.IsNumeral value n
    · exact .inr (.inl ⟨line, blank, sound⟩)
    · obtain ⟨value, faulty⟩ := not_forall.mp sound
      exact .inr (.inr ⟨value, Classical.not_imp.mp faulty⟩)

end Meanings

section Runs

variable {length : Option Nat} {started : Bool} {line rest : Bytes}

def cutShort (length : Option Nat) : Header → Reading Block
  | .blank => ⟨.close length, [], false⟩
  | .faulty error => ⟨.failed error, [], false⟩
  | .length _ | .other => ⟨.failed .endInHeader, [], false⟩

theorem readBlock_last (clear : lineFeed ∉ line) (present : line ≠ []) :
    readBlock length started [] line = cutShort length (Header.ofLine line) := by
  have begun := readBlock_bytes clear length started [] []
  rw [List.append_nil, List.append_nil] at begun
  rw [begun, readBlock, if_neg (mt List.reverse_eq_nil_iff.mp present), List.reverse_reverse]
  cases Header.ofLine line with
  | blank | faulty _ | length _ | other => rfl

theorem readBlock_faulty {error : ReadError} (clear : lineFeed ∉ line)
    (meaning : Header.ofLine line = .faulty error) :
    readBlock length started [] (line ++ lineFeed :: rest) = ⟨.failed error, rest, true⟩ := by
  rw [readBlock_bytes clear, List.append_nil, readBlock, if_pos rfl, List.reverse_reverse, meaning]

theorem readBlock_passes {text : List Char} (passes : Passes text) :
    readBlock length started [] (Utf8.encode text ++ lineFeed :: rest) =
      readBlock (heed length text) true [] rest := by
  have clear := lineFeed_notMem_encode passes.line
  rw [readBlock_bytes clear, List.append_nil, readBlock, if_pos rfl, List.reverse_reverse,
    ofLine_encode, heed]
  rcases passes.ofText with meaning | ⟨n, meaning⟩
  · rw [meaning]
  · rw [meaning]

theorem readBlock_lines {headers : List (List Char)} (passing : ∀ header ∈ headers, Passes header)
    (rest : Bytes) :
    readBlock length started [] (lines headers ++ rest) =
      readBlock (headers.foldl heed length) (started || !headers.isEmpty) [] rest := by
  induction headers generalizing length started with
  | nil => simp [lines]
  | cons header others ih =>
    obtain ⟨passes, later⟩ := List.forall_mem_cons.mp passing
    rw [lines_cons, readBlock_passes passes, ih later]
    simp

end Runs

section Stops

variable {length : Option Nat} {started : Bool} {stream : Bytes} {reading : Reading Block}

/-- `line` stands at the front of the stream and `rest` behind it. Only a last line, which has
a byte at least, can do without its line feed. -/
inductive Leads (line : Bytes) : (stream rest : Bytes) → (whole : Bool) → Prop where
  | whole (rest : Bytes) : Leads line (line ++ lineFeed :: rest) rest true
  | last (present : line ≠ []) : Leads line line [] false

inductive Stop (length : Option Nat) (started : Bool) (stream : Bytes) : Reading Block → Prop where
  | nothing (empty : stream = []) :
    Stop length started stream ⟨if started then .failed .endInHeader else .finished, [], false⟩
  | blank {text : List Char} {rest : Bytes} {whole : Bool} (line : '\n' ∉ text)
      (leads : Leads (Utf8.encode text) stream rest whole) (blank : IsBlank text) :
    Stop length started stream ⟨.close length, rest, whole⟩
  | badLength {text value : List Char} {rest : Bytes} {whole : Bool} (line : '\n' ∉ text)
      (leads : Leads (Utf8.encode text) stream rest whole) (gives : GivesLength text value)
      (bad : ¬ ∃ n, Decimal.IsNumeral value n) :
    Stop length started stream ⟨.failed (.badLength value), rest, whole⟩
  | lineNotText {line rest : Bytes} {whole : Bool} (clear : lineFeed ∉ line)
      (leads : Leads line stream rest whole) (foreign : ∀ text, line ≠ Utf8.encode text) :
    Stop length started stream ⟨.failed .lineNotText, rest, whole⟩
  | torn {text : List Char} (passes : Passes text)
      (leads : Leads (Utf8.encode text) stream [] false) :
    Stop length started stream ⟨.failed .endInHeader, [], false⟩

theorem readBlock_leads {line rest : Bytes} {whole : Bool} (clear : lineFeed ∉ line)
    (leads : Leads line stream rest whole) :
    (Header.ofLine line = .blank →
      readBlock length started [] stream = ⟨.close length, rest, whole⟩) ∧
    ∀ error, Header.ofLine line = .faulty error →
      readBlock length started [] stream = ⟨.failed error, rest, whole⟩ := by
  cases leads with
  | whole rest => exact ⟨readBlock_blank clear, fun error => readBlock_faulty clear⟩
  | last present =>
    rw [readBlock_last clear present]
    exact ⟨fun meaning => by rw [meaning, cutShort], fun error meaning => by rw [meaning, cutShort]⟩

theorem readBlock_stop (stop : Stop length started stream reading) :
    readBlock length started [] stream = reading := by
  cases stop with
  | nothing empty => rw [empty, readBlock, if_pos rfl]
  | blank line leads blank =>
    refine (readBlock_leads (lineFeed_notMem_encode line) leads).1 ?_
    rw [ofLine_encode, Header.ofText_of_blank blank]
  | badLength line leads gives bad =>
    refine (readBlock_leads (lineFeed_notMem_encode line) leads).2 _ ?_
    rw [ofLine_encode, Header.ofText_of_faulty gives bad]
  | lineNotText clear leads foreign =>
    exact (readBlock_leads clear leads).2 _ (ofLine_of_foreign foreign)
  | torn passes leads =>
    cases leads with
    | last present =>
      rw [readBlock_last (lineFeed_notMem_encode passes.line) present, ofLine_encode]
      rcases passes.ofText with meaning | ⟨n, meaning⟩
      · rw [meaning, cutShort]
      · rw [meaning, cutShort]

theorem exists_leads (present : stream ≠ []) :
    ∃ line rest whole, lineFeed ∉ line ∧ Leads line stream rest whole := by
  by_cases ends : lineFeed ∈ stream
  · obtain ⟨line, rest, rfl, clear⟩ := List.eq_append_cons_of_mem ends
    exact ⟨line, rest, true, clear, .whole rest⟩
  · exact ⟨stream, [], false, ends, .last present⟩

theorem notMem_of_encode {text : List Char} (clear : lineFeed ∉ Utf8.encode text) :
    '\n' ∉ text := fun member =>
  clear (List.mem_flatMap.mpr ⟨'\n', member, by decide⟩)

theorem passes_or_stop (length : Option Nat) (started : Bool) (stream : Bytes) :
    (∃ text rest, Passes text ∧ stream = Utf8.encode text ++ lineFeed :: rest) ∨
      ∃ reading, Stop length started stream reading := by
  by_cases empty : stream = []
  · exact .inr ⟨_, .nothing empty⟩
  obtain ⟨line, rest, whole, clear, leads⟩ := exists_leads empty
  by_cases foreign : ∀ text, line ≠ Utf8.encode text
  · exact .inr ⟨_, .lineNotText clear leads foreign⟩
  -- A line of text that does not stop the block does so for want of a line feed only.
  obtain ⟨text, encoded⟩ := not_forall.mp foreign
  obtain rfl := not_not.mp encoded
  have inner := notMem_of_encode clear
  rcases blank_or_passes_or_faulty inner with blank | passes | ⟨value, gives, bad⟩
  · exact .inr ⟨_, .blank inner leads blank⟩
  · cases leads with
    | whole rest => exact .inl ⟨text, rest, passes, rfl⟩
    | last present => exact .inr ⟨_, .torn passes (.last present)⟩
  · exact .inr ⟨_, .badLength inner leads gives bad⟩

theorem exists_lines_stop (length : Option Nat) (started : Bool) (stream : Bytes) :
    ∃ headers behind reading, stream = lines headers ++ behind ∧
      (∀ header ∈ headers, Passes header) ∧
      Stop (headers.foldl heed length) (started || !headers.isEmpty) behind reading := by
  -- The induction is on the bytes left behind the lines that passed.
  rcases passes_or_stop length started stream with ⟨text, rest, passes, split⟩ | ⟨reading, stop⟩
  · have fewer : rest.length < stream.length := by simp [split]; omega
    obtain ⟨headers, behind, reading, rfl, passing, stop⟩ :=
      exists_lines_stop (heed length text) true rest
    refine ⟨text :: headers, behind, reading, ?_, List.forall_mem_cons.mpr ⟨passes, passing⟩, ?_⟩
    · rw [split, lines_cons]
    · simpa using stop
  · exact ⟨[], stream, reading, rfl, nofun, by simpa using stop⟩
termination_by stream.length

structure Blocks (stream : Bytes) (headers : List (List Char)) (reading : Reading Block) :
    Prop where
  passing : ∀ header ∈ headers, Passes header
  stop : ∃ behind, stream = lines headers ++ behind ∧
    Stop (headers.foldl heed none) (!headers.isEmpty) behind reading

theorem Blocks.readBlock {headers : List (List Char)} (blocks : Blocks stream headers reading) :
    readBlock none false [] stream = reading := by
  obtain ⟨passing, behind, rfl, stop⟩ := blocks
  rw [readBlock_lines passing, Bool.false_or]
  exact readBlock_stop stop

theorem exists_blocks (stream : Bytes) :
    ∃ headers, Blocks stream headers (readBlock none false [] stream) := by
  obtain ⟨headers, behind, reading, split, passing, stop⟩ := exists_lines_stop none false stream
  have blocks : Blocks stream headers reading := ⟨passing, behind, split, stop⟩
  exact ⟨headers, blocks.readBlock.symm ▸ blocks⟩

end Stops

section Outcomes

variable {stream rest : Bytes}

structure Cut (stream : Bytes) (headers : List (List Char)) (line rest : Bytes) : Prop where
  passing : ∀ header ∈ headers, Passes header
  clear : lineFeed ∉ line
  leads : ∃ behind whole, stream = lines headers ++ behind ∧ Leads line behind rest whole

inductive Breaks (stream : Bytes) : ReadError → (rest : Bytes) → Prop where
  | lineNotText {headers : List (List Char)} {line rest : Bytes}
      (cut : Cut stream headers line rest) (foreign : ∀ text, line ≠ Utf8.encode text) :
    Breaks stream .lineNotText rest
  | badLength {headers : List (List Char)} {text value : List Char} {rest : Bytes}
      (cut : Cut stream headers (Utf8.encode text) rest) (gives : GivesLength text value)
      (bad : ¬ ∃ n, Decimal.IsNumeral value n) :
    Breaks stream (.badLength value) rest
  | endInHeader {headers : List (List Char)} (passing : ∀ header ∈ headers, Passes header)
      (present : headers ≠ []) (whole : stream = lines headers) :
    Breaks stream .endInHeader []
  | endInLine {headers : List (List Char)} {text : List Char}
      (passing : ∀ header ∈ headers, Passes header) (passes : Passes text)
      (torn : stream = lines headers ++ Utf8.encode text) :
    Breaks stream .endInHeader []
  | noLength {headers : List (List Char)} {text : List Char} {rest : Bytes}
      (cut : Cut stream headers (Utf8.encode text) rest) (blank : IsBlank text)
      (silent : ∀ n, ¬ Announces headers n) :
    Breaks stream .noLength rest

def Heads (stream : Bytes) (length : Nat) (rest : Bytes) : Prop :=
  ∃ headers text, Cut stream headers (Utf8.encode text) rest ∧ IsBlank text ∧
    Announces headers length

theorem close_eq_length_iff {length : Option Nat} {n : Nat} :
    Block.close length = .length n ↔ length = some n := by
  cases length <;> simp [Block.close]

theorem close_eq_failed_iff {length : Option Nat} {error : ReadError} :
    Block.close length = .failed error ↔ length = none ∧ error = .noLength := by
  cases length <;> simp [Block.close, eq_comm]

theorem Cut.blocks {headers : List (List Char)} {line : Bytes} (cut : Cut stream headers line rest)
    {block : Block} (stop : ∀ behind whole, Leads line behind rest whole →
      Stop (headers.foldl heed none) (!headers.isEmpty) behind ⟨block, rest, whole⟩) :
    ∃ whole, readBlock none false [] stream = ⟨block, rest, whole⟩ := by
  obtain ⟨behind, whole, split, leads⟩ := cut.leads
  have blocks : Blocks stream headers ⟨block, rest, whole⟩ :=
    ⟨cut.passing, behind, split, stop behind whole leads⟩
  exact ⟨whole, blocks.readBlock⟩

theorem Heads.readBlock {n : Nat} (heads : Heads stream n rest) :
    ∃ whole, readBlock none false [] stream = ⟨.length n, rest, whole⟩ := by
  obtain ⟨headers, text, cut, blank, announces⟩ := heads
  have closed := close_eq_length_iff.mpr ((foldl_heed_eq_some_iff cut.passing).mpr announces)
  refine cut.blocks fun behind whole leads => ?_
  rw [← closed]
  exact .blank (notMem_of_encode cut.clear) leads blank

theorem Breaks.readBlock {error : ReadError} (breaks : Breaks stream error rest) :
    ∃ whole, readBlock none false [] stream = ⟨.failed error, rest, whole⟩ := by
  cases breaks with
  | lineNotText cut foreign =>
    exact cut.blocks fun behind whole leads => .lineNotText cut.clear leads foreign
  | badLength cut gives bad =>
    exact cut.blocks fun behind whole leads =>
      .badLength (notMem_of_encode cut.clear) leads gives bad
  | @endInHeader headers passing present whole =>
    have started : (!headers.isEmpty) = true := by simpa using present
    have stop : Stop (headers.foldl heed none) (!headers.isEmpty) [] _ := .nothing rfl
    rw [if_pos started] at stop
    have blocks : Blocks stream headers _ := ⟨passing, [], by simpa using whole, stop⟩
    exact ⟨false, blocks.readBlock⟩
  | @endInLine headers text passing passes torn =>
    have leads := Leads.last passes.encode_ne_nil
    have blocks : Blocks stream headers _ := ⟨passing, _, torn, .torn passes leads⟩
    exact ⟨false, blocks.readBlock⟩
  | noLength cut blank silent =>
    have unknown := (foldl_heed_eq_none_iff cut.passing).mpr silent
    refine cut.blocks fun behind whole leads => ?_
    rw [← close_eq_failed_iff.mpr ⟨unknown, rfl⟩]
    exact .blank (notMem_of_encode cut.clear) leads blank

theorem Blocks.outcome {headers : List (List Char)} {reading : Reading Block}
    (blocks : Blocks stream headers reading) :
    (reading.found = .finished ∧ stream = []) ∨
      (∃ error, reading.found = .failed error ∧ Breaks stream error reading.rest) ∨
      ∃ n, reading.found = .length n ∧ Heads stream n reading.rest := by
  obtain ⟨passing, behind, split, stop⟩ := blocks
  cases stop with
  | nothing empty =>
    cases headers with
    | nil => exact .inl ⟨rfl, by simpa [lines, empty] using split⟩
    | cons header others =>
      refine .inr (.inl ⟨.endInHeader, rfl, .endInHeader passing (List.cons_ne_nil _ _) ?_⟩)
      rw [split, empty, List.append_nil]
  | @blank text rest whole line leads blank =>
    have cut : Cut stream headers (Utf8.encode text) rest :=
      ⟨passing, lineFeed_notMem_encode line, behind, whole, split, leads⟩
    -- The blank line closes the block, with the last length that was given.
    cases known : headers.foldl heed none with
    | none =>
      have silent := (foldl_heed_eq_none_iff passing).mp known
      exact .inr (.inl ⟨.noLength, rfl, .noLength cut blank silent⟩)
    | some n =>
      have announces := (foldl_heed_eq_some_iff passing).mp known
      exact .inr (.inr ⟨n, rfl, headers, text, cut, blank, announces⟩)
  | @badLength text value rest whole line leads gives bad =>
    have cut : Cut stream headers (Utf8.encode text) rest :=
      ⟨passing, lineFeed_notMem_encode line, behind, whole, split, leads⟩
    exact .inr (.inl ⟨_, rfl, .badLength cut gives bad⟩)
  | @lineNotText line rest whole clear leads foreign =>
    have cut : Cut stream headers line rest := ⟨passing, clear, behind, whole, split, leads⟩
    exact .inr (.inl ⟨_, rfl, .lineNotText cut foreign⟩)
  | torn passes leads =>
    cases leads with
    | last present => exact .inr (.inl ⟨_, rfl, .endInLine passing passes split⟩)

theorem readBlock_length_iff {n : Nat} :
    ((readBlock none false [] stream).found = .length n ∧
      (readBlock none false [] stream).rest = rest) ↔ Heads stream n rest := by
  constructor
  · rintro ⟨found, rfl⟩
    obtain ⟨headers, blocks⟩ := exists_blocks stream
    rcases blocks.outcome with ⟨ended, -⟩ | ⟨error, failed, -⟩ | ⟨m, known, heads⟩
    · rw [ended] at found
      cases found
    · rw [failed] at found
      cases found
    · rw [known] at found
      cases found
      exact heads
  · intro heads
    obtain ⟨whole, block⟩ := heads.readBlock
    rw [block]
    exact ⟨rfl, rfl⟩

theorem readBlock_failed_iff {error : ReadError} :
    ((readBlock none false [] stream).found = .failed error ∧
      (readBlock none false [] stream).rest = rest) ↔ Breaks stream error rest := by
  constructor
  · rintro ⟨found, rfl⟩
    obtain ⟨headers, blocks⟩ := exists_blocks stream
    rcases blocks.outcome with ⟨ended, -⟩ | ⟨other, failed, breaks⟩ | ⟨n, known, -⟩
    · rw [ended] at found
      cases found
    · rw [failed] at found
      cases found
      exact breaks
    · rw [known] at found
      cases found
  · intro breaks
    obtain ⟨whole, block⟩ := breaks.readBlock
    rw [block]
    exact ⟨rfl, rfl⟩

theorem readBlock_finished_iff :
    (readBlock none false [] stream).found = .finished ↔ stream = [] := by
  constructor
  · intro found
    obtain ⟨headers, blocks⟩ := exists_blocks stream
    rcases blocks.outcome with ⟨-, empty⟩ | ⟨error, failed, -⟩ | ⟨n, known, -⟩
    · exact empty
    · rw [failed] at found
      cases found
    · rw [known] at found
      cases found
  · rintro rfl
    rfl

end Outcomes

end WorkspaceServers.Frame
