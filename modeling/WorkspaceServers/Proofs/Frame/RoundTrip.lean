import WorkspaceServers.Proofs.Frame.Heading
import WorkspaceServers.Proofs.Frame.Readings
import WorkspaceServers.Proofs.Frame.Writing
import WorkspaceServers.Proofs.Json.RoundTrip

/-!
Frames that are written come back one by one. Each reading takes exactly the bytes of its
frame off the stream, so whatever stands behind the frames is left for the next reading.
-/

namespace WorkspaceServers.Frame

/-- The messages that the reader takes: their values survive the text, and their containers
and their bodies keep within its limits. -/
structure Sendable (message : Json) : Prop where
  plain : message.Plain
  shallow : message.depth ≤ Json.depthLimit
  short : message.bytes.length ≤ maxLength

theorem read_encode {message : Json} (sendable : Sendable message) (rest : Bytes) :
    read (encode message ++ rest) = ⟨.frame message, rest, true⟩ := by
  have short := sendable.short
  have fits : message.bytes.length < UInt64.size :=
    Nat.lt_of_le_of_lt short (by decide)
  have body := Json.ofBytes?_bytes sendable.plain sendable.shallow
  have enough : ¬ (message.bytes ++ rest).length < message.bytes.length := by
    rw [List.length_append]
    omega
  rw [read, encode, List.append_assoc, readBlock_header fits]
  simp only [readBody, if_neg (Nat.not_lt.mpr short), if_neg enough, List.take_left, body,
    List.drop_left]

theorem opens_encode {messages : List Json} (sendable : ∀ message ∈ messages, Sendable message)
    (rest : Bytes) : Opens (messages.flatMap encode ++ rest) messages rest := by
  induction messages with
  | nil => exact opens_nil rest
  | cons message more ih =>
    have first := read_encode (sendable message List.mem_cons_self) (more.flatMap encode ++ rest)
    rw [List.flatMap_cons, List.append_assoc]
    refine opens_cons.mpr ?_
    rw [first]
    exact ⟨rfl, ih fun message member => sendable message (List.mem_cons_of_mem _ member)⟩

/-- Every write succeeds, as many readings as there were writes give the messages back and
leave what is behind them, and if that is nothing then the next reading finds a clean end. -/
theorem written_read_back {messages : List Json}
    (sendable : ∀ message ∈ messages, Sendable message) (behind : Bytes) :
    (Sink.unlimited.writeAll messages).2 = messages.map (fun _ => .ok ()) ∧
    readings messages.length ((Sink.unlimited.writeAll messages).1.written ++ behind) =
      (messages.map .frame, behind) ∧
    readings (messages.length + 1) (Sink.unlimited.writeAll messages).1.written =
      (messages.map .frame ++ [.finished], []) := by
  have written : (Sink.unlimited.writeAll messages).1.written = messages.flatMap encode := by
    rw [Sink.writeAll_of_roomy Sink.roomy_unlimited]
    exact List.nil_append _
  have opens := opens_encode sendable behind
  have alone := opens_encode sendable []
  rw [List.append_nil] at alone
  refine ⟨?_, ?_, ?_⟩
  · rw [Sink.writeAll_of_roomy Sink.roomy_unlimited]
  · rw [written]
    exact opens
  · rw [written, readings_append, alone]
    rfl

/-- A body that looks like a header, and a name that needs escapes. -/
def sample : List Json :=
  [.obj [("\n", .str "Content-Length: 7\r\n\r\n"),
      ("\u00e9\"", .arr [.num (.int (-1) (by decide)), .null])],
    .str "\\"]

theorem written_read_back_sample :
    (∀ message ∈ sample, Sendable message) ∧
    readings 2 ((Sink.unlimited.writeAll sample).1.written ++ [0x0A]) =
      (sample.map .frame, [0x0A]) := by
  have sendable : ∀ message ∈ sample, Sendable message := by
    intro message member
    simp only [sample, List.mem_cons, List.not_mem_nil, or_false] at member
    rcases member with rfl | rfl
    · refine ⟨.obj ?_ ?_, ?_, ?_⟩
      · exact List.pairwise_pair.mpr (by decide +kernel)
      · simp only [List.mem_cons, List.not_mem_nil, or_false]
        rintro field (rfl | rfl)
        · exact .str _
        · refine .arr ?_
          simp only [List.mem_cons, List.not_mem_nil, or_false]
          rintro item (rfl | rfl)
          · exact .int _ _
          · exact .null
      · decide +kernel
      · decide +kernel
    · exact ⟨.str _, by decide +kernel, by decide +kernel⟩
  exact ⟨sendable, (written_read_back sendable [0x0A]).2.1⟩

end WorkspaceServers.Frame
