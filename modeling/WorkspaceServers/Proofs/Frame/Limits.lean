import WorkspaceServers.Frame.Writer

/-!
Writing to a sink that has room for so many bytes and refuses all others. The frames fill
the room from the front, and a write succeeds as long as its frame still fits in whole.
-/

namespace WorkspaceServers.Frame

variable {room : Nat} {message : Json}

theorem header_ne_nil (length : Nat) : header length ≠ [] := by
  simp [header, Utf8.encode, Utf8.encodeChar]

theorem encode_length_pos (message : Json) : 0 < (encode message).length := by
  rw [encode, List.length_append]
  exact Nat.lt_of_lt_of_le (List.length_pos_iff.mpr (header_ne_nil _)) (Nat.le_add_right _ _)

/-- The messages whose frames fit in whole, up to the first one that does not. -/
def fitting (room : Nat) : List Json → List Json
  | [] => []
  | message :: rest =>
    if (encode message).length ≤ room then
      message :: fitting (room - (encode message).length) rest
    else []

theorem fitting_isPrefix (room : Nat) (messages : List Json) :
    fitting room messages <+: messages := by
  induction messages generalizing room with
  | nil => exact List.prefix_refl _
  | cons message rest ih =>
    rw [fitting]
    split
    · exact List.cons_prefix_cons.mpr ⟨rfl, ih _⟩
    · exact List.nil_prefix

theorem lt_fitting_iff (room : Nat) (messages : List Json) (place : Nat) :
    place < (fitting room messages).length ↔
      place < messages.length ∧ ((messages.take (place + 1)).flatMap encode).length ≤ room := by
  induction messages generalizing room place with
  | nil => simp [fitting]
  | cons message rest ih =>
    rw [fitting]
    split
    · rename_i fits
      cases place with
      | zero => simp [fits]
      | succ place =>
        simp only [List.length_cons, Nat.add_lt_add_iff_right, ih, List.take_succ_cons,
          List.flatMap_cons, List.length_append]
        exact and_congr_right fun _ => by omega
    · rename_i long
      simp only [List.length_nil, Nat.not_lt_zero, List.take_succ_cons, List.flatMap_cons,
        List.length_append, false_iff]
      omega

/-- What is written of the frames are those that fit, and then what there is room for of the
next one. -/
theorem take_flatMap_encode (room : Nat) (messages : List Json) :
    ∃ torn, (messages.flatMap encode).take room = (fitting room messages).flatMap encode ++ torn ∧
      (torn = [] ∨ ∃ message ∈ messages, torn <+: encode message ∧ torn ≠ encode message) := by
  induction messages generalizing room with
  | nil => exact ⟨[], by simp [fitting], .inl rfl⟩
  | cons message rest ih =>
    rw [fitting, List.flatMap_cons, List.take_append]
    split
    · rename_i fits
      obtain ⟨torn, taken, ends⟩ := ih (room - (encode message).length)
      refine ⟨torn, ?_, ends.imp_right ?_⟩
      · rw [List.take_of_length_le fits, taken, List.flatMap_cons, List.append_assoc]
      · rintro ⟨other, member, cut⟩
        exact ⟨other, List.mem_cons_of_mem _ member, cut⟩
    · rename_i long
      refine ⟨(encode message).take room, ?_, .inr ⟨message, List.mem_cons_self,
        List.take_prefix _ _, fun whole => long ?_⟩⟩
      · rw [Nat.sub_eq_zero_of_le (Nat.le_of_not_le long), List.take_zero, List.append_nil]
        rfl
      · rw [← whole]
        exact List.length_take_le _ _

namespace Sink

def limited (room : Nat) : Sink := ⟨[], some room, false⟩

variable {written : Bytes}

theorem write_of_fits (written : Bytes) (fits : (encode message).length ≤ room) :
    write ⟨written, some room, false⟩ message =
      (⟨written ++ encode message, some (room - (encode message).length), false⟩, .ok ()) := by
  rw [encode, List.length_append] at fits
  have heading : (header message.bytes.length).length ≤ room := by omega
  have body : message.bytes.length ≤ room - (header message.bytes.length).length := by omega
  simp [write, accept, heading, body, encode, List.take_of_length_le, Nat.sub_sub]

theorem write_of_long (written : Bytes) (long : room < (encode message).length) :
    ∃ error, write ⟨written, some room, false⟩ message =
      (⟨written ++ (encode message).take room, some 0, false⟩, .error error) := by
  rw [encode, List.length_append] at long
  by_cases heading : (header message.bytes.length).length ≤ room
  · have body : ¬ message.bytes.length ≤ room - (header message.bytes.length).length := by omega
    refine ⟨.body, ?_⟩
    simp [write, accept, heading, body, encode, List.take_append, List.take_of_length_le]
    omega
  · refine ⟨.header, ?_⟩
    simp [write, accept, heading, encode, List.take_append]
    omega

theorem writeAll_limited (written : Bytes) (room : Nat) (messages : List Json) :
    (writeAll ⟨written, some room, false⟩ messages).1 =
      ⟨written ++ (messages.flatMap encode).take room,
        some (room - (messages.flatMap encode).length), false⟩ := by
  induction messages generalizing written room with
  | nil => simp [writeAll]
  | cons message rest ih =>
    rw [List.flatMap_cons, List.take_append, List.length_append]
    by_cases fits : (encode message).length ≤ room
    · simp only [writeAll, write_of_fits written fits, ih]
      rw [List.take_of_length_le fits, List.append_assoc, Nat.sub_sub]
    · obtain ⟨error, failed⟩ := write_of_long written (Nat.lt_of_not_le fits)
      simp only [writeAll, failed, ih]
      rw [Nat.sub_eq_zero_of_le (Nat.le_of_not_le fits)]
      simp
      omega

theorem fitting_zero (messages : List Json) : fitting 0 messages = [] := by
  cases messages with
  | nil => rfl
  | cons message rest => exact if_neg (Nat.not_le.mpr (encode_length_pos message))

theorem writeAll_ok_iff (written : Bytes) (room : Nat) (messages : List Json) (place : Nat) :
    (writeAll ⟨written, some room, false⟩ messages).2[place]? = some (.ok ()) ↔
      place < (fitting room messages).length := by
  induction messages generalizing written room place with
  | nil => simp [writeAll, fitting]
  | cons message rest ih =>
    rw [fitting]
    split
    · rename_i fits
      simp only [writeAll, write_of_fits written fits]
      cases place with
      | zero => simp
      | succ place => simp [ih]
    · rename_i long
      obtain ⟨error, failed⟩ := write_of_long written (Nat.lt_of_not_le long)
      simp only [writeAll, failed]
      cases place with
      | zero => simp
      | succ place => simp [ih, fitting_zero]

end Sink

end WorkspaceServers.Frame
