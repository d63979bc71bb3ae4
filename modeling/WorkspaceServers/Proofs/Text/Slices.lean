import WorkspaceServers.Proofs.Text.Cutting
import WorkspaceServers.Text.Utf8.Lemmas

/-!
Slices of texts by places in their bytes. There is a slice between two places only if both
are between characters. A mark that begins with an ASCII character is found in the bytes of a
text where it first stands in the text itself, so places next to it bound slices.
-/

namespace WorkspaceServers.Utf8

def isBoundary (bytes : Bytes) (place : Nat) : Bool :=
  match bytes[place]? with
  | none => place = bytes.length
  | some byte => byte.toNat < 0x80 || 0xC0 ≤ byte.toNat

def slice? (bytes : Bytes) (start stop : Nat) : Option Bytes :=
  if start ≤ stop && isBoundary bytes start && isBoundary bytes stop then
    some ((bytes.take stop).drop start)
  else none

def find? (mark bytes : Bytes) : Option Nat :=
  (Text.splitAtMark? mark bytes).map fun parts => parts.1.length

section Boundaries

theorem encodeChar_head (c : Char) : ∃ byte rest, encodeChar c = byte :: rest ∧
    (byte.toNat < 0x80 ∨ 0xC0 ≤ byte.toNat) := by
  have valid : c.toNat < 0xD800 ∨ (0xDFFF < c.toNat ∧ c.toNat < 0x110000) := c.valid
  have value {n : Nat} (small : n < 256) : (UInt8.ofNat n).toNat = n :=
    UInt8.toNat_ofNat_of_lt' small
  rw [encodeChar]
  split
  · exact ⟨_, _, rfl, .inl (by rw [value] <;> omega)⟩
  · split
    · exact ⟨_, _, rfl, .inr (by rw [value] <;> omega)⟩
    · split <;> exact ⟨_, _, rfl, .inr (by rw [value] <;> omega)⟩

theorem isBoundary_encode (front behind : List Char) :
    isBoundary (encode (front ++ behind)) (encode front).length = true := by
  rw [isBoundary, encode_append, List.getElem?_append_right (Nat.le_refl _), Nat.sub_self]
  cases behind with
  | nil => simp [encode]
  | cons c rest =>
    obtain ⟨byte, more, head, first⟩ := encodeChar_head c
    rw [encode_cons, head]
    simpa using first

theorem slice?_encode {text : List Char} {start stop : Nat} (front middle behind : List Char)
    (split : text = front ++ (middle ++ behind)) (starts : start = (encode front).length)
    (stops : stop = start + (encode middle).length) :
    slice? (encode text) start stop = some (encode middle) := by
  subst split starts stops
  have start := isBoundary_encode front (middle ++ behind)
  have stop := isBoundary_encode (front ++ middle) behind
  rw [List.append_assoc, encode_append front middle, List.length_append] at stop
  rw [slice?, start, stop, if_pos (by simp), encode_append, List.take_length_add_append,
    List.drop_left, encode_append, List.take_left]

end Boundaries

section Marks

variable {first c : Char} {mark text before : List Char}

theorem encode_prefix {rest : Bytes} (begins : encode mark ++ rest = encode text) :
    mark <+: text := by
  have decoded := decode?_encode text
  rw [← begins, decode?, decodeFrom_encode] at decoded
  obtain ⟨behind, -, whole⟩ := Option.map_eq_some_iff.mp decoded
  exact ⟨behind, whole⟩

/-- A byte of ASCII cuts a text between characters. -/
theorem encode_split (ascii : c.toNat < 0x80) {front behind : Bytes}
    (split : encode text = front ++ UInt8.ofNat c.toNat :: behind) :
    ∃ before after, text = before ++ c :: after ∧ encode before = front ∧
      encode after = behind := by
  have value : (UInt8.ofNat c.toNat).toNat = c.toNat :=
    UInt8.toNat_ofNat_of_lt' (Nat.lt_trans ascii (by decide))
  induction text generalizing front with
  | nil => simp [encode] at split
  | cons d text ih =>
    rw [encode_cons] at split
    -- The byte stands behind the first character, or it is that character.
    rcases List.append_eq_append_iff.mp split with ⟨more, rfl, later⟩ | ⟨more, here, later⟩
    · obtain ⟨before, after, rfl, rfl, rfl⟩ := ih later
      exact ⟨d :: before, after, rfl, rfl, rfl⟩
    · cases more with
      | nil =>
        have begins : encode text = [] ++ UInt8.ofNat c.toNat :: behind := later.symm
        obtain ⟨before, after, rfl, empty, rfl⟩ := ih begins
        refine ⟨d :: before, after, rfl, ?_, rfl⟩
        rw [encode_cons, empty, here]
        simp
      | cons byte more =>
        obtain ⟨rfl, rfl⟩ := List.cons_eq_cons.mp later
        have same : d = c := Char.toNat_inj.mp
          ((toNat_of_mem_encodeChar (value.symm ▸ ascii) (here ▸ by simp)).trans value)
        rw [same, encodeChar_of_ascii ascii, List.singleton_eq_append_iff] at here
        rcases here with ⟨rfl, alone⟩ | ⟨-, wrong⟩
        · obtain ⟨-, rfl⟩ := List.cons_eq_cons.mp alone
          exact ⟨[], text, by rw [same]; rfl, rfl, rfl⟩
        · cases wrong

theorem infix_of_encode (ascii : first.toNat < 0x80)
    (inside : encode (first :: mark) <:+: encode text) : first :: mark <:+: text := by
  obtain ⟨front, behind, whole⟩ := inside
  rw [encode_cons, encodeChar_of_ascii ascii, List.append_assoc] at whole
  obtain ⟨before, after, rfl, -, rest⟩ := encode_split ascii whole.symm
  obtain ⟨others, rfl⟩ := encode_prefix rest.symm
  exact ⟨before, others, by simp⟩

theorem find?_encode (ascii : first.toNat < 0x80) (lone : first ∉ mark)
    (plain : ¬ first :: mark <:+: before) (after : List Char) :
    find? (encode (first :: mark)) (encode (before ++ (first :: mark ++ after))) =
      some (encode before).length := by
  have single := encodeChar_of_ascii ascii
  have alone : UInt8.ofNat first.toNat ∉ encode mark :=
    fun member => lone (mem_of_mem_encode ascii member)
  have absent : ¬ UInt8.ofNat first.toNat :: encode mark <:+: encode before := by
    intro inside
    apply plain
    apply infix_of_encode ascii
    rwa [encode_cons, single]
  rw [find?, encode_append, encode_append, encode_cons, single, List.singleton_append,
    Text.splitAtMark?_append alone absent]
  rfl

theorem find?_encode_eq_none (ascii : first.toNat < 0x80) (plain : ¬ first :: mark <:+: text) :
    find? (encode (first :: mark)) (encode text) = none := by
  rw [find?, Text.splitAtMark?_eq_none (fun inside => plain (infix_of_encode ascii inside))]
  rfl

end Marks

end WorkspaceServers.Utf8
