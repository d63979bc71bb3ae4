import WorkspaceServers.Text.Utf8.Basic

/-!
Decoding gives back what was encoded, in front of any further bytes, and the bytes of ASCII
stand for nothing else.
-/

namespace WorkspaceServers.Utf8

theorem encode_cons (c : Char) (rest : List Char) :
    encode (c :: rest) = encodeChar c ++ encode rest :=
  List.flatMap_cons

theorem encode_append (front behind : List Char) :
    encode (front ++ behind) = encode front ++ encode behind :=
  List.flatMap_append

theorem encodeChar_of_ascii {c : Char} (ascii : c.toNat < 0x80) :
    encodeChar c = [UInt8.ofNat c.toNat] := by
  rw [encodeChar, if_pos ascii]

theorem decodeFrom_ascii {n : Nat} (small : n < 0x80) (rest : Bytes) :
    decodeFrom closed (UInt8.ofNat n :: rest) =
      (decodeFrom closed rest).map (Char.ofNat n :: ·) := by
  have value : (UInt8.ofNat n).toNat = n :=
    UInt8.toNat_ofNat_of_lt' (Nat.lt_trans small (by decide))
  rw [decodeFrom]
  simp only [closed, value, if_pos, small]

theorem decodeFrom_last {low high acc n : Nat} (least : low ≤ n) (most : n ≤ high)
    (small : n < 256) (rest : Bytes) :
    decodeFrom ⟨1, low, high, acc⟩ (UInt8.ofNat n :: rest) =
      (decodeFrom closed rest).map (Char.ofNat (acc * 64 + n % 64) :: ·) := by
  have value : (UInt8.ofNat n).toNat = n := UInt8.toNat_ofNat_of_lt' small
  rw [decodeFrom]
  simp only [value, least, most, and_self, if_pos, Nat.succ_ne_zero, if_false]

theorem decodeFrom_next {need low high acc n : Nat} (least : low ≤ n) (most : n ≤ high)
    (small : n < 256) (rest : Bytes) :
    decodeFrom ⟨need + 2, low, high, acc⟩ (UInt8.ofNat n :: rest) =
      decodeFrom ⟨need + 1, 0x80, 0xBF, acc * 64 + n % 64⟩ rest := by
  have value : (UInt8.ofNat n).toNat = n := UInt8.toNat_ofNat_of_lt' small
  rw [decodeFrom]
  simp only [value, least, most, and_self, if_pos, Nat.succ_ne_zero, if_false]
  rw [if_neg (by omega)]
  rfl

theorem decodeFrom_lead {n : Nat} {opened : Open} (large : 0x80 ≤ n) (small : n < 256)
    (lead : lead? n = some opened) (rest : Bytes) :
    decodeFrom closed (UInt8.ofNat n :: rest) = decodeFrom opened rest := by
  have value : (UInt8.ofNat n).toNat = n := UInt8.toNat_ofNat_of_lt' small
  rw [decodeFrom]
  simp only [closed, value, if_pos, lead]
  rw [if_neg (by omega)]

theorem decodeFrom_two {n : Nat} (large : 0x80 ≤ n) (small : n < 0x800) (rest : Bytes) :
    decodeFrom closed
        (UInt8.ofNat (0xC0 + n / 64) :: UInt8.ofNat (0x80 + n % 64) :: rest) =
      (decodeFrom closed rest).map (Char.ofNat n :: ·) := by
  have lead : lead? (0xC0 + n / 64) = some ⟨1, 0x80, 0xBF, n / 64⟩ := by
    rw [lead?, if_neg (by omega), if_pos (by omega), Nat.add_sub_cancel_left]
  have whole : n / 64 * 64 + (0x80 + n % 64) % 64 = n := by omega
  rw [decodeFrom_lead (by omega) (by omega) lead,
    decodeFrom_last (by omega) (by omega) (by omega), whole]

theorem decodeFrom_three {n low high : Nat} (small : n < 0x10000)
    (lead : lead? (0xE0 + n / 4096) = some ⟨2, low, high, n / 4096⟩)
    (least : low ≤ 0x80 + n / 64 % 64) (most : 0x80 + n / 64 % 64 ≤ high) (rest : Bytes) :
    decodeFrom closed (UInt8.ofNat (0xE0 + n / 4096) :: UInt8.ofNat (0x80 + n / 64 % 64) ::
        UInt8.ofNat (0x80 + n % 64) :: rest) =
      (decodeFrom closed rest).map (Char.ofNat n :: ·) := by
  have whole : (n / 4096 * 64 + (0x80 + n / 64 % 64) % 64) * 64 + (0x80 + n % 64) % 64 = n := by
    omega
  rw [decodeFrom_lead (by omega) (by omega) lead, decodeFrom_next least most (by omega),
    decodeFrom_last (by omega) (by omega) (by omega), whole]

theorem decodeFrom_four {n low high : Nat} (small : n < 0x110000)
    (lead : lead? (0xF0 + n / 262144) = some ⟨3, low, high, n / 262144⟩)
    (least : low ≤ 0x80 + n / 4096 % 64) (most : 0x80 + n / 4096 % 64 ≤ high) (rest : Bytes) :
    decodeFrom closed (UInt8.ofNat (0xF0 + n / 262144) :: UInt8.ofNat (0x80 + n / 4096 % 64) ::
        UInt8.ofNat (0x80 + n / 64 % 64) :: UInt8.ofNat (0x80 + n % 64) :: rest) =
      (decodeFrom closed rest).map (Char.ofNat n :: ·) := by
  have whole : ((n / 262144 * 64 + (0x80 + n / 4096 % 64) % 64) * 64 +
      (0x80 + n / 64 % 64) % 64) * 64 + (0x80 + n % 64) % 64 = n := by
    omega
  rw [decodeFrom_lead (by omega) (by omega) lead, decodeFrom_next least most (by omega),
    decodeFrom_next (by omega) (by omega) (by omega),
    decodeFrom_last (by omega) (by omega) (by omega), whole]

theorem lead?_three {a : Nat} (middle : a < 16) :
    lead? (0xE0 + a) =
      some ⟨2, if a = 0 then 0xA0 else 0x80, if a = 13 then 0x9F else 0xBF, a⟩ := by
  have every : ∀ a < 16, lead? (0xE0 + a) =
      some ⟨2, if a = 0 then 0xA0 else 0x80, if a = 13 then 0x9F else 0xBF, a⟩ := by decide
  exact every a middle

theorem lead?_four {a : Nat} (middle : a < 5) :
    lead? (0xF0 + a) =
      some ⟨3, if a = 0 then 0x90 else 0x80, if a = 4 then 0x8F else 0xBF, a⟩ := by
  have every : ∀ a < 5, lead? (0xF0 + a) =
      some ⟨3, if a = 0 then 0x90 else 0x80, if a = 4 then 0x8F else 0xBF, a⟩ := by decide
  exact every a middle

theorem decodeFrom_encodeChar (c : Char) (rest : Bytes) :
    decodeFrom closed (encodeChar c ++ rest) = (decodeFrom closed rest).map (c :: ·) := by
  have valid : c.toNat < 0xD800 ∨ (0xDFFF < c.toNat ∧ c.toNat < 0x110000) := c.valid
  have self : Char.ofNat c.toNat = c := Char.ofNat_toNat c
  rw [encodeChar]
  split
  · rename_i ascii
    have step := decodeFrom_ascii ascii rest
    rwa [self] at step
  · split
    · rename_i large small
      have step := decodeFrom_two (by omega) small rest
      rwa [self] at step
    · split
      · rename_i large small
        have step := decodeFrom_three small (lead?_three (by omega))
          (by split <;> omega) (by split <;> omega) rest
        rwa [self] at step
      · have small : c.toNat < 0x110000 := by omega
        have step := decodeFrom_four small (lead?_four (by omega))
          (by split <;> omega) (by split <;> omega) rest
        rwa [self] at step

theorem decodeFrom_encode (text : List Char) (rest : Bytes) :
    decodeFrom closed (encode text ++ rest) = (decodeFrom closed rest).map (text ++ ·) := by
  induction text with
  | nil => exact Option.map_id'.symm
  | cons c text ih =>
    rw [encode_cons, List.append_assoc, decodeFrom_encodeChar, ih, Option.map_map]
    rfl

theorem decode?_encode (text : List Char) : decode? (encode text) = some text := by
  have whole := decodeFrom_encode text []
  rw [List.append_nil] at whole
  rw [decode?, whole]
  exact congrArg some (List.append_nil text)

theorem encode_inj {first second : List Char} : encode first = encode second ↔ first = second := by
  constructor
  · intro same
    have decoded := congrArg decode? same
    rw [decode?_encode, decode?_encode] at decoded
    exact Option.some.inj decoded
  · intro same
    rw [same]

theorem toNat_of_mem_encodeChar {c : Char} {byte : UInt8} (ascii : byte.toNat < 0x80)
    (member : byte ∈ encodeChar c) : c.toNat = byte.toNat := by
  have value : ∀ n, n < 256 → byte = UInt8.ofNat n → byte.toNat = n := by
    intro n small same
    rw [same, UInt8.toNat_ofNat_of_lt' small]
  have valid : c.toNat < 0xD800 ∨ (0xDFFF < c.toNat ∧ c.toNat < 0x110000) := c.valid
  rw [encodeChar] at member
  -- In the longer forms every byte is beyond the first half.
  split at member
  · rw [List.mem_singleton] at member
    exact (value _ (by omega) member).symm
  · split at member
    · simp only [List.mem_cons, List.not_mem_nil, or_false] at member
      rcases member with same | same <;> have number := value _ (by omega) same <;> omega
    · split at member <;> simp only [List.mem_cons, List.not_mem_nil, or_false] at member
      · rcases member with same | same | same <;> have number := value _ (by omega) same <;> omega
      · rcases member with same | same | same | same <;>
          have number := value _ (by omega) same <;> omega

theorem mem_of_mem_encode {c : Char} {text : List Char} (ascii : c.toNat < 0x80)
    (member : UInt8.ofNat c.toNat ∈ encode text) : c ∈ text := by
  have value : (UInt8.ofNat c.toNat).toNat = c.toNat :=
    UInt8.toNat_ofNat_of_lt' (Nat.lt_trans ascii (by decide))
  obtain ⟨other, inside, encoded⟩ := List.mem_flatMap.mp member
  have same := toNat_of_mem_encodeChar (value.symm ▸ ascii) encoded
  rw [value] at same
  exact Char.toNat_inj.mp same ▸ inside

end WorkspaceServers.Utf8
