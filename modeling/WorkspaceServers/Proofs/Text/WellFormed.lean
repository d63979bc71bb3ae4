import WorkspaceServers.Text.Utf8.Lemmas

/-!
Well-formed UTF-8 is what encoding a text gives, and nothing else. A character that was read
stands in the bytes in its only form, so the bytes of a text can be told from the text.
-/

namespace WorkspaceServers.Utf8

section Reading

variable {bytes : Bytes} {text : List Char} {low high acc need : Nat}

theorem decodeFrom_one_of_some (decoded : decodeFrom ⟨1, low, high, acc⟩ bytes = some text) :
    ∃ n rest later, bytes = UInt8.ofNat n :: rest ∧ low ≤ n ∧ n ≤ high ∧ n < 256 ∧
      decodeFrom closed rest = some later ∧ text = Char.ofNat (acc * 64 + n % 64) :: later := by
  cases bytes with
  | nil => cases decoded
  | cons byte rest =>
    simp only [decodeFrom, Nat.succ_ne_zero, if_false] at decoded
    split at decoded
    · rename_i fits
      obtain ⟨later, behind, same⟩ := Option.map_eq_some_iff.mp decoded
      exact ⟨byte.toNat, rest, later, by rw [UInt8.ofNat_toNat], fits.1, fits.2, byte.toNat_lt,
        behind, same.symm⟩
    · cases decoded

theorem decodeFrom_more_of_some
    (decoded : decodeFrom ⟨need + 2, low, high, acc⟩ bytes = some text) :
    ∃ n rest, bytes = UInt8.ofNat n :: rest ∧ low ≤ n ∧ n ≤ high ∧ n < 256 ∧
      decodeFrom ⟨need + 1, 0x80, 0xBF, acc * 64 + n % 64⟩ rest = some text := by
  cases bytes with
  | nil => cases decoded
  | cons byte rest =>
    simp only [decodeFrom, Nat.succ_ne_zero, if_false] at decoded
    split at decoded
    · rename_i fits
      rw [if_neg (by omega)] at decoded
      exact ⟨byte.toNat, rest, by rw [UInt8.ofNat_toNat], fits.1, fits.2, byte.toNat_lt, decoded⟩
    · cases decoded

theorem lead?_cases {n : Nat} {opened : Open} (lead : lead? n = some opened) :
    (∃ a, 2 ≤ a ∧ a < 32 ∧ n = 0xC0 + a ∧ opened = ⟨1, 0x80, 0xBF, a⟩) ∨
    (∃ a, a < 16 ∧ n = 0xE0 + a ∧
      opened = ⟨2, if a = 0 then 0xA0 else 0x80, if a = 13 then 0x9F else 0xBF, a⟩) ∨
    ∃ a, a < 5 ∧ n = 0xF0 + a ∧
      opened = ⟨3, if a = 0 then 0x90 else 0x80, if a = 4 then 0x8F else 0xBF, a⟩ := by
  -- Bytes below 0xC2 and above 0xF4 lead no character.
  have bounds : 0xC2 ≤ n ∧ n ≤ 0xF4 := by
    refine ⟨Nat.le_of_not_lt fun below => ?_, Nat.le_of_not_lt fun above => ?_⟩
    · rw [lead?, if_pos below] at lead
      cases lead
    · rw [lead?] at lead
      repeat rw [if_neg (by omega)] at lead
      cases lead
  by_cases two : n < 0xE0
  · refine .inl ⟨n - 0xC0, by omega, by omega, by omega, ?_⟩
    rw [lead?, if_neg (by omega), if_pos two] at lead
    exact (Option.some.inj lead).symm
  · by_cases three : n < 0xF0
    · have known := lead?_three (show n - 0xE0 < 16 by omega)
      rw [Nat.add_sub_cancel' (by omega), lead] at known
      exact .inr (.inl ⟨n - 0xE0, by omega, by omega, Option.some.inj known⟩)
    · have known := lead?_four (show n - 0xF0 < 5 by omega)
      rw [Nat.add_sub_cancel' (by omega), lead] at known
      exact .inr (.inr ⟨n - 0xF0, by omega, by omega, Option.some.inj known⟩)

end Reading

theorem toNat_ofNat_of_scalar {n : Nat} (valid : n < 0xD800 ∨ (0xDFFF < n ∧ n < 0x110000)) :
    (Char.ofNat n).toNat = n := by
  rw [Char.ofNat, dif_pos valid]
  rfl

section Forms

theorem encodeChar_two {a b : Nat} (least : 2 ≤ a) (most : a < 32) (low : 0x80 ≤ b)
    (high : b ≤ 0xBF) :
    encodeChar (Char.ofNat (a * 64 + b % 64)) = [UInt8.ofNat (0xC0 + a), UInt8.ofNat b] := by
  -- What the continuation bytes leave out is just what has a shorter form or is no character.
  rw [encodeChar, toNat_ofNat_of_scalar (by omega), if_neg (by omega), if_pos (by omega),
    show (a * 64 + b % 64) / 64 = a by omega, show 0x80 + (a * 64 + b % 64) % 64 = b by omega]

theorem encodeChar_three {a b c : Nat} (most : a < 16)
    (low : (if a = 0 then 0xA0 else 0x80) ≤ b) (high : b ≤ if a = 13 then 0x9F else 0xBF)
    (low' : 0x80 ≤ c) (high' : c ≤ 0xBF) :
    encodeChar (Char.ofNat ((a * 64 + b % 64) * 64 + c % 64)) =
      [UInt8.ofNat (0xE0 + a), UInt8.ofNat b, UInt8.ofNat c] := by
  split at low <;> split at high <;>
    (rw [encodeChar, toNat_ofNat_of_scalar (by omega), if_neg (by omega), if_neg (by omega),
      if_pos (by omega), show ((a * 64 + b % 64) * 64 + c % 64) / 4096 = a by omega,
      show 0x80 + ((a * 64 + b % 64) * 64 + c % 64) / 64 % 64 = b by omega,
      show 0x80 + ((a * 64 + b % 64) * 64 + c % 64) % 64 = c by omega])

theorem encodeChar_four {a b c d : Nat} (most : a < 5)
    (low : (if a = 0 then 0x90 else 0x80) ≤ b) (high : b ≤ if a = 4 then 0x8F else 0xBF)
    (low' : 0x80 ≤ c) (high' : c ≤ 0xBF) (low'' : 0x80 ≤ d) (high'' : d ≤ 0xBF) :
    encodeChar (Char.ofNat (((a * 64 + b % 64) * 64 + c % 64) * 64 + d % 64)) =
      [UInt8.ofNat (0xF0 + a), UInt8.ofNat b, UInt8.ofNat c, UInt8.ofNat d] := by
  split at low <;> split at high <;>
    (rw [encodeChar, toNat_ofNat_of_scalar (by omega), if_neg (by omega), if_neg (by omega),
      if_neg (by omega),
      show (((a * 64 + b % 64) * 64 + c % 64) * 64 + d % 64) / 262144 = a by omega,
      show 0x80 + (((a * 64 + b % 64) * 64 + c % 64) * 64 + d % 64) / 4096 % 64 = b by omega,
      show 0x80 + (((a * 64 + b % 64) * 64 + c % 64) * 64 + d % 64) / 64 % 64 = c by omega,
      show 0x80 + (((a * 64 + b % 64) * 64 + c % 64) * 64 + d % 64) % 64 = d by omega])

end Forms

theorem decodeFrom_split {byte : UInt8} {rest : Bytes} {text : List Char}
    (decoded : decodeFrom closed (byte :: rest) = some text) :
    ∃ c behind later, byte :: rest = encodeChar c ++ behind ∧ text = c :: later ∧
      decodeFrom closed behind = some later := by
  simp only [decodeFrom, closed, if_true] at decoded
  split at decoded
  · rename_i ascii
    obtain ⟨later, behind, same⟩ := Option.map_eq_some_iff.mp decoded
    refine ⟨Char.ofNat byte.toNat, rest, later, ?_, same.symm, behind⟩
    rw [encodeChar, toNat_ofNat_of_scalar (by omega), if_pos ascii, UInt8.ofNat_toNat]
    rfl
  · cases lead : lead? byte.toNat with
    | none =>
      rw [lead] at decoded
      cases decoded
    | some opened =>
      rw [lead] at decoded
      have self : byte = UInt8.ofNat byte.toNat := UInt8.ofNat_toNat.symm
      -- One case for each number of bytes, from two to four.
      rcases lead?_cases lead with ⟨a, least, most, number, rfl⟩ | ⟨a, most, number, rfl⟩ |
        ⟨a, most, number, rfl⟩
      · obtain ⟨b, behind, later, rfl, low, high, -, others, rfl⟩ :=
          decodeFrom_one_of_some decoded
        refine ⟨_, behind, later, ?_, rfl, others⟩
        rw [encodeChar_two least most low high, self, number]
        rfl
      · obtain ⟨b, second, rfl, low, high, -, opens⟩ := decodeFrom_more_of_some decoded
        obtain ⟨c, behind, later, rfl, low', high', -, others, rfl⟩ :=
          decodeFrom_one_of_some opens
        refine ⟨_, behind, later, ?_, rfl, others⟩
        rw [encodeChar_three most low high low' high', self, number]
        rfl
      · obtain ⟨b, second, rfl, low, high, -, opens⟩ := decodeFrom_more_of_some decoded
        obtain ⟨c, third, rfl, low', high', -, still⟩ := decodeFrom_more_of_some opens
        obtain ⟨d, behind, later, rfl, low'', high'', -, others, rfl⟩ :=
          decodeFrom_one_of_some still
        refine ⟨_, behind, later, ?_, rfl, others⟩
        rw [encodeChar_four most low high low' high' low'' high'', self, number]
        rfl

theorem encode_of_decode? {bytes : Bytes} {text : List Char}
    (decoded : decode? bytes = some text) : bytes = encode text := by
  -- The text gets shorter by one character at a time, the bytes by up to four.
  induction text generalizing bytes with
  | nil =>
    cases bytes with
    | nil => rfl
    | cons byte rest =>
      obtain ⟨_, _, _, -, wrong, -⟩ := decodeFrom_split decoded
      cases wrong
  | cons first text ih =>
    cases bytes with
    | nil => cases decoded
    | cons byte rest =>
      obtain ⟨c, behind, later, split, same, decoded⟩ := decodeFrom_split decoded
      cases same
      rw [split, ih decoded, encode_cons]

theorem decode?_eq_some_iff {bytes : Bytes} {text : List Char} :
    decode? bytes = some text ↔ bytes = encode text :=
  ⟨encode_of_decode?, fun same => same ▸ decode?_encode text⟩

end WorkspaceServers.Utf8
