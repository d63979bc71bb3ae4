import WorkspaceServers.Json.Parser
import WorkspaceServers.Path.FileUri

/-!
The percent code of path components. Whatever the bytes are, what is written of them is
printable and holds no slash, and reading it gives the same bytes.
-/

namespace WorkspaceServers.Path

/-- The bytes that a text stands for. A percent sign with two digits behind it is one byte,
everything else stands for itself. -/
def percentDecode : List Char → Bytes
  | '%' :: a :: b :: rest =>
    match Json.hexDigit? a, Json.hexDigit? b with
    | some high, some low => UInt8.ofNat (16 * high + low) :: percentDecode rest
    | _, _ => Utf8.encodeChar '%' ++ percentDecode (a :: b :: rest)
  | c :: rest => Utf8.encodeChar c ++ percentDecode rest
  | [] => []

def IsPrintable (c : Char) : Prop := 0x20 < c.toNat ∧ c.toNat < 0x7F

instance (c : Char) : Decidable (IsPrintable c) := inferInstanceAs (Decidable (_ ∧ _))

variable {byte : UInt8} {c : Char}

section Single

theorem hexDigit?_upperHexDigit {n : Nat} (small : n < 16) :
    Json.hexDigit? (upperHexDigit n) = some n := by
  have every : ∀ n < 16, Json.hexDigit? (upperHexDigit n) = some n := by decide
  exact every n small

theorem upperHexDigit_printable {n : Nat} (small : n < 16) :
    IsPrintable (upperHexDigit n) ∧ upperHexDigit n ≠ '/' := by
  have every : ∀ n < 16, IsPrintable (upperHexDigit n) ∧ upperHexDigit n ≠ '/' := by decide
  exact every n small

theorem percentEncode_append (first second : Bytes) :
    percentEncode (first ++ second) = percentEncode first ++ percentEncode second :=
  List.flatMap_append

structure Plain (byte : UInt8) (c : Char) : Prop where
  encoded : percentEncode [byte] = [c]
  stands : Utf8.encodeChar c = [byte]
  printable : IsPrintable c
  not_slash : c ≠ '/'
  not_percent : c ≠ '%'

theorem plain_of_not_isReserved (free : isReserved byte = false) :
    Plain byte (Char.ofNat byte.toNat) := by
  have every : ∀ n < 256, isReserved (UInt8.ofNat n) = false →
      Utf8.encodeChar (Char.ofNat n) = [UInt8.ofNat n] ∧ IsPrintable (Char.ofNat n) ∧
        Char.ofNat n ≠ '/' ∧ Char.ofNat n ≠ '%' := by decide +kernel
  have here := every byte.toNat byte.toNat_lt_size
  rw [UInt8.ofNat_toNat] at here
  obtain ⟨stands, printable, not_slash, not_percent⟩ := here free
  constructor
  · simp [percentEncode, free]
  · exact stands
  · exact printable
  · exact not_slash
  · exact not_percent

theorem percentEncode_of_isReserved (reserved : isReserved byte = true) :
    percentEncode [byte] =
      ['%', upperHexDigit (byte.toNat / 16), upperHexDigit (byte.toNat % 16)] := by
  simp [percentEncode, reserved]

theorem percentDecode_cons (other : c ≠ '%') (rest : List Char) :
    percentDecode (c :: rest) = Utf8.encodeChar c ++ percentDecode rest := by
  apply percentDecode.eq_2
  intro a b more percent
  exact absurd percent other

theorem percentDecode_byte (byte : UInt8) (rest : List Char) :
    percentDecode (percentEncode [byte] ++ rest) = byte :: percentDecode rest := by
  cases reserved : isReserved byte with
  | true =>
    have size : byte.toNat < 256 := byte.toNat_lt_size
    have upper := hexDigit?_upperHexDigit (show byte.toNat / 16 < 16 by omega)
    have lower := hexDigit?_upperHexDigit (show byte.toNat % 16 < 16 by omega)
    have whole : 16 * (byte.toNat / 16) + byte.toNat % 16 = byte.toNat := Nat.div_add_mod _ 16
    rw [percentEncode_of_isReserved reserved]
    simp only [List.cons_append, List.nil_append, percentDecode, upper, lower, whole,
      UInt8.ofNat_toNat]
  | false =>
    have plain := plain_of_not_isReserved reserved
    rw [plain.encoded, List.singleton_append, percentDecode_cons plain.not_percent, plain.stands]
    rfl

theorem printable_of_mem_byte (member : c ∈ percentEncode [byte]) : IsPrintable c ∧ c ≠ '/' := by
  cases reserved : isReserved byte with
  | true =>
    have size : byte.toNat < 256 := byte.toNat_lt_size
    rw [percentEncode_of_isReserved reserved] at member
    simp only [List.mem_cons, List.not_mem_nil, or_false] at member
    rcases member with rfl | rfl | rfl
    · decide
    · apply upperHexDigit_printable
      omega
    · apply upperHexDigit_printable
      omega
  | false =>
    have plain := plain_of_not_isReserved reserved
    rw [plain.encoded, List.mem_singleton] at member
    exact member ▸ ⟨plain.printable, plain.not_slash⟩

end Single

section Parts

variable {part : Bytes}

theorem percentDecode_percentEncode (part : Bytes) :
    percentDecode (percentEncode part) = part := by
  induction part with
  | nil => rfl
  | cons byte rest ih =>
    rw [← List.singleton_append, percentEncode_append, percentDecode_byte, ih]
    rfl

theorem printable_of_mem_percentEncode (member : c ∈ percentEncode part) :
    IsPrintable c ∧ c ≠ '/' := by
  induction part with
  | nil => cases member
  | cons byte rest ih =>
    rw [← List.singleton_append, percentEncode_append] at member
    rcases List.mem_append.mp member with here | later
    · exact printable_of_mem_byte here
    · exact ih later

theorem percentEncode_ne_nil (present : part ≠ []) : percentEncode part ≠ [] := by
  intro empty
  apply present
  rw [← percentDecode_percentEncode part, empty]
  rfl

/-- What looks like an escape is no escape. -/
example : percentEncode (Utf8.ofString "a%2F ü") = "a%252F%20%C3%BC".toList := by decide

end Parts

end WorkspaceServers.Path
