import WorkspaceServers.Json.Parser
import WorkspaceServers.Json.Printer
import WorkspaceServers.Proofs.Number.Digits

/-!
Integers and strings read back: the numeral of an integer in front of anything that does
not go on with it, and a string behind its opening quote in front of anything at all.
-/

namespace WorkspaceServers.Json

section Numbers

def Ends : List Char → Prop
  | [] => True
  | c :: _ => c = ',' ∨ c = ']' ∨ c = '}'

theorem unextended_of_ends {rest : List Char} (ends : Ends rest) : Decimal.Unextended rest := by
  intro c head
  cases rest with
  | nil => cases head
  | cons first _ =>
    cases head
    rcases ends with rfl | rfl | rfl <;> decide

theorem le_fold (total : Nat) (numeral : List Char) :
    total ≤ numeral.foldl (fun total c => 10 * total + Decimal.digitValue c) total := by
  induction numeral generalizing total with
  | nil => exact Nat.le_refl _
  | cons c rest ih =>
    rw [List.foldl_cons]
    have later := ih (10 * total + Decimal.digitValue c)
    omega

theorem absorb_of_fits {total : Nat} {numeral : List Char}
    (fits : numeral.foldl (fun total c => 10 * total + Decimal.digitValue c) total <
      UInt64.size) :
    Numeral.absorb total numeral =
      (numeral.foldl (fun total c => 10 * total + Decimal.digitValue c) total, []) := by
  induction numeral generalizing total with
  | nil => rfl
  | cons c rest ih =>
    have next := Nat.lt_of_le_of_lt (le_fold _ rest) fits
    rw [Numeral.absorb, if_pos next, ih fits]
    rfl

theorem absorb_digits {n : Nat} (fits : n < UInt64.size) :
    Numeral.absorb 0 (Decimal.digits n) = (n, []) := by
  have value := Decimal.value_digits n
  rw [Decimal.value] at value
  rw [absorb_of_fits (by rwa [value]), value]

theorem readNumeral?_digits {text rest : List Char} {n : Nat}
    (body : (if text.head? = some '-' then text.tail else text) = Decimal.digits n ++ rest)
    (ends : Ends rest) :
    readNumeral? text =
      some (⟨decide (text.head? = some '-'), Decimal.digits n, none, none⟩, rest) := by
  have split := Decimal.splitDigits_digits n (unextended_of_ends ends)
  -- The reader refuses a zero in front of other digits, which the printer never writes.
  have lawful : ¬ ((Decimal.digits n).isEmpty = true ∨
      ((Decimal.digits n).head? = some '0' ∧ Decimal.digits n ≠ ['0'])) := by
    rintro (empty | ⟨zero, longer⟩)
    · exact Decimal.digits_ne_nil n (List.isEmpty_iff.mp empty)
    · exact longer (Decimal.digits_of_head? zero)
  simp only [readNumeral?, body, split, if_neg lawful]
  cases rest with
  | nil => rfl
  | cons c rest => rcases ends with rfl | rfl | rfl <;> rfl

theorem ofInt?_of_inRange {value : Int}
    (inRange : -0x8000000000000000 ≤ value ∧ value < 0x10000000000000000) :
    Number.ofInt? value = some (.int value inRange) :=
  dif_pos inRange

theorem value?_digits {value : Int}
    (inRange : -0x8000000000000000 ≤ value ∧ value < 0x10000000000000000) :
    Numeral.value? ⟨decide (value < 0), Decimal.digits value.natAbs, none, none⟩ =
      some (.int value inRange) := by
  have fits : value.natAbs < UInt64.size := by
    rw [UInt64.size]
    omega
  simp only [Numeral.value?, absorb_digits fits, List.isEmpty_nil, Option.isNone_none, and_self,
    if_true]
  -- The two signs have ranges of their own: down to -2 ^ 63 and up to 2 ^ 64 - 1.
  by_cases below : value < 0
  · have size : 0 < value.natAbs ∧ value.natAbs ≤ 0x8000000000000000 := by omega
    rw [if_neg (by simp [below]), if_pos size, show -(value.natAbs : Int) = value by omega,
      ofInt?_of_inRange inRange]
  · rw [if_pos (by simp [below]), show (value.natAbs : Int) = value by omega,
      ofInt?_of_inRange inRange]

theorem readNumber?_int {value : Int}
    (inRange : -0x8000000000000000 ≤ value ∧ value < 0x10000000000000000)
    {rest : List Char} (ends : Ends rest) :
    readNumber? (printNumber (.int value inRange) ++ rest) = some (.int value inRange, rest) := by
  have digits := value?_digits inRange
  by_cases below : value < 0
  · have read : readNumeral? ('-' :: Decimal.digits value.natAbs ++ rest) = _ :=
      readNumeral?_digits rfl ends
    simp only [below, decide_true] at digits
    rw [printNumber, Decimal.intDigits, if_pos below, readNumber?, read]
    simp [digits]
  · have unsigned : (Decimal.digits value.natAbs ++ rest).head? ≠ some '-' := fun minus =>
      absurd (Decimal.isDigit_of_head? minus) (by decide)
    have read := readNumeral?_digits (if_neg unsigned) ends
    rw [decide_eq_false unsigned] at read
    simp only [below, decide_false] at digits
    rw [printNumber, Decimal.intDigits, if_neg below, readNumber?, read]
    simp [digits]

end Numbers

section Strings

theorem hexDigit?_digitChar {n : Nat} (small : n < 16) :
    hexDigit? (Nat.digitChar n) = some n := by
  have every : ∀ n < 16, hexDigit? (Nat.digitChar n) = some n := by decide
  exact every n small

theorem readString?_control {n : Nat} (control : n < 0x20) (rest : List Char) :
    readString? .nothing
        ('\\' :: 'u' :: '0' :: '0' :: Nat.digitChar (n / 16) :: Nat.digitChar (n % 16) :: rest) =
      (readString? .nothing rest).map fun (text, rest) => (Char.ofNat n :: text, rest) := by
  have upper := hexDigit?_digitChar (show n / 16 < 16 by omega)
  have lower := hexDigit?_digitChar (show n % 16 < 16 by omega)
  have zero : hexDigit? '0' = some 0 := by decide
  have whole : 16 * (n / 16) + n % 16 = n := Nat.div_add_mod n 16
  -- A control is neither half of a surrogate pair.
  have scalar : ¬ (0xD800 ≤ n ∧ n < 0xDC00) ∧ ¬ (0xDC00 ≤ n ∧ n < 0xE000) := by omega
  simp [readString?, stringStep?, upper, lower, zero, whole, finishCode?, scalar]

theorem readString?_escapeChar (c : Char) (rest : List Char) :
    readString? .nothing (escapeChar c ++ rest) =
      (readString? .nothing rest).map fun (text, rest) => (c :: text, rest) := by
  unfold escapeChar
  -- Seven characters have short escapes, which are read in one step.
  iterate 7
    split
    · rename_i same
      subst same
      rfl
  split
  · rename_i control
    have read := readString?_control control rest
    rwa [Char.ofNat_toNat] at read
  · rename_i quote backslash _ _ _ _ _ bare
    simp [readString?, stringStep?, quote, backslash, bare]

theorem readString?_quote (text : String) (rest : List Char) :
    readString? .nothing (text.toList.flatMap escapeChar ++ '"' :: rest) =
      some (text.toList, rest) := by
  induction text.toList with
  | nil => rfl
  | cons c more ih =>
    rw [List.flatMap_cons, List.append_assoc, readString?_escapeChar, ih]
    rfl

end Strings

end WorkspaceServers.Json
