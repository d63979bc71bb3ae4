import Mathlib.Data.List.TakeDrop
import WorkspaceServers.Number.Decimal

/-!
The digits of a number stand for the number, with no needless zero in front, and they can
be told from what follows them.
-/

namespace WorkspaceServers.Decimal

theorem isDigit_eq (c : Char) : isDigit c = c.isDigit := by
  simp only [isDigit, Char.isDigit]
  rfl

theorem isDigit_of_mem_digits {n : Nat} {c : Char} (member : c ∈ digits n) : isDigit c = true := by
  rw [isDigit_eq]
  exact Nat.isDigit_of_mem_toDigits (by decide) (by decide) member

theorem digits_ne_nil (n : Nat) : digits n ≠ [] := Nat.toDigits_ne_nil

theorem isDigit_of_head? {n : Nat} {rest : List Char} {c : Char}
    (head : (digits n ++ rest).head? = some c) : isDigit c = true := by
  cases shown : digits n with
  | nil => exact absurd shown (digits_ne_nil n)
  | cons first more =>
    rw [shown] at head
    cases head
    exact isDigit_of_mem_digits (shown ▸ List.mem_cons_self)

theorem value_digits (n : Nat) : value (digits n) = n :=
  Nat.ofDigitChars_ten_toDigits

theorem head?_digits (n : Nat) : (digits n).head? = some '0' → n = 0 := by
  -- The front digit is that of the number without its last digit.
  induction n using Nat.strongRecOn with
  | ind n ih =>
    intro zero
    rw [digits, Nat.toDigits_eq_if (by decide)] at zero
    split at zero
    · rename_i small
      have every : ∀ n < 10, n.digitChar = '0' → n = 0 := by decide
      exact every n small (Option.some.inj zero)
    · rename_i large
      have front : (digits (n / 10)).head? = some '0' := by
        cases shown : digits (n / 10) with
        | nil => exact absurd shown (digits_ne_nil _)
        | cons c rest => rwa [← digits, shown] at zero
      have nothing := ih (n / 10) (by omega) front
      omega

theorem digits_of_head? {n : Nat} (zero : (digits n).head? = some '0') : digits n = ['0'] := by
  rw [head?_digits n zero]
  exact Nat.toDigits_zero 10

def Unextended (rest : List Char) : Prop := ∀ c, rest.head? = some c → isDigit c = false

theorem splitDigits_append {numeral rest : List Char}
    (digits : ∀ c ∈ numeral, isDigit c = true) (ends : Unextended rest) :
    splitDigits (numeral ++ rest) = (numeral, rest) := by
  have stops : rest.takeWhile isDigit = [] ∧ rest.dropWhile isDigit = rest := by
    cases rest with
    | nil => exact ⟨rfl, rfl⟩
    | cons c rest => simp [ends c rfl]
  rw [splitDigits, List.span_eq_takeWhile_dropWhile, List.takeWhile_append_of_pos digits,
    List.dropWhile_append_of_pos digits, stops.1, stops.2, List.append_nil]

theorem splitDigits_digits (n : Nat) {rest : List Char} (ends : Unextended rest) :
    splitDigits (digits n ++ rest) = (digits n, rest) :=
  splitDigits_append (fun _ => isDigit_of_mem_digits) ends

theorem natural?_digits (n : Nat) : natural? (digits n) = some n := by
  have unsigned : (digits n).head? ≠ some '+' := by
    intro plus
    rw [← List.append_nil (digits n)] at plus
    exact absurd (isDigit_of_head? plus) (by decide)
  have all : (digits n).all isDigit = true :=
    List.all_eq_true.mpr fun _ => isDigit_of_mem_digits
  simp [natural?, unsigned, all, digits_ne_nil, value_digits]

theorem below?_digits {bound n : Nat} (below : n < bound) : below? bound (digits n) = some n := by
  simp [below?, natural?_digits, below]

end WorkspaceServers.Decimal
