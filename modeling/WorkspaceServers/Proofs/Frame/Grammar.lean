import WorkspaceServers.Frame.Header
import WorkspaceServers.Proofs.Text.Cutting

/-!
The grammar of header lines, told without the order in which a line is taken apart: a line is
blank, or it gives a length by a numeral behind its first colon, or it gives one that is no
numeral, or it does not matter.
-/

namespace WorkspaceServers

namespace Decimal

/-- A number of 64 bits in decimal digits, with a plus sign in front or none. -/
def IsNumeral (text : List Char) (n : Nat) : Prop :=
  ∃ sign digits, text = sign ++ digits ∧ (sign = [] ∨ sign = ['+']) ∧ digits ≠ [] ∧
    (∀ c ∈ digits, isDigit c = true) ∧ value digits = n ∧ n < UInt64.size

theorem natural?_eq_some_iff {text : List Char} {n : Nat} :
    natural? text = some n ↔
      ∃ sign digits, text = sign ++ digits ∧ (sign = [] ∨ sign = ['+']) ∧ digits ≠ [] ∧
        (∀ c ∈ digits, isDigit c = true) ∧ value digits = n := by
  -- Without its sign it is a row of digits, and there has to be one.
  have bare : ∀ numeral : List Char,
      (if numeral.isEmpty || !numeral.all isDigit then none else some (value numeral)) = some n ↔
        numeral ≠ [] ∧ (∀ c ∈ numeral, isDigit c = true) ∧ value numeral = n := by
    intro numeral
    split
    · rename_i unfit
      rw [Bool.or_eq_true, List.isEmpty_iff, Bool.not_eq_true', List.all_eq_false] at unfit
      refine ⟨nofun, fun ⟨present, digits, _⟩ => ?_⟩
      rcases unfit with empty | ⟨c, member, odd⟩
      · exact absurd empty present
      · exact absurd (digits c member) odd
    · rename_i fit
      rw [Bool.or_eq_true, List.isEmpty_iff, Bool.not_eq_true', not_or, Bool.not_eq_false,
        List.all_eq_true] at fit
      rw [Option.some_inj]
      exact ⟨fun number => ⟨fit.1, fit.2, number⟩, fun ⟨_, _, number⟩ => number⟩
  simp only [natural?, bare]
  constructor
  · rintro ⟨present, digits, number⟩
    split at present
    · rename_i plus
      rw [if_pos plus] at digits number
      obtain ⟨rest, rfl⟩ := List.head?_eq_some_iff.mp plus
      exact ⟨['+'], rest, rfl, .inr rfl, present, digits, number⟩
    · rename_i plus
      rw [if_neg plus] at digits number
      exact ⟨[], text, rfl, .inl rfl, present, digits, number⟩
  · rintro ⟨sign, numeral, rfl, rfl | rfl, present, digits, number⟩
    · -- The first digit is not taken for a sign.
      have unsigned : ([] ++ numeral).head? ≠ some '+' := by
        intro plus
        exact absurd (digits '+' (List.mem_of_mem_head? plus)) (by decide)
      rw [if_neg unsigned]
      exact ⟨present, digits, number⟩
    · exact ⟨present, digits, number⟩

theorem below?_eq_some_iff {text : List Char} {n : Nat} :
    below? UInt64.size text = some n ↔ IsNumeral text n := by
  simp only [below?, Option.filter_eq_some_iff, natural?_eq_some_iff, decide_eq_true_eq, IsNumeral]
  constructor
  · rintro ⟨⟨sign, numeral, split, signed, present, digits, number⟩, small⟩
    exact ⟨sign, numeral, split, signed, present, digits, number, small⟩
  · rintro ⟨sign, numeral, split, signed, present, digits, number, small⟩
    exact ⟨⟨sign, numeral, split, signed, present, digits, number⟩, small⟩

end Decimal

namespace Frame

def IsBlank (line : List Char) : Prop := ∀ c ∈ line, Text.isBlank c = true

/-- The value of a line that is named for the length. The name ends at the first colon; blanks
around name and value do not count, nor does the case of the name. -/
def GivesLength (line value : List Char) : Prop :=
  ∃ name behind, line = name ++ ':' :: behind ∧ ':' ∉ name ∧
    (Text.trim name).map Char.toLower = "content-length".toList ∧ value = Text.trim behind

namespace Header

variable {line : List Char} {value : List Char}

theorem isBlank_colon : Text.isBlank ':' = false := by decide

theorem isLengthName_iff {name : List Char} :
    isLengthName name = true ↔ (Text.trim name).map Char.toLower = "content-length".toList :=
  decide_eq_true_iff

theorem isLengthName_trimStart (name : List Char) :
    isLengthName (Text.trimStart name) = isLengthName name := by
  rw [isLengthName, isLengthName, Text.trim_trimStart]

def ofValue (value : List Char) : Header :=
  match Decimal.below? UInt64.size value with
  | some bytes => length bytes
  | none => faulty (.badLength value)

theorem ofValue_of_numeral {n : Nat} (numeral : Decimal.IsNumeral value n) :
    ofValue value = length n := by
  simp only [ofValue, Decimal.below?_eq_some_iff.mpr numeral]

theorem ofValue_of_not_numeral (bad : ¬ ∃ n, Decimal.IsNumeral value n) :
    ofValue value = faulty (.badLength value) := by
  unfold ofValue
  split
  · rename_i n number
    exact absurd ⟨n, Decimal.below?_eq_some_iff.mp number⟩ bad
  · rfl

theorem ofText_of_colon {name : List Char} (behind : List Char) (clear : ':' ∉ name) :
    ofText (name ++ ':' :: behind) =
      if isLengthName name then ofValue (Text.trim behind) else other := by
  have around := Text.trim_around isBlank_colon name behind
  have clear' : ∀ c ∈ Text.trimStart name, (decide (c = ':')) = false := by
    intro c member
    have inner := (List.dropWhile_sublist Text.isBlank).subset member
    exact decide_eq_false fun same => clear (same ▸ inner)
  -- Trimming the whole line leaves its first colon where it was.
  have cut : Text.splitAtFirst? (fun c => decide (c = ':'))
      (Text.trimStart name ++ ':' :: Text.trimEnd behind) =
        some (Text.trimStart name, Text.trimEnd behind) :=
    Text.splitAtFirst?_append clear' (by decide) _
  have present : (Text.trimStart name ++ ':' :: Text.trimEnd behind).isEmpty = false :=
    List.isEmpty_eq_false_iff.mpr (List.append_ne_nil_of_right_ne_nil _ (List.cons_ne_nil _ _))
  rw [ofText, around, present, cut]
  simp only [isLengthName_trimStart, Text.trim_trimEnd, Bool.false_eq_true, if_false]
  rfl

theorem ofText_of_no_colon (present : ¬ IsBlank line) (clear : ':' ∉ line) :
    ofText line = .other := by
  have absent : Text.splitAtFirst? (fun c => decide (c = ':')) (Text.trim line) = none :=
    Text.splitAtFirst?_eq_none fun c member =>
      decide_eq_false fun same => clear (same ▸ Text.mem_of_mem_trim member)
  have kept : (Text.trim line).isEmpty = false := by
    rw [List.isEmpty_eq_false_iff, Ne, Text.trim_eq_nil_iff]
    exact present
  simp only [ofText, absent, kept, Bool.false_eq_true, if_false]

theorem ofText_of_gives (gives : GivesLength line value) : ofText line = ofValue value := by
  obtain ⟨name, behind, rfl, clear, named, rfl⟩ := gives
  rw [ofText_of_colon behind clear, if_pos (isLengthName_iff.mpr named)]

theorem ofText_of_not_gives (present : ¬ IsBlank line)
    (silent : ∀ value, ¬ GivesLength line value) : ofText line = .other := by
  by_cases colon : ':' ∈ line
  · obtain ⟨name, behind, rfl, clear⟩ := List.eq_append_cons_of_mem colon
    rw [ofText_of_colon behind clear, if_neg]
    intro named
    exact silent _ ⟨name, behind, rfl, clear, isLengthName_iff.mp named, rfl⟩
  · exact ofText_of_no_colon present colon

theorem ofText_of_blank (blank : IsBlank line) : ofText line = .blank := by
  have empty := Text.trim_eq_nil_iff.mpr blank
  simp only [ofText, empty, List.isEmpty_nil, if_true]

theorem ofText_of_numeral {n : Nat} (gives : GivesLength line value)
    (numeral : Decimal.IsNumeral value n) : ofText line = .length n :=
  (ofText_of_gives gives).trans (ofValue_of_numeral numeral)

theorem ofText_of_faulty (gives : GivesLength line value)
    (bad : ¬ ∃ n, Decimal.IsNumeral value n) : ofText line = .faulty (.badLength value) :=
  (ofText_of_gives gives).trans (ofValue_of_not_numeral bad)

end Header

end Frame

end WorkspaceServers
