import WorkspaceServers.Frame.Reader
import WorkspaceServers.Frame.Writer
import WorkspaceServers.Proofs.Number.Digits
import WorkspaceServers.Text.Utf8.Lemmas

/-!
The header that goes in front of a body, read line by line: trimming takes off the carriage
return, the digits give back the length, and no line feed stands inside a line.
-/

namespace WorkspaceServers

namespace Text

structure Bare (text : List Char) : Prop where
  first : ∀ c, text.head? = some c → isBlank c = false
  last : ∀ c, text.getLast? = some c → isBlank c = false

theorem trimStart_append {before rest : List Char} (blank : ∀ c ∈ before, isBlank c = true)
    (bare : ∀ c, rest.head? = some c → isBlank c = false) :
    trimStart (before ++ rest) = rest := by
  rw [trimStart, List.dropWhile_append_of_pos blank]
  cases rest with
  | nil => rfl
  | cons c rest => rw [List.dropWhile_cons, bare c rfl]; rfl

theorem trimEnd_append {text behind : List Char} (blank : ∀ c ∈ behind, isBlank c = true)
    (bare : ∀ c, text.getLast? = some c → isBlank c = false) :
    trimEnd (text ++ behind) = text := by
  have front : trimStart (behind.reverse ++ text.reverse) = text.reverse :=
    trimStart_append (fun c member => blank c (List.mem_reverse.mp member))
      (fun c head => bare c (by rwa [List.head?_reverse] at head))
  rw [trimStart] at front
  rw [trimEnd, List.reverse_append, front, List.reverse_reverse]

theorem trim_append {before text behind : List Char} (blank : ∀ c ∈ before, isBlank c = true)
    (blank' : ∀ c ∈ behind, isBlank c = true) (bare : Bare text) (present : text ≠ []) :
    trim (before ++ (text ++ behind)) = text := by
  have head : ∀ c, (text ++ behind).head? = some c → isBlank c = false := by
    intro c head
    cases text with
    | nil => exact absurd rfl present
    | cons first rest => exact bare.first c head
  rw [trim, trimStart_append blank head, trimEnd_append blank' bare.last]

end Text

namespace Decimal

theorem isBlank_of_isDigit {c : Char} (digit : isDigit c = true) : Text.isBlank c = false := by
  have bounds : 48 ≤ c.toNat ∧ c.toNat ≤ 57 := by
    simpa [isDigit, Char.le_def, UInt32.le_iff_toNat_le] using digit
  simp [Text.isBlank, Text.blankRanges]
  omega

theorem bare_digits (n : Nat) : Text.Bare (digits n) where
  first _ head := isBlank_of_isDigit (isDigit_of_mem_digits (List.mem_of_mem_head? head))
  last _ last := isBlank_of_isDigit (isDigit_of_mem_digits (List.mem_of_mem_getLast? last))

end Decimal

namespace Frame

theorem lineFeed_notMem_encode {text : List Char} (line : '\n' ∉ text) :
    lineFeed ∉ Utf8.encode text :=
  fun member => line (Utf8.mem_of_mem_encode (c := '\n') (by decide) member)

theorem readBlock_bytes {bytes : Bytes} (line : lineFeed ∉ bytes) (length : Option Nat)
    (started : Bool) (begun rest : Bytes) :
    readBlock length started begun (bytes ++ rest) =
      readBlock length started (bytes.reverse ++ begun) rest := by
  induction bytes generalizing begun with
  | nil => rfl
  | cons byte more ih =>
    have other : byte ≠ lineFeed := fun same => line (same ▸ List.mem_cons_self)
    rw [List.cons_append, readBlock, if_neg other,
      ih (fun member => line (List.mem_cons_of_mem _ member)), List.reverse_cons,
      List.append_assoc]
    rfl

section Lines

variable {bytes : Bytes} {length : Option Nat} {started : Bool} {rest : Bytes}

theorem readBlock_length {value : Nat} (line : lineFeed ∉ bytes)
    (meaning : Header.ofLine bytes = .length value) :
    readBlock length started [] (bytes ++ lineFeed :: rest) =
      readBlock (some value) true [] rest := by
  rw [readBlock_bytes line, List.append_nil, readBlock, if_pos rfl, List.reverse_reverse, meaning]

theorem readBlock_blank (line : lineFeed ∉ bytes) (meaning : Header.ofLine bytes = .blank) :
    readBlock length started [] (bytes ++ lineFeed :: rest) = ⟨.close length, rest, true⟩ := by
  rw [readBlock_bytes line, List.append_nil, readBlock, if_pos rfl, List.reverse_reverse, meaning]

end Lines

def lengthTitle : List Char :=
  ['C', 'o', 'n', 't', 'e', 'n', 't', '-', 'L', 'e', 'n', 'g', 't', 'h', ':', ' ']

def lengthLine (length : Nat) : List Char := lengthTitle ++ (Decimal.digits length ++ ['\r'])

theorem lineFeed_notMem_lengthLine (length : Nat) :
    lineFeed ∉ Utf8.encode (lengthLine length) := by
  refine lineFeed_notMem_encode fun member => ?_
  rcases List.mem_append.mp member with title | member
  · revert title
    decide
  · rcases List.mem_append.mp member with digit | ending
    · exact absurd (Decimal.isDigit_of_mem_digits digit) (by decide)
    · revert ending
      decide

theorem isLengthName_title : Header.isLengthName (lengthTitle.take 14) = true := by
  have name : Header.lengthName =
      ['c', 'o', 'n', 't', 'e', 'n', 't', '-', 'l', 'e', 'n', 'g', 't', 'h'] :=
    String.toList_ofList
  have lower : (Text.trim (lengthTitle.take 14)).map Char.toLower =
      ['c', 'o', 'n', 't', 'e', 'n', 't', '-', 'l', 'e', 'n', 'g', 't', 'h'] := by decide
  exact decide_eq_true (lower.trans name.symm)

theorem bare_titled (length : Nat) : Text.Bare (lengthTitle ++ Decimal.digits length) := by
  constructor
  · intro c head
    cases head
    decide
  · intro c last
    have present := List.getLast?_eq_none_iff.not.mpr (Decimal.digits_ne_nil length)
    obtain ⟨final, ends⟩ := Option.ne_none_iff_exists'.mp present
    rw [List.getLast?_append, ends, Option.some_or] at last
    cases last
    exact (Decimal.bare_digits length).last c ends

theorem trim_lengthLine (length : Nat) :
    Text.trim (lengthLine length) = lengthTitle ++ Decimal.digits length := by
  rw [lengthLine, ← List.append_assoc]
  apply Text.trim_append (List.forall_mem_nil _) _ (bare_titled length)
  · exact List.append_ne_nil_of_right_ne_nil _ (Decimal.digits_ne_nil length)
  · exact List.forall_mem_singleton.mpr (by decide)

theorem trim_value (length : Nat) :
    Text.trim (' ' :: Decimal.digits length) = Decimal.digits length := by
  have trimmed : Text.trim ([' '] ++ (Decimal.digits length ++ [])) = Decimal.digits length := by
    apply Text.trim_append _ (List.forall_mem_nil _) (Decimal.bare_digits length)
    · exact Decimal.digits_ne_nil length
    · exact List.forall_mem_singleton.mpr (by decide)
  rwa [List.append_nil] at trimmed

theorem ofLine_lengthLine {length : Nat} (fits : length < UInt64.size) :
    Header.ofLine (Utf8.encode (lengthLine length)) = .length length := by
  have cut : Text.splitAtFirst? (· = ':') (lengthTitle ++ Decimal.digits length) =
      some (lengthTitle.take 14, ' ' :: Decimal.digits length) := by
    simp [lengthTitle, Text.splitAtFirst?]
  rw [Header.ofLine, Utf8.decode?_encode]
  simp only [Header.ofText, trim_lengthLine, cut, isLengthName_title, trim_value,
    Decimal.below?_digits fits]
  rfl

theorem header_eq (length : Nat) :
    header length = Utf8.encode (lengthLine length) ++ lineFeed :: ([0x0D] ++ lineFeed :: []) := by
  have title : "Content-Length: ".toList = lengthTitle := String.toList_ofList
  have ends : Utf8.encode ['\r', '\n', '\r', '\n'] = [0x0D, lineFeed, 0x0D, lineFeed] := by decide
  have ending : Utf8.encode ['\r'] = [0x0D] := by decide
  rw [Utf8.encode] at ends ending
  simp only [header, title, lengthLine, Utf8.encode, List.flatMap_append, List.append_assoc, ends,
    ending, List.singleton_append]

theorem readBlock_header {length : Nat} (fits : length < UInt64.size) (rest : Bytes) :
    readBlock none false [] (header length ++ rest) = ⟨.length length, rest, true⟩ := by
  have blank : Header.ofLine [0x0D] = .blank := by decide
  rw [header_eq, List.append_assoc, List.cons_append, List.append_assoc, List.cons_append,
    readBlock_length (lineFeed_notMem_lengthLine length) (ofLine_lengthLine fits)]
  exact readBlock_blank (by decide) blank

end Frame

end WorkspaceServers
