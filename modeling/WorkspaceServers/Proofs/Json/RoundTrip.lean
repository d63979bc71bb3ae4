import WorkspaceServers.Json.Depth
import WorkspaceServers.Keyed.Lemmas
import WorkspaceServers.Proofs.Json.Lists
import WorkspaceServers.Text.Utf8.Lemmas

/-!
What is printed reads back, by induction over values. The depth that the reader allows is
spent by one at every bracket, and the entries of a map come back in the order in which
they are kept.
-/

namespace WorkspaceServers.Json

/-- The values that a text brings back: their numbers are integers, and their objects are
maps. -/
inductive Plain : Json → Prop where
  | null : Plain .null
  | bool (value : Bool) : Plain (.bool value)
  | int (value : Int) (inRange : -0x8000000000000000 ≤ value ∧ value < 0x10000000000000000) :
      Plain (.num (.int value inRange))
  | str (text : String) : Plain (.str text)
  | arr {items : List Json} (plain : ∀ item ∈ items, Plain item) : Plain (.arr items)
  | obj {fields : List (String × Json)} (ascending : Keyed.Ascending fields)
      (plain : ∀ field ∈ fields, Plain field.2) : Plain (.obj fields)

section Printing

theorem printItems_eq (items : List Json) : printItems items = further print items ++ [']'] := by
  induction items with
  | nil => rfl
  | cons item more ih =>
    rw [printItems, ih, further_cons]
    simp

theorem print_arr (items : List Json) : print (.arr items) = '[' :: listed print ']' items := by
  cases items with
  | nil => rfl
  | cons item more =>
    rw [print, printItems_eq, listed]
    simp

def printField (field : String × Json) : List Char := quote field.1 ++ ':' :: print field.2

theorem printFields_eq (fields : List (String × Json)) :
    printFields fields = further printField fields ++ ['}'] := by
  induction fields with
  | nil => rfl
  | cons field more ih =>
    rw [printFields, ih, further_cons, printField]
    simp

theorem print_obj (fields : List (String × Json)) :
    print (.obj fields) = '{' :: listed printField '}' fields := by
  cases fields with
  | nil => rfl
  | cons field more =>
    rw [print, printFields_eq, listed, printField]
    simp

end Printing

section Depth

theorem depth_le_itemsDepth {item : Json} {items : List Json} (member : item ∈ items) :
    item.depth ≤ itemsDepth items := by
  induction items with
  | nil => cases member
  | cons first rest ih =>
    rw [itemsDepth]
    rcases List.mem_cons.mp member with rfl | later
    · exact Nat.le_max_left _ _
    · exact Nat.le_trans (ih later) (Nat.le_max_right _ _)

theorem depth_le_fieldsDepth {field : String × Json} {fields : List (String × Json)}
    (member : field ∈ fields) : field.2.depth ≤ fieldsDepth fields := by
  induction fields with
  | nil => cases member
  | cons first rest ih =>
    rw [fieldsDepth]
    rcases List.mem_cons.mp member with rfl | later
    · exact Nat.le_max_left _ _
    · exact Nat.le_trans (ih later) (Nat.le_max_right _ _)

end Depth

section Numbers

def Front (c : Char) : Prop := c = '-' ∨ Decimal.isDigit c = true

instance (c : Char) : Decidable (Front c) := inferInstanceAs (Decidable (_ ∨ _))

theorem Front.ne {c mark : Char} (front : Front c) (never : ¬ Front mark) : c ≠ mark := by
  rintro rfl
  exact never front

theorem Front.isSpace {c : Char} (front : Front c) : isSpace c = false := by
  cases space : Json.isSpace c with
  | false => rfl
  | true =>
    simp only [Json.isSpace, Bool.or_eq_true, decide_eq_true_eq] at space
    rcases space with ((rfl | rfl) | rfl) | rfl <;> revert front <;> decide

variable {value : Int}

theorem printNumber_front
    (inRange : -0x8000000000000000 ≤ value ∧ value < 0x10000000000000000) :
    ∃ c rest, printNumber (.int value inRange) = c :: rest ∧ Front c := by
  rw [printNumber, Decimal.intDigits]
  split
  · exact ⟨_, _, rfl, .inl rfl⟩
  · cases shown : Decimal.digits value.natAbs with
    | nil => exact absurd shown (Decimal.digits_ne_nil _)
    | cons c rest =>
      exact ⟨c, rest, rfl, .inr (Decimal.isDigit_of_mem_digits (shown ▸ List.mem_cons_self))⟩

theorem readValue?_front {c : Char} (front : Front c) (depth : Nat) (rest : List Char) :
    readValue? depth (c :: rest) =
      (readNumber? (c :: rest)).map fun (value, rest) => (.num value, rest) := by
  unfold readValue?
  rw [if_neg (front.ne (by decide)), if_neg (front.ne (by decide)),
    if_neg (front.ne (by decide)), if_neg (front.ne (by decide)),
    if_neg (front.ne (by decide)), if_neg (front.ne (by decide))]

theorem reads_int (inRange : -0x8000000000000000 ≤ value ∧ value < 0x10000000000000000)
    (depth : Nat) : Reads print (readValue? depth) (.num (.int value inRange)) := by
  obtain ⟨c, more, shown, front⟩ := printNumber_front inRange
  constructor
  · exact ⟨c, more, shown, front.isSpace, front.ne (by decide), front.ne (by decide)⟩
  · intro rest ends
    have read := readNumber?_int inRange ends
    rw [shown, List.cons_append] at read
    rw [print, shown, List.cons_append, readValue?_front front, read]
    rfl

end Numbers

section Values

theorem reads_field {read : List Char → Option (Json × List Char)} {field : String × Json}
    (reads : Reads print read field.2) : Reads printField (readField? read) field := by
  constructor
  · exact ⟨_, _, rfl, by decide⟩
  · intro rest ends
    have found := reads.back rest ends
    have name := readString?_quote field.1 (':' :: (print field.2 ++ rest))
    rw [printField, quote, List.append_assoc, List.append_assoc, List.cons_append, readField?]
    simp only [List.cons_append, List.nil_append, name, Option.bind_eq_bind, Option.bind_some]
    rw [skipSpace_colon]
    simp only [skipSpace_of_begins (reads.begins.append rest), found, Option.bind_some,
      String.ofList_toList]
    rfl

theorem reads_str (text : String) (depth : Nat) : Reads print (readValue? depth) (.str text) := by
  constructor
  · exact ⟨_, _, rfl, by decide⟩
  · intro rest _
    have read := readString?_quote text rest
    unfold readValue?
    simp [print, quote, read]

theorem reads_arr {items : List Json} {depth : Nat}
    (reads : ∀ item ∈ items, Reads print (readValue? depth) item) :
    Reads print (readValue? (depth + 1)) (.arr items) := by
  constructor
  · exact ⟨_, _, print_arr items, by decide⟩
  · intro rest _
    have read := readList?_listed (.inl rfl) reads rest
    simp [print_arr, readValue?, read]

theorem reads_obj {fields : List (String × Json)} {depth : Nat}
    (ascending : Keyed.Ascending fields)
    (reads : ∀ field ∈ fields, Reads print (readValue? depth) field.2) :
    Reads print (readValue? (depth + 1)) (.obj fields) := by
  constructor
  · exact ⟨_, _, print_obj fields, by decide⟩
  · intro rest _
    have read := readList?_listed (.inr rfl)
      (fun field member => reads_field (reads field member)) rest
    simp [print_obj, readValue?, read, object, Keyed.ofList_of_ascending ascending]

/-- A printed value is read where a value may end, as long as it does not nest too deep. -/
theorem reads_print {json : Json} (plain : Plain json) {depth : Nat}
    (shallow : json.depth ≤ depth) : Reads print (readValue? depth) json := by
  induction plain generalizing depth with
  | null =>
    refine ⟨⟨_, _, rfl, by decide⟩, fun rest _ => ?_⟩
    unfold readValue?
    simp [print, after?]
  | bool value =>
    cases value <;> refine ⟨⟨_, _, rfl, by decide⟩, fun rest _ => ?_⟩ <;> unfold readValue? <;>
      simp [print, after?]
  | int value inRange => exact reads_int inRange depth
  | str text => exact reads_str text depth
  | arr plain ih =>
    cases depth with
    | zero => cases shallow
    | succ depth =>
      -- The bracket spends one of the levels and leaves the others to the items.
      have room := Nat.le_of_succ_le_succ shallow
      apply reads_arr
      intro item member
      exact ih item member (Nat.le_trans (depth_le_itemsDepth member) room)
  | obj ascending plain ih =>
    cases depth with
    | zero => cases shallow
    | succ depth =>
      have room := Nat.le_of_succ_le_succ shallow
      apply reads_obj ascending
      intro field member
      exact ih field member (Nat.le_trans (depth_le_fieldsDepth member) room)

end Values

theorem parse?_print {json : Json} (plain : Plain json) (shallow : json.depth ≤ depthLimit) :
    parse? (print json) = some json := by
  have reads := reads_print plain shallow
  have read := reads.back [] trivial
  rw [List.append_nil] at read
  rw [parse?, skipSpace_of_begins reads.begins, read]
  rfl

theorem ofBytes?_bytes {json : Json} (plain : Plain json) (shallow : json.depth ≤ depthLimit) :
    ofBytes? json.bytes = some json := by
  rw [ofBytes?, bytes, Utf8.decode?_encode]
  exact parse?_print plain shallow

end WorkspaceServers.Json
