import WorkspaceServers.Proofs.Json.Scalars

/-!
Bracketed lists, for any way to write and to read an item. Arrays and objects are both such
lists, so what holds here of items that read back holds of both.
-/

namespace WorkspaceServers.Json

def Begins (text : List Char) : Prop :=
  ∃ c rest, text = c :: rest ∧ isSpace c = false ∧ c ≠ ']' ∧ c ≠ '}'

theorem Begins.append {text : List Char} (begins : Begins text) (rest : List Char) :
    Begins (text ++ rest) := by
  obtain ⟨c, more, rfl, proper⟩ := begins
  exact ⟨c, more ++ rest, rfl, proper⟩

theorem skipSpace_of_begins {text : List Char} (begins : Begins text) : skipSpace text = text := by
  obtain ⟨c, rest, rfl, proper, _⟩ := begins
  rw [skipSpace, List.dropWhile_cons, proper]
  rfl

theorem skipSpace_comma (text : List Char) : skipSpace (',' :: text) = ',' :: text := rfl

theorem skipSpace_colon (text : List Char) : skipSpace (':' :: text) = ':' :: text := rfl

def Closing (stop : Char) : Prop := stop = ']' ∨ stop = '}'

theorem skipSpace_stop {stop : Char} (closing : Closing stop) (rest : List Char) :
    skipSpace (stop :: rest) = stop :: rest := by
  rcases closing with rfl | rfl <;> rfl

theorem Closing.ne_comma {stop : Char} (closing : Closing stop) : ',' ≠ stop := by
  rcases closing with rfl | rfl <;> decide

variable {α : Type} {write : α → List Char} {read : List Char → Option (α × List Char)}
  {stop : Char} {item : α} {items : List α}

/-- Wherever `write` puts the item, `read` finds it again. -/
structure Reads (write : α → List Char) (read : List Char → Option (α × List Char))
    (item : α) : Prop where
  begins : Begins (write item)
  back : ∀ rest, Ends rest → read (write item ++ rest) = some (item, rest)

def further (write : α → List Char) (items : List α) : List Char :=
  items.flatMap fun item => ',' :: write item

def listed (write : α → List Char) (stop : Char) : List α → List Char
  | [] => [stop]
  | item :: more => write item ++ further write more ++ [stop]

theorem further_cons (write : α → List Char) (item : α) (more : List α) :
    further write (item :: more) = ',' :: (write item ++ further write more) :=
  List.flatMap_cons

theorem ends_further (write : α → List Char) (closing : Closing stop) (more : List α)
    (rest : List Char) : Ends (further write more ++ stop :: rest) := by
  cases more with
  | nil => exact .inr closing
  | cons _ _ => exact .inl rfl

theorem length_le_further (write : α → List Char) (items : List α) (rest : List Char) :
    items.length ≤ (further write items ++ rest).length := by
  -- There is no item without its comma, so the text is long enough to count the items.
  induction items with
  | nil => exact Nat.zero_le _
  | cons item more ih =>
    rw [List.length_append] at ih
    rw [further_cons, List.length_append, List.length_cons, List.length_cons, List.length_append]
    omega

theorem readItems?_further (closing : Closing stop)
    (reads : ∀ item ∈ items, Reads write read item) {fuel : Nat} (enough : items.length < fuel)
    (rest : List Char) :
    readItems? read stop fuel (further write items ++ stop :: rest) = some (items, rest) := by
  induction items generalizing fuel with
  | nil =>
    cases fuel with
    | zero => cases enough
    | succ fuel =>
      rw [further, List.flatMap_nil, List.nil_append, readItems?, skipSpace_stop closing]
      exact if_pos rfl
  | cons item more ih =>
    cases fuel with
    | zero => cases enough
    | succ fuel =>
      have now := reads item List.mem_cons_self
      have found := now.back _ (ends_further write closing more rest)
      have others := ih (fun item member => reads item (List.mem_cons_of_mem _ member))
        (Nat.lt_of_succ_lt_succ enough)
      rw [further_cons, List.cons_append, List.append_assoc, readItems?, skipSpace_comma]
      simp only [if_neg closing.ne_comma, if_true, skipSpace_of_begins (now.begins.append _)]
      simp [found, others]

theorem readList?_listed (closing : Closing stop)
    (reads : ∀ item ∈ items, Reads write read item) (rest : List Char) :
    readList? read stop (listed write stop items ++ rest) = some (items, rest) := by
  cases items with
  | nil =>
    rw [listed, readList?, List.singleton_append, skipSpace_stop closing]
    exact if_pos rfl
  | cons item more =>
    have now := reads item List.mem_cons_self
    have found := now.back _ (ends_further write closing more rest)
    have enough := Nat.lt_succ_of_le (length_le_further write more (stop :: rest))
    have others := readItems?_further closing
      (fun item member => reads item (List.mem_cons_of_mem _ member)) enough rest
    have begins := now.begins.append (further write more ++ stop :: rest)
    rw [listed, List.append_assoc, List.append_assoc, List.singleton_append, readList?,
      skipSpace_of_begins begins]
    -- The first item is read with the character by which an empty list is told apart.
    obtain ⟨c, text, shown, _, bracket, brace⟩ := begins
    have other : c ≠ stop := by rcases closing with rfl | rfl <;> assumption
    rw [shown] at found
    simp only [shown, if_neg other, found, Option.bind_eq_bind, Option.bind_some]
    rw [others]
    rfl

end WorkspaceServers.Json
