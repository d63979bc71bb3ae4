import WorkspaceServers.Proofs.Config.References
import WorkspaceServers.Proofs.Text.Slices

/-!
The expansion of a configured text over its bytes. A loop looks for an opening and for the
closing behind it by their places, puts the value in, and goes on behind the closing. It takes
every slice between characters, comes to an end, and expands the text as its references say.
-/

namespace WorkspaceServers.Config

def opening : Bytes := Utf8.encode ['$', '{']

def closing : Bytes := Utf8.encode ['}']

def valueBytes? (lookup : String → Option String) (name : Bytes) : Option Bytes :=
  (Utf8.decode? name).map fun name => Utf8.encode (valueOf lookup name)

theorem length_of_slice? {bytes slice : Bytes} {start : Nat}
    (taken : Utf8.slice? bytes (start + 1) bytes.length = some slice) :
    slice.length < bytes.length := by
  unfold Utf8.slice? at taken
  split at taken
  · rename_i bounded
    obtain rfl := Option.some.inj taken
    simp at bounded ⊢
    omega
  · cases taken

def expandBytes? (lookup : String → Option String) (rest : Bytes) : Option Bytes :=
  match Utf8.find? opening rest with
  | none => some rest
  | some start =>
    match Utf8.slice? rest (start + 2) rest.length with
    | none => none
    | some opened =>
      match Utf8.find? closing opened with
      | none => some rest
      | some length =>
        match _ : Utf8.slice? rest (start + 2 + length + 1) rest.length with
        | none => none
        | some later => do
          let before ← Utf8.slice? rest 0 start
          let name ← Utf8.slice? rest (start + 2) (start + 2 + length)
          return before ++ (← valueBytes? lookup name) ++ (← expandBytes? lookup later)
termination_by rest.length
decreasing_by exact length_of_slice? (by assumption)

section Bytes

variable {lookup : String → Option String} {before name text last : List Char}
  {references : List Reference}

theorem find?_opening (plain : ¬ ['$', '{'] <:+: before) (after : List Char) :
    Utf8.find? opening (Utf8.encode (before ++ '$' :: '{' :: after)) =
      some (Utf8.encode before).length :=
  Utf8.find?_encode (by decide) (by decide) plain after

theorem find?_closing (named : '}' ∉ name) (after : List Char) :
    Utf8.find? closing (Utf8.encode (name ++ '}' :: after)) = some (Utf8.encode name).length :=
  Utf8.find?_encode (by decide) List.not_mem_nil
    (fun inside => named (inside.subset List.mem_cons_self)) after

theorem find?_closing_eq_none (unmarked : '}' ∉ text) :
    Utf8.find? closing (Utf8.encode text) = none :=
  Utf8.find?_encode_eq_none (by decide) fun inside => unmarked (inside.subset List.mem_cons_self)

theorem length_around (before mark after : List Char) :
    (Utf8.encode (before ++ (mark ++ after))).length =
      (Utf8.encode before).length + (Utf8.encode mark).length + (Utf8.encode after).length := by
  rw [Utf8.encode_append, Utf8.encode_append, List.length_append, List.length_append,
    Nat.add_assoc]

theorem length_opened (before after : List Char) :
    (Utf8.encode (before ++ '$' :: '{' :: after)).length =
      (Utf8.encode before).length + 2 + (Utf8.encode after).length :=
  length_around before ['$', '{'] after

theorem length_named (name after : List Char) :
    (Utf8.encode (name ++ '}' :: after)).length =
      (Utf8.encode name).length + 1 + (Utf8.encode after).length :=
  length_around name ['}'] after

theorem slice?_opened (before after : List Char) :
    Utf8.slice? (Utf8.encode (before ++ '$' :: '{' :: after)) ((Utf8.encode before).length + 2)
      (Utf8.encode (before ++ '$' :: '{' :: after)).length = some (Utf8.encode after) :=
  Utf8.slice?_encode (before ++ ['$', '{']) after [] (by simp) (length_opened before []).symm
    (length_opened before after)

theorem valueBytes?_encode (lookup : String → Option String) (name : List Char) :
    valueBytes? lookup (Utf8.encode name) = some (Utf8.encode (valueOf lookup name)) := by
  rw [valueBytes?, Utf8.decode?_encode, Option.map_some]

theorem expandBytes?_of_not_closed (unclosed : ¬ Closed text) :
    expandBytes? lookup (Utf8.encode text) = some (Utf8.encode text) := by
  rcases Text.unmarked_or_first '$' ['{'] text with plain | ⟨before, after, rfl, plain⟩
  · have absent : Utf8.find? opening (Utf8.encode text) = none :=
      Utf8.find?_encode_eq_none (by decide) plain
    rw [expandBytes?, absent]
  · have unmarked : '}' ∉ after := fun closes => unclosed ((closed_iff_mem plain).mpr closes)
    have opened : before ++ ('$' :: ['{'] ++ after) = before ++ '$' :: '{' :: after := rfl
    rw [opened, expandBytes?, find?_opening plain]
    simp only [slice?_opened, find?_closing_eq_none unmarked]

theorem expandBytes?_reference (plain : ¬ ['$', '{'] <:+: before) (named : '}' ∉ name)
    (later : List Char) :
    expandBytes? lookup (Utf8.encode (before ++ '$' :: '{' :: (name ++ '}' :: later))) =
      (expandBytes? lookup (Utf8.encode later)).map fun expanded =>
        Utf8.encode before ++ Utf8.encode (valueOf lookup name) ++ expanded := by
  have found := find?_opening plain (name ++ '}' :: later)
  have opened := slice?_opened before (name ++ '}' :: later)
  have length := length_opened before (name ++ '}' :: later)
  rw [length_named] at length
  -- Every slice splits the text in another way, so the text gets a name of its own.
  generalize whole : before ++ '$' :: '{' :: (name ++ '}' :: later) = text at *
  have taken_before : Utf8.slice? (Utf8.encode text) 0 (Utf8.encode before).length =
      some (Utf8.encode before) :=
    Utf8.slice?_encode [] before _ whole.symm rfl (Nat.zero_add _).symm
  have taken_name : Utf8.slice? (Utf8.encode text) ((Utf8.encode before).length + 2)
      ((Utf8.encode before).length + 2 + (Utf8.encode name).length) = some (Utf8.encode name) :=
    Utf8.slice?_encode (before ++ ['$', '{']) name ('}' :: later) (by simp [← whole])
      (length_opened before []).symm rfl
  have taken_later : Utf8.slice? (Utf8.encode text)
      ((Utf8.encode before).length + 2 + (Utf8.encode name).length + 1)
      (Utf8.encode text).length = some (Utf8.encode later) := by
    refine Utf8.slice?_encode (before ++ '$' :: '{' :: (name ++ ['}'])) later []
      (by simp [← whole]) ?_ (by omega)
    rw [length_opened, length_named]
    rfl
  rw [expandBytes?, found]
  simp only [opened, find?_closing named]
  split
  · rename_i missing
    rw [taken_later] at missing
    cases missing
  · rename_i rest taken
    obtain rfl := Option.some.inj (taken_later.symm.trans taken)
    simp only [taken_before, taken_name, valueBytes?_encode, Option.bind_eq_bind,
      Option.bind_some]
    cases expandBytes? lookup (Utf8.encode later) <;> rfl

theorem Decomposes.expandBytes?_eq (decomposes : Decomposes text references last) :
    expandBytes? lookup (Utf8.encode text) =
      some (Utf8.encode (resolve lookup references last)) := by
  induction references generalizing text with
  | nil =>
    rw [decomposes.whole]
    exact expandBytes?_of_not_closed decomposes.ended
  | cons reference rest ih =>
    rw [decomposes.whole, compose, expandBytes?_reference
      (decomposes.plain _ List.mem_cons_self) (decomposes.named _ List.mem_cons_self),
      ih decomposes.tail, Option.map_some, resolve, Utf8.encode_append, Utf8.encode_append,
      List.append_assoc]

end Bytes

/-- To expand a text is to fill in its references, in one pass over its bytes. -/
structure Expands (lookup : String → Option String) (text : String) : Prop where
  decomposed : ∃! parts : List Reference × List Char, Decomposes text.toList parts.1 parts.2
  resolved : ∀ references last, Decomposes text.toList references last →
    expand lookup text = String.ofList (resolve lookup references last)
  sliced : expandBytes? lookup (Utf8.ofString text) = some (Utf8.ofString (expand lookup text))
  /-- Nothing is looked for in a value. -/
  once : ∀ before name after, text.toList = before ++ '$' :: '{' :: (name ++ '}' :: after) →
    ¬ ['$', '{'] <:+: before → '}' ∉ name →
      expand lookup text = String.ofList (before ++ valueOf lookup name) ++
        expand lookup (String.ofList after)
  /-- Behind the last closing nothing changes, whether it opens anything or not. -/
  literal : ∀ front behind, text.toList = front ++ behind → '}' ∉ behind →
    expand lookup text = expand lookup (String.ofList front) ++ String.ofList behind
  unchanged : ¬ Closed text.toList → expand lookup text = text

theorem texts_expand (lookup : String → Option String) (text : String) : Expands lookup text := by
  obtain ⟨references, last, decomposes⟩ := exists_decomposes text.toList
  refine ⟨?_, ?_, ?_, ?_, ?_, ?_⟩
  · refine ⟨(references, last), decomposes, ?_⟩
    rintro ⟨references', last'⟩ decomposes'
    obtain ⟨rfl, rfl⟩ := decomposes.unique decomposes'
    rfl
  · intro references last decomposes
    rw [expand, decomposes.expandFrom_eq]
  · rw [Utf8.ofString, decomposes.expandBytes?_eq, expand, decomposes.expandFrom_eq, Utf8.ofString,
      String.toList_ofList]
  · intro before name after split plain named
    rw [expand, split, expandFrom_reference plain named, ← List.append_assoc, String.ofList_append,
      expand, String.toList_ofList]
  · intro front behind split unmarked
    rw [expand, split, expandFrom_append unmarked, String.ofList_append, expand,
      String.toList_ofList]
  · intro unclosed
    rw [expand, expandFrom_of_not_closed unclosed, String.ofList_toList]

/-- A name goes up to the first closing, and an opening in it is part of it. -/
example : expand (fun name => some ("<" ++ name ++ ">")) "é$$\x7ba$\x7bb\x7d\x7d$\x7b" =
    "é$<a$\x7bb>\x7d$\x7b" := by
  decide

end WorkspaceServers.Config
