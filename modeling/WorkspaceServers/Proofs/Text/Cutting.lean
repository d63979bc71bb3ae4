import Mathlib.Data.List.TakeWhile
import WorkspaceServers.Text.Blank
import WorkspaceServers.Text.Pieces

/-!
Trimming and cutting a text at a mark. White space around a text does not hide a mark in it,
and what is trimmed off the parts before and after the mark is trimmed off the whole. A cut
at every mark goes on behind one mark as if nothing stood before it.
-/

namespace WorkspaceServers.Text

section Cuts

variable {α : Type} {cut : α → Bool}

theorem splitAtFirst?_append {before : List α} {mark : α} (clear : ∀ a ∈ before, cut a = false)
    (marks : cut mark = true) (after : List α) :
    splitAtFirst? cut (before ++ mark :: after) = some (before, after) := by
  induction before with
  | nil => simp [splitAtFirst?, marks]
  | cons a rest ih =>
    have here := clear a List.mem_cons_self
    have later := ih fun b member => clear b (List.mem_cons_of_mem _ member)
    simp [splitAtFirst?, here, later]

theorem splitAtFirst?_eq_none {list : List α} (clear : ∀ a ∈ list, cut a = false) :
    splitAtFirst? cut list = none := by
  induction list with
  | nil => rfl
  | cons a rest ih =>
    have here := clear a List.mem_cons_self
    have later := ih fun b member => clear b (List.mem_cons_of_mem _ member)
    simp [splitAtFirst?, here, later]

theorem splitAtLast?_append {after : List α} {mark : α} (clear : ∀ a ∈ after, cut a = false)
    (marks : cut mark = true) (before : List α) :
    splitAtLast? cut (before ++ mark :: after) = some (before, after) := by
  have turned : (before ++ mark :: after).reverse = after.reverse ++ mark :: before.reverse := by
    simp
  have clear' : ∀ a ∈ after.reverse, cut a = false :=
    fun a member => clear a (List.mem_reverse.mp member)
  rw [splitAtLast?, turned, splitAtFirst?_append clear' marks]
  simp

theorem splitAtLast?_eq_none {list : List α} (clear : ∀ a ∈ list, cut a = false) :
    splitAtLast? cut list = none := by
  have clear' : ∀ a ∈ list.reverse, cut a = false :=
    fun a member => clear a (List.mem_reverse.mp member)
  rw [splitAtLast?, splitAtFirst?_eq_none clear']
  rfl

theorem clear_or_last (cut : α → Bool) (list : List α) :
    (∀ a ∈ list, cut a = false) ∨ ∃ before mark after,
      list = before ++ mark :: after ∧ cut mark = true ∧ ∀ a ∈ after, cut a = false := by
  induction list with
  | nil => exact .inl nofun
  | cons a rest ih =>
    rcases ih with clear | ⟨before, mark, after, rfl, marks, clear⟩
    · cases here : cut a with
      | true => exact .inr ⟨[], a, rest, rfl, here, clear⟩
      | false => exact .inl (List.forall_mem_cons.mpr ⟨here, clear⟩)
    · exact .inr ⟨a :: before, mark, after, rfl, marks, clear⟩

end Cuts

section Pieces

variable {α : Type} {cut : α → Bool}

theorem pieces_ne_nil (cut : α → Bool) (list : List α) : pieces cut list ≠ [] := by
  cases list with
  | nil => simp [pieces]
  | cons a rest =>
    rw [pieces]
    split
    · exact List.cons_ne_nil _ _
    · split <;> exact List.cons_ne_nil _ _

theorem pieces_append {mark : α} (marks : cut mark = true) (front rest : List α) :
    pieces cut (front ++ mark :: rest) = pieces cut front ++ pieces cut rest := by
  induction front with
  | nil => simp [pieces, marks]
  | cons a front ih =>
    rw [List.cons_append, pieces, pieces, ih]
    split
    · rfl
    · -- The first piece goes on into what stands before the mark.
      cases begun : pieces cut front with
      | nil => exact absurd begun (pieces_ne_nil cut front)
      | cons piece more => rfl

theorem pieces_of_clear {list : List α} (clear : ∀ a ∈ list, cut a = false) :
    pieces cut list = [list] := by
  induction list with
  | nil => rfl
  | cons a rest ih =>
    have here := clear a List.mem_cons_self
    have later := ih fun b member => clear b (List.mem_cons_of_mem _ member)
    simp [pieces, here, later]

theorem pieces_joined {mark : α} (marks : cut mark = true) {front : List α}
    (clear : ∀ a ∈ front, cut a = false) {parts : List (List α)}
    (clear' : ∀ part ∈ parts, ∀ a ∈ part, cut a = false) :
    pieces cut (front ++ parts.flatMap (mark :: ·)) = front :: parts := by
  induction parts generalizing front with
  | nil =>
    rw [List.flatMap_nil, List.append_nil]
    exact pieces_of_clear clear
  | cons part rest ih =>
    obtain ⟨here, later⟩ := List.forall_mem_cons.mp clear'
    rw [List.flatMap_cons, List.cons_append, pieces_append marks, pieces_of_clear clear,
      ih here later]
    rfl

theorem flatten_pieces (cut : α → Bool) (list : List α) :
    (pieces cut list).flatten = list.filter fun a => !cut a := by
  induction list with
  | nil => rfl
  | cons a rest ih =>
    rw [pieces]
    split
    · rename_i marks
      simp [marks, ih]
    · rename_i uncut
      cases begun : pieces cut rest with
      | nil => exact absurd begun (pieces_ne_nil cut rest)
      | cons piece more =>
        rw [begun] at ih
        simp [uncut, ← ih]

theorem clear_of_mem_pieces {list piece : List α} (member : piece ∈ pieces cut list) :
    ∀ a ∈ piece, cut a = false := by
  induction list generalizing piece with
  | nil =>
    intro a inside
    rw [pieces, List.mem_singleton] at member
    rw [member] at inside
    cases inside
  | cons first rest ih =>
    intro a inside
    rw [pieces] at member
    split at member
    · rcases List.mem_cons.mp member with empty | later
      · rw [empty] at inside
        cases inside
      · exact ih later a inside
    · rename_i uncut
      -- The element joins the first of the pieces that the rest falls into.
      cases begun : pieces cut rest with
      | nil => exact absurd begun (pieces_ne_nil cut rest)
      | cons other more =>
        rw [begun] at member ih
        rcases List.mem_cons.mp member with here | later
        · subst here
          rcases List.mem_cons.mp inside with same | behind
          · rw [same, Bool.eq_false_iff]
            exact uncut
          · exact ih List.mem_cons_self a behind
        · exact ih (List.mem_cons_of_mem _ later) a inside

end Pieces

section Marks

variable {α : Type} {first : α} {mark list : List α}

theorem prefix_of_lone (lone : first ∉ mark) {before rest : List α} (present : before ≠ [])
    (begins : first :: mark <+: before ++ (first :: mark ++ rest)) : first :: mark <+: before := by
  -- A mark whose first element does not come again in it cannot stand across the place where
  -- another one begins.
  obtain ⟨behind, same⟩ := begins
  rcases List.append_eq_append_iff.mp same with ⟨more, rfl, -⟩ | ⟨more, split, next⟩
  · exact List.prefix_append _ _
  · cases before with
    | nil => exact absurd rfl present
    | cons a before =>
      cases more with
      | nil =>
        rw [List.append_nil] at split
        exact split ▸ List.prefix_refl _
      | cons b more =>
        -- What goes over the end of `before` would begin the next mark, and with it `first`.
        obtain ⟨-, inner⟩ := List.cons_eq_cons.mp split
        obtain ⟨again, -⟩ := List.cons_eq_cons.mp next
        apply absurd _ lone
        rw [inner, again]
        simp

theorem unmarked_or_first (first : α) (mark list : List α) :
    ¬ first :: mark <:+: list ∨ ∃ before after,
      list = before ++ (first :: mark ++ after) ∧ ¬ first :: mark <:+: before := by
  induction list with
  | nil => simp
  | cons a rest ih =>
    by_cases here : first :: mark <+: a :: rest
    · obtain ⟨after, same⟩ := here
      exact .inr ⟨[], after, same.symm, by simp⟩
    · rcases ih with unmarked | ⟨before, after, rfl, clear⟩
      · left
        simp [List.infix_cons_iff, here, unmarked]
      · right
        refine ⟨a :: before, after, rfl, ?_⟩
        intro inside
        rcases List.infix_cons_iff.mp inside with begins | later
        · exact here (begins.trans (List.prefix_append (a :: before) _))
        · exact clear later

variable [BEq α] [LawfulBEq α]

theorem splitAtMark?_of_elsewhere {rest : List α} (other : ¬ mark <+: first :: rest) :
    splitAtMark? mark (first :: rest) =
      (splitAtMark? mark rest).map fun (before, after) => (first :: before, after) := by
  rw [splitAtMark?, if_neg (fun begins => other (List.isPrefixOf_iff_prefix.mp begins))]

theorem splitAtMark?_eq_none (unmarked : ¬ mark <:+: list) : splitAtMark? mark list = none := by
  induction list with
  | nil => rfl
  | cons first rest ih =>
    have here : ¬ mark <+: first :: rest := fun begins => unmarked begins.isInfix
    have later : ¬ mark <:+: rest := fun inside => unmarked (List.infix_cons inside)
    rw [splitAtMark?_of_elsewhere here, ih later]
    rfl

theorem splitAtMark?_append (lone : first ∉ mark) {before : List α}
    (clear : ¬ first :: mark <:+: before) (after : List α) :
    splitAtMark? (first :: mark) (before ++ (first :: mark ++ after)) = some (before, after) := by
  induction before with
  | nil => simp [splitAtMark?, List.isPrefixOf_iff_prefix]
  | cons a before ih =>
    have here : ¬ first :: mark <+: a :: (before ++ (first :: mark ++ after)) := by
      intro begins
      exact clear (prefix_of_lone lone (List.cons_ne_nil a before) begins).isInfix
    have later : ¬ first :: mark <:+: before := fun inside => clear (List.infix_cons inside)
    rw [List.cons_append, splitAtMark?_of_elsewhere here, ih later]
    rfl

end Marks

section Trims

variable {c : Char}

theorem trimStart_around (bare : isBlank c = false) (front behind : List Char) :
    trimStart (front ++ c :: behind) = trimStart front ++ c :: behind := by
  induction front with
  | nil => simp [trimStart, bare]
  | cons first rest ih =>
    simp only [trimStart, List.cons_append, List.dropWhile_cons] at ih ⊢
    split
    · exact ih
    · rfl

theorem trimEnd_around (bare : isBlank c = false) (front behind : List Char) :
    trimEnd (front ++ c :: behind) = front ++ c :: trimEnd behind := by
  have reversed := trimStart_around bare behind.reverse front.reverse
  simp only [trimStart] at reversed
  have turned : (front ++ c :: behind).reverse = behind.reverse ++ c :: front.reverse := by simp
  rw [trimEnd, turned, reversed, trimEnd]
  simp

theorem trim_around (bare : isBlank c = false) (front behind : List Char) :
    trim (front ++ c :: behind) = trimStart front ++ c :: trimEnd behind := by
  rw [trim, trimStart_around bare, trimEnd_around bare]

theorem trimStart_eq_nil_iff {text : List Char} :
    trimStart text = [] ↔ ∀ c ∈ text, isBlank c = true := by
  rw [trimStart, List.dropWhile_eq_nil_iff]

theorem trimEnd_eq_nil_iff {text : List Char} :
    trimEnd text = [] ↔ ∀ c ∈ text, isBlank c = true := by
  rw [trimEnd, List.reverse_eq_nil_iff, List.dropWhile_eq_nil_iff]
  simp only [List.mem_reverse]

theorem trimEnd_nil : trimEnd [] = [] := rfl

theorem blank_or_split (text : List Char) :
    (∀ c ∈ text, isBlank c = true) ∨
    ∃ front c behind, text = front ++ c :: behind ∧ (∀ d ∈ front, isBlank d = true) ∧
      isBlank c = false := by
  induction text with
  | nil => exact .inl nofun
  | cons first rest ih =>
    cases here : isBlank first with
    | false => exact .inr ⟨[], first, rest, rfl, nofun, here⟩
    | true =>
      rcases ih with blank | ⟨front, c, behind, rfl, blank, bare⟩
      · exact .inl (List.forall_mem_cons.mpr ⟨here, blank⟩)
      · exact .inr ⟨first :: front, c, behind, rfl, List.forall_mem_cons.mpr ⟨here, blank⟩, bare⟩

theorem trim_eq_nil_iff {text : List Char} : trim text = [] ↔ ∀ c ∈ text, isBlank c = true := by
  rcases blank_or_split text with blank | ⟨front, c, behind, rfl, -, bare⟩
  · rw [trim, trimStart_eq_nil_iff.mpr blank, trimEnd_nil]
    exact ⟨fun _ => blank, fun _ => rfl⟩
  · rw [trim_around bare]
    constructor
    · intro empty
      simp at empty
    · intro blank
      have wrong := blank c (by simp)
      rw [bare] at wrong
      cases wrong

theorem trimStart_trimStart (text : List Char) : trimStart (trimStart text) = trimStart text := by
  rcases blank_or_split text with blank | ⟨front, c, behind, rfl, blank, bare⟩
  · rw [trimStart_eq_nil_iff.mpr blank]
    rfl
  · rw [trimStart_around bare, trimStart_eq_nil_iff.mpr blank]
    exact trimStart_around bare [] behind

theorem trim_trimStart (text : List Char) : trim (trimStart text) = trim text := by
  rw [trim, trimStart_trimStart, trim]

theorem trimEnd_trimEnd (text : List Char) : trimEnd (trimEnd text) = trimEnd text := by
  have reversed := trimStart_trimStart text.reverse
  simp only [trimStart] at reversed
  simp only [trimEnd, List.reverse_reverse, reversed]

theorem trim_trimEnd (text : List Char) : trim (trimEnd text) = trim text := by
  rcases blank_or_split text with blank | ⟨front, c, behind, rfl, -, bare⟩
  · rw [trimEnd_eq_nil_iff.mpr blank, trim_eq_nil_iff.mpr blank]
    rfl
  · rw [trimEnd_around bare, trim_around bare, trim_around bare, trimEnd_trimEnd]

theorem mem_of_mem_trim {text : List Char} (member : c ∈ trim text) : c ∈ text := by
  rw [trim, trimEnd, List.mem_reverse] at member
  have inner := (List.dropWhile_sublist isBlank).subset member
  rw [List.mem_reverse] at inner
  exact (List.dropWhile_sublist isBlank).subset inner

end Trims

end WorkspaceServers.Text
