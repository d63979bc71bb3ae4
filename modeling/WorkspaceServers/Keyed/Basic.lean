/-!
Finite maps as lists of pairs in ascending order of their keys. Every map has one
such list, so equality of lists is equality of maps, and the order in which entries
were written leaves no trace.
-/

namespace WorkspaceServers

abbrev Keyed (κ α : Type) := List (κ × α)

namespace Keyed

variable {κ α : Type} [DecidableEq κ]

def find? (key : κ) : Keyed κ α → Option α
  | [] => none
  | entry :: rest => if entry.1 = key then some entry.2 else find? key rest

def contains (key : κ) (entries : Keyed κ α) : Bool := (find? key entries).isSome

def insert [LT κ] [DecidableLT κ] (key : κ) (value : α) : Keyed κ α → Keyed κ α
  | [] => [(key, value)]
  | entry :: rest =>
    if entry.1 = key then (key, value) :: rest
    else if key < entry.1 then (key, value) :: entry :: rest
    else entry :: insert key value rest

def erase (key : κ) : Keyed κ α → Keyed κ α
  | [] => []
  | entry :: rest => if entry.1 = key then rest else entry :: erase key rest

def insertAll [LT κ] [DecidableLT κ] (pairs : List (κ × α)) (entries : Keyed κ α) : Keyed κ α :=
  pairs.foldl (fun entries pair => insert pair.1 pair.2 entries) entries

def ofList [LT κ] [DecidableLT κ] (pairs : List (κ × α)) : Keyed κ α := insertAll pairs []

def Ascending [LT κ] (entries : Keyed κ α) : Prop :=
  entries.Pairwise fun first second => first.1 < second.1

section Order

variable [LT κ] [DecidableLT κ]

theorem fst_of_mem_insert {key : κ} {value : α} {entries : Keyed κ α} {entry : κ × α}
    (member : entry ∈ insert key value entries) : entry.1 = key ∨ entry ∈ entries := by
  induction entries with
  | nil =>
    rw [insert, List.mem_singleton] at member
    exact .inl (congrArg Prod.fst member)
  | cons first rest ih =>
    rw [insert] at member
    split at member
    · rcases List.mem_cons.mp member with same | later
      · exact .inl (congrArg Prod.fst same)
      · exact .inr (List.mem_cons_of_mem _ later)
    · split at member
      · rcases List.mem_cons.mp member with same | later
        · exact .inl (congrArg Prod.fst same)
        · exact .inr later
      · rcases List.mem_cons.mp member with same | later
        · exact .inr (same ▸ List.mem_cons_self)
        · exact (ih later).imp_right (List.mem_cons_of_mem _)

theorem ascending_insert [LE κ] [Std.LawfulOrderLT κ] [Std.IsLinearOrder κ] {entries : Keyed κ α}
    (key : κ) (value : α) (ascending : Ascending entries) :
    Ascending (insert key value entries) := by
  induction entries with
  | nil => exact List.pairwise_singleton _ _
  | cons first rest ih =>
    obtain ⟨above, tail⟩ := List.pairwise_cons.mp ascending
    rw [insert]
    split
    · rename_i same
      exact List.pairwise_cons.mpr ⟨fun entry member => same ▸ above entry member, tail⟩
    · rename_i different
      split
      · rename_i less
        refine List.pairwise_cons.mpr ⟨fun entry member => ?_, ascending⟩
        rcases List.mem_cons.mp member with same | later
        · exact same ▸ less
        · exact Std.lt_trans less (above entry later)
      · rename_i notLess
        refine List.pairwise_cons.mpr ⟨fun entry member => ?_, ih tail⟩
        rcases fst_of_mem_insert member with same | old
        · exact same ▸ Std.lt_of_le_of_ne (Std.not_lt.mp notLess) different
        · exact above entry old

theorem ascending_insertAll [LE κ] [Std.LawfulOrderLT κ] [Std.IsLinearOrder κ]
    (pairs : List (κ × α)) {entries : Keyed κ α} (ascending : Ascending entries) :
    Ascending (insertAll pairs entries) := by
  induction pairs generalizing entries with
  | nil => exact ascending
  | cons pair rest ih => exact ih (ascending_insert pair.1 pair.2 ascending)

theorem ascending_ofList [LE κ] [Std.LawfulOrderLT κ] [Std.IsLinearOrder κ]
    (pairs : List (κ × α)) : Ascending (ofList pairs) :=
  ascending_insertAll pairs List.Pairwise.nil

end Order

theorem erase_sublist (key : κ) (entries : Keyed κ α) : (erase key entries).Sublist entries := by
  induction entries with
  | nil => exact List.Sublist.refl _
  | cons first rest ih =>
    rw [erase]
    split
    · exact List.sublist_cons_self _ _
    · exact ih.cons_cons first

theorem ascending_erase [LT κ] {entries : Keyed κ α} (key : κ) (ascending : Ascending entries) :
    Ascending (erase key entries) :=
  ascending.sublist (erase_sublist key entries)

end Keyed

end WorkspaceServers
