import WorkspaceServers.Keyed.Basic

/-!
Maps seen through look-up: what writing and erasing do to every key, and that two maps in
which every key finds the same are one map.
-/

namespace WorkspaceServers.Keyed

variable {κ α : Type} [DecidableEq κ]

theorem find?_insert [LT κ] [DecidableLT κ] (key other : κ) (value : α) (entries : Keyed κ α) :
    find? other (insert key value entries) =
      if key = other then some value else find? other entries := by
  induction entries with
  | nil => simp only [insert, find?]
  | cons first rest ih =>
    rw [insert]
    split
    · rename_i same
      subst same
      simp only [find?]
      split <;> rfl
    · rename_i different
      split
      · simp only [find?]
      · simp only [find?, ih]
        split
        · rename_i found
          rw [if_neg fun same => different (found.trans same.symm)]
        · rfl

theorem mem_of_find?_eq_some {entries : Keyed κ α} {key : κ} {value : α}
    (found : find? key entries = some value) : (key, value) ∈ entries := by
  induction entries with
  | nil => cases found
  | cons first rest ih =>
    rw [find?] at found
    split at found
    · rename_i same
      exact List.mem_cons.mpr (.inl (Prod.ext same.symm (Option.some.inj found).symm))
    · exact List.mem_cons_of_mem _ (ih found)

theorem find?_eq_some_iff_of_nodup {entries : Keyed κ α}
    (distinct : (entries.map Prod.fst).Nodup) {key : κ} {value : α} :
    find? key entries = some value ↔ (key, value) ∈ entries := by
  induction entries with
  | nil => simp only [find?, List.not_mem_nil, reduceCtorEq]
  | cons first rest ih =>
    obtain ⟨fresh, others⟩ := List.nodup_cons.mp distinct
    rw [find?, List.mem_cons]
    split
    · rename_i same
      subst same
      constructor
      · intro found
        exact .inl (Prod.ext rfl (Option.some.inj found).symm)
      · rintro (same | later)
        · exact congrArg (some ∘ Prod.snd) same.symm
        · exact absurd (List.mem_map_of_mem later) fresh
    · rename_i different
      rw [ih others]
      constructor
      · exact .inr
      · rintro (same | later)
        · exact absurd (congrArg Prod.fst same).symm different
        · exact later

omit [DecidableEq κ] in
theorem nodup_keys [LT κ] [LE κ] [Std.LawfulOrderLT κ] [Std.IsLinearOrder κ]
    {entries : Keyed κ α} (ascending : Ascending entries) : (entries.map Prod.fst).Nodup :=
  List.pairwise_map.mpr (ascending.imp fun less => Std.ne_of_lt less)

theorem find?_eq_some_iff_mem [LT κ] [LE κ] [Std.LawfulOrderLT κ] [Std.IsLinearOrder κ]
    {entries : Keyed κ α} (ascending : Ascending entries) {key : κ} {value : α} :
    find? key entries = some value ↔ (key, value) ∈ entries :=
  find?_eq_some_iff_of_nodup (nodup_keys ascending)

theorem find?_eq_none_iff {entries : Keyed κ α} {key : κ} :
    find? key entries = none ↔ ∀ entry ∈ entries, entry.1 ≠ key := by
  induction entries with
  | nil => simp only [find?, List.not_mem_nil, false_implies, implies_true]
  | cons first rest ih =>
    rw [find?, List.forall_mem_cons]
    split
    · rename_i same
      simp only [reduceCtorEq, same, ne_eq, not_true_eq_false, false_and]
    · rename_i different
      simp only [ih, ne_eq, different, not_false_eq_true, true_and]

theorem find?_erase [LT κ] [LE κ] [Std.LawfulOrderLT κ] [Std.IsLinearOrder κ]
    {entries : Keyed κ α} (ascending : Ascending entries) (key other : κ) :
    find? other (erase key entries) = if key = other then none else find? other entries := by
  induction entries with
  | nil => simp only [erase, find?, ite_self]
  | cons first rest ih =>
    obtain ⟨above, tail⟩ := List.pairwise_cons.mp ascending
    rw [erase]
    split
    · rename_i same
      subst same
      simp only [find?]
      split
      · rename_i same
        subst same
        refine find?_eq_none_iff.mpr fun entry member same => ?_
        exact Std.lt_irrefl (same ▸ above entry member)
      · rfl
    · rename_i different
      simp only [find?, ih tail]
      split
      · rename_i found
        rw [if_neg fun same => different (found.trans same.symm)]
      · rfl

theorem erase_of_find?_eq_none {entries : Keyed κ α} {key : κ} (absent : find? key entries = none) :
    erase key entries = entries := by
  induction entries with
  | nil => rfl
  | cons first rest ih =>
    rw [find?] at absent
    split at absent
    · cases absent
    · rename_i different
      rw [erase, if_neg different, ih absent]

theorem filterMap_key {β : Type} [LT κ] [LE κ] [Std.LawfulOrderLT κ] [Std.IsLinearOrder κ]
    {entries : Keyed κ α} (ascending : Ascending entries) (key : κ) (read : α → β) :
    (entries.filterMap fun entry => if entry.1 = key then some (read entry.2) else none) =
      ((find? key entries).map read).toList := by
  induction entries with
  | nil => rfl
  | cons first rest ih =>
    obtain ⟨above, tail⟩ := List.pairwise_cons.mp ascending
    by_cases same : first.1 = key
    · have others : find? key rest = none := by
        apply find?_eq_none_iff.mpr
        intro entry member equal
        have less := above entry member
        rw [equal, same] at less
        exact Std.lt_irrefl less
      simp [find?, same, ih tail, others]
    · simp [find?, same, ih tail]

theorem insert_of_above [LT κ] [LE κ] [DecidableLT κ] [Std.LawfulOrderLT κ] [Std.IsLinearOrder κ]
    {key : κ} {value : α} {entries : Keyed κ α} (above : ∀ entry ∈ entries, entry.1 < key) :
    insert key value entries = entries ++ [(key, value)] := by
  induction entries with
  | nil => rfl
  | cons first rest ih =>
    have less := above first List.mem_cons_self
    have later := ih fun entry member => above entry (List.mem_cons_of_mem _ member)
    rw [insert, if_neg (Std.ne_of_lt less), if_neg (Std.not_lt.mpr (Std.le_of_lt less)), later]
    rfl

theorem insertAll_of_ascending [LT κ] [LE κ] [DecidableLT κ] [Std.LawfulOrderLT κ]
    [Std.IsLinearOrder κ] {pairs entries : Keyed κ α} (ascending : Ascending (entries ++ pairs)) :
    insertAll pairs entries = entries ++ pairs := by
  induction pairs generalizing entries with
  | nil => exact (List.append_nil entries).symm
  | cons pair rest ih =>
    have above : ∀ entry ∈ entries, entry.1 < pair.1 := fun entry member =>
      (List.pairwise_append.mp ascending).2.2 entry member pair List.mem_cons_self
    have moved : entries ++ pair :: rest = entries ++ [(pair.1, pair.2)] ++ rest := by simp
    rw [moved] at ascending ⊢
    rw [← ih ascending, ← insert_of_above above]
    rfl

theorem find?_append (key : κ) (first second : Keyed κ α) :
    find? key (first ++ second) = (find? key first).or (find? key second) := by
  induction first with
  | nil => rfl
  | cons entry rest ih =>
    simp only [List.cons_append, find?, ih]
    split <;> rfl

theorem find?_reverse {entries : Keyed κ α} (distinct : (entries.map Prod.fst).Nodup) (key : κ) :
    find? key entries.reverse = find? key entries := by
  have reversed : (entries.reverse.map Prod.fst).Nodup := by
    rw [List.map_reverse]
    exact List.pairwise_reverse.mpr (distinct.imp Ne.symm)
  apply Option.ext
  intro value
  rw [find?_eq_some_iff_of_nodup reversed, find?_eq_some_iff_of_nodup distinct, List.mem_reverse]

theorem find?_filter (key : κ) (kept : κ → Bool) (entries : Keyed κ α) :
    find? key (entries.filter fun entry => kept entry.1) =
      if kept key then find? key entries else none := by
  induction entries with
  | nil => simp only [List.filter_nil, find?, ite_self]
  | cons first rest ih =>
    rw [List.filter_cons]
    by_cases same : first.1 = key
    · subst same
      split
      · simp only [find?, if_true]
      · rename_i dropped
        rw [ih, if_neg dropped]
    · split <;> simp only [find?, if_neg same, ih]

theorem find?_insertAll [LT κ] [DecidableLT κ] (key : κ) (pairs : List (κ × α))
    (entries : Keyed κ α) :
    find? key (insertAll pairs entries) = (find? key pairs.reverse).or (find? key entries) := by
  induction pairs generalizing entries with
  | nil => rfl
  | cons pair rest ih =>
    have written : insertAll (pair :: rest) entries =
        insertAll rest (insert pair.1 pair.2 entries) := rfl
    rw [written, ih, List.reverse_cons, find?_append, find?_insert, Option.or_assoc]
    simp only [find?]
    split <;> rfl

theorem find?_ofList [LT κ] [DecidableLT κ] (key : κ) (pairs : List (κ × α)) :
    find? key (ofList pairs) = find? key pairs.reverse := by
  rw [ofList, find?_insertAll]
  exact Option.or_none

theorem ofList_of_ascending [LT κ] [LE κ] [DecidableLT κ] [Std.LawfulOrderLT κ]
    [Std.IsLinearOrder κ] {entries : Keyed κ α} (ascending : Ascending entries) :
    ofList entries = entries :=
  insertAll_of_ascending ascending

omit [DecidableEq κ] in
theorem eq_of_mem_iff [LT κ] [LE κ] [Std.LawfulOrderLT κ] [Std.IsLinearOrder κ]
    {first second : Keyed κ α} (ascending : Ascending first) (ascending' : Ascending second)
    (same : ∀ entry, entry ∈ first ↔ entry ∈ second) : first = second := by
  induction first generalizing second with
  | nil =>
    cases second with
    | nil => rfl
    | cons entry rest => exact absurd ((same entry).mpr List.mem_cons_self) List.not_mem_nil
  | cons entry rest ih =>
    cases second with
    | nil => exact absurd ((same entry).mp List.mem_cons_self) List.not_mem_nil
    | cons entry' rest' =>
      obtain ⟨above, tail⟩ := List.pairwise_cons.mp ascending
      obtain ⟨above', tail'⟩ := List.pairwise_cons.mp ascending'
      have heads : entry = entry' := by
        rcases List.mem_cons.mp ((same entry).mp List.mem_cons_self) with equal | later
        · exact equal
        · rcases List.mem_cons.mp ((same entry').mpr List.mem_cons_self) with equal | later'
          · exact equal.symm
          · exact absurd (Std.lt_trans (above' entry later) (above entry' later')) Std.lt_irrefl
      subst heads
      refine congrArg (entry :: ·) (ih tail tail' fun other => ⟨fun member => ?_, fun member => ?_⟩)
      · have found := (same other).mp (List.mem_cons_of_mem _ member)
        rcases List.mem_cons.mp found with equal | later
        · exact absurd (equal ▸ above other member) Std.lt_irrefl
        · exact later
      · have found := (same other).mpr (List.mem_cons_of_mem _ member)
        rcases List.mem_cons.mp found with equal | later
        · exact absurd (equal ▸ above' other member) Std.lt_irrefl
        · exact later

theorem eq_of_find?_eq [LT κ] [LE κ] [Std.LawfulOrderLT κ] [Std.IsLinearOrder κ]
    {first second : Keyed κ α} (ascending : Ascending first) (ascending' : Ascending second)
    (same : ∀ key, find? key first = find? key second) : first = second :=
  eq_of_mem_iff ascending ascending' fun entry => by
    rw [← find?_eq_some_iff_mem ascending, ← find?_eq_some_iff_mem ascending', same]

end WorkspaceServers.Keyed
