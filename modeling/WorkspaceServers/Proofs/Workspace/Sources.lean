import WorkspaceServers.Workspace.Storage

/-!
Where the base of the storage comes from. The first source that gives a base is the one that
counts. If its base will not do there is no storage, whatever the other sources give.
-/

namespace WorkspaceServers.Workspace.Storage

inductive Chosen (override configured fallback : Option Path) : Path → Prop
  | overridden {base : Path} (given : override = some base) (present : base ≠ []) :
      Chosen override configured fallback base
  | configured {base : Path} (unset : override = none ∨ override = some [])
      (given : configured = some base) : Chosen override configured fallback base
  | fallenBack {base : Path} (unset : override = none ∨ override = some [])
      (unconfigured : configured = none) (given : fallback = some base) :
      Chosen override configured fallback base

structure Resolves (override configured fallback : Option Path) (appGroup : String)
    (outcome : Except StorageError Storage) : Prop where
  ok_iff : ∀ storage, outcome = .ok storage ↔
    Chosen override configured fallback storage.base ∧ storage.appGroup = appGroup
  notAbsolute_iff : ∀ base, outcome = .error (.notAbsolute base) ↔
    Chosen override configured fallback base ∧ base.isAbsolute = false
  unresolved_iff : outcome = .error .unresolved ↔
    ∀ base, ¬ Chosen override configured fallback base

variable {override configured fallback : Option Path} {base : Path} {appGroup : String}

section Choice

theorem chooseBase?_of_present (present : base ≠ []) (configured fallback : Option Path) :
    chooseBase? (some base) configured fallback = some base := by
  simp [chooseBase?, present]

theorem chooseBase?_of_unset (unset : override = none ∨ override = some [])
    (configured fallback : Option Path) :
    chooseBase? override configured fallback = configured.or fallback := by
  rcases unset with rfl | rfl <;> rfl

theorem unset_or_present (override : Option Path) :
    (override = none ∨ override = some []) ∨ ∃ base, override = some base ∧ base ≠ [] := by
  cases override with
  | none => exact .inl (.inl rfl)
  | some base =>
    by_cases empty : base = []
    · exact .inl (.inr (congrArg some empty))
    · exact .inr ⟨base, rfl, empty⟩

theorem chooseBase?_eq_some_iff :
    chooseBase? override configured fallback = some base ↔
      Chosen override configured fallback base := by
  constructor
  · intro chosen
    rcases unset_or_present override with unset | ⟨given, rfl, present⟩
    · rw [chooseBase?_of_unset unset] at chosen
      cases configured with
      | none => exact .fallenBack unset rfl chosen
      | some given => exact .configured unset chosen
    · rw [chooseBase?_of_present present] at chosen
      cases chosen
      exact .overridden rfl present
  · intro chosen
    cases chosen with
    | overridden given present => rw [given, chooseBase?_of_present present]
    | configured unset given =>
      rw [chooseBase?_of_unset unset, given]
      rfl
    | fallenBack unset unconfigured given =>
      rw [chooseBase?_of_unset unset, unconfigured, given]
      rfl

theorem Chosen.unique {other : Path} (chosen : Chosen override configured fallback base)
    (chosen' : Chosen override configured fallback other) : base = other := by
  rw [← chooseBase?_eq_some_iff] at chosen chosen'
  rw [chosen] at chosen'
  exact Option.some.inj chosen'

end Choice

section Bases

theorem ofBase_eq_ok_iff {storage : Storage} :
    ofBase base appGroup = .ok storage ↔ storage.base = base ∧ storage.appGroup = appGroup := by
  unfold ofBase
  constructor
  · intro made
    split at made
    · cases made
      exact ⟨rfl, rfl⟩
    · cases made
  · rintro ⟨rfl, rfl⟩
    rw [dif_pos storage.absolute]

theorem ofBase_eq_notAbsolute_iff {other : Path} :
    ofBase base appGroup = .error (.notAbsolute other) ↔
      base = other ∧ base.isAbsolute = false := by
  unfold ofBase
  constructor
  · intro failed
    split at failed
    · cases failed
    · rename_i relative
      cases failed
      exact ⟨rfl, eq_false_of_ne_true relative⟩
  · rintro ⟨rfl, relative⟩
    rw [dif_neg (Bool.eq_false_iff.mp relative)]

theorem ofBase_ne_unresolved : ofBase base appGroup ≠ .error .unresolved := by
  unfold ofBase
  split <;> exact nofun

end Bases

theorem resolves_of_unchosen (nothing : ∀ base, ¬ Chosen override configured fallback base) :
    Resolves override configured fallback appGroup (.error .unresolved) := by
  constructor
  · intro storage
    constructor
    · exact nofun
    · rintro ⟨chosen, -⟩
      exact absurd chosen (nothing _)
  · intro base
    constructor
    · exact nofun
    · rintro ⟨chosen, -⟩
      exact absurd chosen (nothing base)
  · constructor
    · intro _
      exact nothing
    · intro _
      rfl

theorem resolves_of_chosen (chosen : Chosen override configured fallback base) :
    Resolves override configured fallback appGroup (ofBase base appGroup) := by
  constructor
  · intro storage
    rw [ofBase_eq_ok_iff]
    apply and_congr_left'
    constructor
    · rintro rfl
      exact chosen
    · intro chosen'
      exact chosen'.unique chosen
  · intro other
    rw [ofBase_eq_notAbsolute_iff]
    constructor
    · rintro ⟨rfl, relative⟩
      exact ⟨chosen, relative⟩
    · rintro ⟨chosen', relative⟩
      cases chosen.unique chosen'
      exact ⟨rfl, relative⟩
  · constructor
    · intro failed
      exact absurd failed ofBase_ne_unresolved
    · intro nothing
      exact absurd chosen (nothing base)

theorem resolves (override configured fallback : Option Path) (appGroup : String) :
    Resolves override configured fallback appGroup
      (resolve override configured fallback appGroup) := by
  unfold resolve
  cases choice : chooseBase? override configured fallback with
  | none =>
    apply resolves_of_unchosen
    intro base chosen
    rw [chooseBase?_eq_some_iff.mpr chosen] at choice
    cases choice
  | some base => exact resolves_of_chosen (chooseBase?_eq_some_iff.mp choice)

/-- A relative override is not passed over for the sake of an absolute base behind it. -/
example (appGroup : String) :
    resolve (some (.ofString "srv")) (some (.ofString "/srv")) none appGroup =
      .error (.notAbsolute (.ofString "srv")) :=
  ((resolves _ _ _ appGroup).notAbsolute_iff _).mpr ⟨.overridden rfl (by decide), by decide⟩

end WorkspaceServers.Workspace.Storage
