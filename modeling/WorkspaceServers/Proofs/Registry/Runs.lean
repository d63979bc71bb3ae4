import WorkspaceServers.Proofs.Registry.Operations

/-!
Runs of a registry. Three things carry what is true of them: every stored session belongs
to its key, a stored session stays until its key is forgotten, and a session that has left
the map never comes back into it.
-/

namespace WorkspaceServers.Registry

open Workspace (Key Identity)

variable {machine : Launch.Machine} {registry : Registry} {events : List Event} {event : Event}
variable {key : Key} {number : Nat}

theorem run_append (machine : Launch.Machine) (registry : Registry) (past since : List Event) :
    registry.run machine (past ++ since) =
      (((registry.run machine past).1.run machine since).1,
        (registry.run machine past).2 ++ ((registry.run machine past).1.run machine since).2) := by
  induction past generalizing registry with
  | nil => rfl
  | cons event past ih =>
    simp only [List.cons_append, run, ih]

theorem length_answers (machine : Launch.Machine) (registry : Registry) (events : List Event) :
    (registry.run machine events).2.length = events.length := by
  induction events generalizing registry with
  | nil => rfl
  | cons event rest ih => exact congrArg (· + 1) (ih _)

theorem answer_at (machine : Launch.Machine) (registry : Registry) (past : List Event)
    (event : Event) (since : List Event) :
    (registry.run machine (past ++ event :: since)).2[past.length]? =
      some ((registry.run machine past).1.step machine event).2 := by
  rw [run_append, List.getElem?_append_right (Nat.le_of_eq (length_answers ..)),
    length_answers, Nat.sub_self]
  rfl

theorem getElem?_of_prefix {α : Type} {before after : List α} {value : α}
    (grown : before <+: after) (stands : before[number]? = some value) :
    after[number]? = some value := by
  obtain ⟨new, rfl⟩ := grown
  rw [List.getElem?_append_left (List.getElem?_eq_some_iff.mp stands).1, stands]

theorem owners_run (machine : Launch.Machine) (registry : Registry) (events : List Event) :
    registry.owners <+: (registry.run machine events).1.owners := by
  induction events generalizing registry with
  | nil => exact List.prefix_refl _
  | cons event rest ih => exact (owners_step machine registry event).trans (ih _)

theorem settings_run (machine : Launch.Machine) (registry : Registry) (events : List Event) :
    (registry.run machine events).1.storage = registry.storage ∧
      (registry.run machine events).1.options = registry.options := by
  induction events generalizing registry with
  | nil => exact ⟨rfl, rfl⟩
  | cons event rest ih =>
    obtain ⟨storage, options⟩ := settings_step machine registry event
    exact ⟨(ih _).1.trans storage, (ih _).2.trans options⟩

/-- What every operation keeps. -/
structure Sound (registry : Registry) : Prop where
  single : registry.keys.Nodup
  owned : ∀ key number, registry.find? key = some number →
    ∃ identity, registry.owners[number]? = some identity ∧ identity.key = key
  rooted : ∀ session ∈ registry.sessions,
    session.root = registry.storage.documentRoot session.identity

theorem sound_create (storage : Workspace.Storage) (options : Session.Options) :
    Sound (create storage options) where
  single := .nil
  owned _ _ stored := by cases stored
  rooted _ member := by cases member

namespace Sound

theorem number_lt (sound : Sound registry) (stored : registry.find? key = some number) :
    number < registry.sessions.length := by
  obtain ⟨identity, own, -⟩ := sound.owned key number stored
  rw [← length_owners]
  exact (List.getElem?_eq_some_iff.mp own).1

theorem key_unique (sound : Sound registry) {other : Key}
    (stored : registry.find? key = some number) (beside : registry.find? other = some number) :
    key = other := by
  obtain ⟨identity, own, rfl⟩ := sound.owned key number stored
  obtain ⟨identity', own', rfl⟩ := sound.owned other number beside
  rw [own] at own'
  exact congrArg Identity.key (Option.some.inj own')

theorem single_step (sound : Sound registry) : (registry.step machine event).1.keys.Nodup := by
  cases event with
  | getOrCreate identity =>
    show (registry.getOrCreate identity).1.keys.Nodup
    cases stored : registry.find? identity.key with
    | some number => rw [getOrCreate_of_stored stored]; exact sound.single
    | none =>
      rw [getOrCreate_of_absent stored]
      have new : identity.key ∉ registry.keys := by simp [mem_keys_iff, stored]
      simp only [keys, List.map_append, List.map_cons, List.map_nil]
      refine List.nodup_append.mpr ⟨sound.single, List.pairwise_singleton _ _, ?_⟩
      rintro key member _ last rfl
      exact new (List.mem_singleton.mp last ▸ member)
  | get resource slug => exact sound.single
  | remove resource slug => exact (keys_remove registry resource slug).nodup sound.single
  | drain => exact .nil
  | session number event =>
    simp only [step]
    split <;> exact sound.single

theorem owned_step (sound : Sound registry)
    (found : (registry.step machine event).1.find? key = some number) :
    ∃ identity, (registry.step machine event).1.owners[number]? = some identity ∧
      identity.key = key := by
  rcases stored_before_or_made found with ⟨stored, -⟩ | ⟨absent, rfl, identity, rfl, rfl⟩
  · obtain ⟨identity, own, same⟩ := sound.owned key number stored
    exact ⟨identity, getElem?_of_prefix (owners_step machine registry event) own, same⟩
  · refine ⟨identity, ?_, rfl⟩
    show (registry.getOrCreate identity).1.owners[registry.sessions.length]? = some identity
    rw [owners_of_absent absent, ← length_owners]
    exact List.getElem?_concat_length

theorem rooted_step (sound : Sound registry) :
    ∀ session ∈ (registry.step machine event).1.sessions,
      session.root = registry.storage.documentRoot session.identity := by
  cases event with
  | getOrCreate identity =>
    show ∀ session ∈ (registry.getOrCreate identity).1.sessions, _
    cases stored : registry.find? identity.key with
    | some number => rw [getOrCreate_of_stored stored]; exact sound.rooted
    | none =>
      rw [getOrCreate_of_absent stored]
      intro session member
      rcases List.mem_append.mp member with old | new
      · exact sound.rooted session old
      · rw [List.mem_singleton.mp new]; rfl
  | get _ _ | remove _ _ | drain => exact sound.rooted
  | session number event =>
    -- An event of a session changes its lifecycle, and neither root nor identity.
    simp only [step, session?]
    cases found : registry.sessions[number]? with
    | none => exact sound.rooted
    | some session =>
      intro later member
      rcases List.mem_or_eq_of_mem_set member with old | rfl
      · exact sound.rooted later old
      · obtain ⟨lifecycle, moved, -⟩ := session.moves_step machine event
        rw [moved]
        exact sound.rooted session (List.mem_of_getElem? found)

theorem step (sound : Sound registry) (machine : Launch.Machine) (event : Event) :
    Sound (registry.step machine event).1 where
  single := sound.single_step
  owned _ _ found := sound.owned_step found
  rooted := (settings_step machine registry event).1 ▸ sound.rooted_step

theorem run (sound : Sound registry) (machine : Launch.Machine) (events : List Event) :
    Sound (registry.run machine events).1 := by
  induction events generalizing registry with
  | nil => exact sound
  | cons event rest ih => exact ih (sound.step machine event)

theorem answers_lt (sound : Sound registry)
    (answered : some number ∈ (registry.run machine events).2) :
    number < (registry.run machine events).1.sessions.length := by
  induction events generalizing registry with
  | nil => cases answered
  | cons event rest ih =>
    rcases List.mem_cons.mp answered with now | later
    · have below := answer_lt (fun _ _ => sound.number_lt) now.symm
      rw [← length_owners] at below ⊢
      exact Nat.lt_of_lt_of_le below (owners_run machine _ rest).length_le
    · exact ih (sound.step machine event) later

end Sound

theorem find?_run_of_spared (stored : registry.find? key = some number)
    (spared : ∀ event ∈ events, ¬event.Forgets key) :
    (registry.run machine events).1.find? key = some number := by
  induction events generalizing registry with
  | nil => exact stored
  | cons event rest ih =>
    obtain ⟨now, later⟩ := List.forall_mem_cons.mp spared
    exact ih (find?_step_of_stored stored now) later

structure Retired (registry : Registry) (number : Nat) : Prop where
  known : number < registry.sessions.length
  unstored : ∀ key, registry.find? key ≠ some number

namespace Retired

theorem step (retired : Retired registry number) (machine : Launch.Machine) (event : Event) :
    Retired (registry.step machine event).1 number where
  known := by
    have grown := (owners_step machine registry event).length_le
    rw [length_owners, length_owners] at grown
    exact Nat.lt_of_lt_of_le retired.known grown
  unstored key found := by
    rcases stored_before_or_made found with ⟨stored, -⟩ | ⟨-, new, -⟩
    · exact retired.unstored key stored
    · exact absurd retired.known (by omega)

theorem run (retired : Retired registry number) (machine : Launch.Machine)
    (events : List Event) : Retired (registry.run machine events).1 number := by
  induction events generalizing registry with
  | nil => exact retired
  | cons event rest ih => exact ih (retired.step machine event)

theorem getOrCreate_ne (retired : Retired registry number) (identity : Identity) :
    (registry.getOrCreate identity).2 ≠ number := by
  cases stored : registry.find? identity.key with
  | some other =>
    rw [getOrCreate_of_stored stored]
    rintro rfl
    exact retired.unstored _ stored
  | none =>
    rw [getOrCreate_of_absent stored]
    exact Nat.ne_of_gt retired.known

end Retired

theorem Sound.retired_of_forgets (sound : Sound registry)
    (stored : registry.find? key = some number) (forgets : event.Forgets key) :
    Retired (registry.step machine event).1 number where
  known := by
    have below := sound.number_lt stored
    rw [← length_owners] at below ⊢
    exact Nat.lt_of_lt_of_le below (owners_step machine registry event).length_le
  unstored other found := by
    rcases stored_before_or_made found with ⟨before, keeps⟩ | ⟨-, new, -⟩
    · exact keeps (sound.key_unique stored before ▸ forgets)
    · exact absurd (sound.number_lt stored) (by omega)

theorem Sound.retired_of_forgotten (sound : Sound registry)
    (stored : registry.find? key = some number)
    (forgotten : ∃ event ∈ events, event.Forgets key) :
    Retired (registry.run machine events).1 number := by
  induction events generalizing registry with
  | nil =>
    obtain ⟨event, member, -⟩ := forgotten
    cases member
  | cons event rest ih =>
    by_cases now : event.Forgets key
    · exact (sound.retired_of_forgets stored now).run machine rest
    · obtain ⟨later, member, forgets⟩ := forgotten
      rcases List.mem_cons.mp member with rfl | member
      · exact absurd forgets now
      · exact ih (sound.step machine event) (find?_step_of_stored stored now)
          ⟨later, member, forgets⟩

/-- The session was made for the identity, at a call that found nothing under its key, and
the key has not been forgotten since. -/
structure Founded (machine : Launch.Machine) (registry : Registry) (key : Key) (number : Nat)
    (past : List Event) (identity : Identity) (since : List Event) : Prop where
  key_eq : identity.key = key
  absent : (registry.run machine past).1.find? key = none
  made : ((registry.run machine past).1.getOrCreate identity).2 = number
  spared : ∀ event ∈ since, ¬event.Forgets key

theorem stored_or_founded (found : (registry.run machine events).1.find? key = some number) :
    (registry.find? key = some number ∧ ∀ event ∈ events, ¬event.Forgets key) ∨
      ∃ past identity since, events = past ++ .getOrCreate identity :: since ∧
        Founded machine registry key number past identity since := by
  induction events generalizing registry with
  | nil => exact .inl ⟨found, nofun⟩
  | cons event rest ih =>
    rcases ih found with ⟨stored, spared⟩ | ⟨past, identity, since, rfl, founded⟩
    · rcases stored_before_or_made stored with ⟨before, keeps⟩ | ⟨absent, new, identity, rfl, same⟩
      · exact .inl ⟨before, List.forall_mem_cons.mpr ⟨keeps, spared⟩⟩
      · refine .inr ⟨[], identity, rest, rfl, same, absent, ?_, spared⟩
        subst same
        exact (congrArg Prod.snd (getOrCreate_of_absent absent)).trans new.symm
    · exact .inr ⟨event :: past, identity, since, rfl, founded.key_eq, founded.absent,
        founded.made, founded.spared⟩

end WorkspaceServers.Registry
