import WorkspaceServers.Proofs.Registry.Runs

/-!
The registry is a map from keys to sessions. Under a key there is the session that the
first caller had made for it, as long as neither a removal of the key nor a drain has come
between, and all operations see this one session, however a caller spells the workspace.
-/

namespace WorkspaceServers.Registry

open Workspace (Key Identity Storage)

/-- The session that a call for a key without one adds, and what stays as it was. -/
structure Adds (storage : Storage) (options : Session.Options) (registry : Registry)
    (answers : List (Option Nat)) (identity : Identity) (after : Registry) (number : Nat) :
    Prop where
  new : some number ∉ answers
  made : ∃ session, after.session? number = some session ∧ session.stage = .uninitialized ∧
    session.identity = identity ∧ session.root = storage.documentRoot identity ∧
    session.options = options
  found : ∀ key, after.find? key =
    if identity.key = key then some number else registry.find? key
  others : ∀ other session, registry.session? other = some session →
    after.session? other = some session

/-- What holds behind the events, which met with the answers, and of anything that is asked
next. -/
structure Maps (machine : Launch.Machine) (storage : Storage) (options : Session.Options)
    (events : List Event) (registry : Registry) (answers : List (Option Nat)) : Prop where
  single : registry.keys.Nodup
  mem_keys : ∀ key, key ∈ registry.keys ↔ ∃ number, registry.find? key = some number
  size_eq : registry.size = registry.keys.length
  stored : ∀ key number, registry.find? key = some number →
    ∃ session past identity since,
      registry.session? number = some session ∧ session.key = key ∧
        session.identity = identity ∧ session.root = storage.documentRoot identity ∧
        events = past ++ .getOrCreate identity :: since ∧
        Founded machine (create storage options) key number past identity since
  reuses : ∀ identity number, registry.find? identity.key = some number →
    registry.getOrCreate identity = (registry, number)
  creates : ∀ identity, registry.find? identity.key = none →
    Adds storage options registry answers identity (registry.getOrCreate identity).1
      (registry.getOrCreate identity).2
  same_iff : ∀ past first since second, events = past ++ .getOrCreate first :: since →
    (answers[past.length]? = some (some (registry.getOrCreate second).2) ↔
      first.key = second.key ∧ ∀ event ∈ since, ¬event.Forgets first.key)
  get_iff : ∀ group resource slug number, registry.get? resource slug = some number ↔
    registry.getOrCreate ⟨group, resource, slug⟩ = (registry, number)
  remove_answers : ∀ resource slug,
    (registry.remove resource slug).2 = registry.get? resource slug
  remove_find? : ∀ resource slug key, (registry.remove resource slug).1.find? key =
    if Key.ofParts resource slug = key then none else registry.find? key
  remove_sessions : ∀ resource slug,
    (registry.remove resource slug).1.sessions = registry.sessions

variable {machine : Launch.Machine} {storage : Storage} {options : Session.Options}
variable {registry : Registry} {key : Key} {number : Nat}

theorem session?_of_owners {identity : Identity}
    (owned : registry.owners[number]? = some identity) :
    ∃ session, registry.session? number = some session ∧ session.identity = identity := by
  rw [owners, List.getElem?_map, Option.map_eq_some_iff] at owned
  exact owned

theorem Founded.owners {past since : List Event} {identity : Identity}
    (founded : Founded machine registry key number past identity since) :
    (registry.run machine (past ++ .getOrCreate identity :: since)).1.owners[number]? =
      some identity := by
  obtain ⟨rfl, absent, rfl, -⟩ := founded
  rw [run_append]
  refine getElem?_of_prefix (owners_run machine _ since) ?_
  show ((registry.run machine past).1.getOrCreate identity).1.owners[_]? = some identity
  rw [owners_of_absent absent, getOrCreate_of_absent absent, ← length_owners]
  exact List.getElem?_concat_length

theorem get?_eq_some_iff {group resource slug : String} :
    registry.get? resource slug = some number ↔
      registry.getOrCreate ⟨group, resource, slug⟩ = (registry, number) := by
  constructor
  · intro stored
    exact getOrCreate_of_stored stored
  · intro same
    have found := find?_getOrCreate_self registry ⟨group, resource, slug⟩
    rwa [same] at found

theorem adds_of_absent (answers : List (Option Nat))
    (bounded : ∀ number, some number ∈ answers → number < registry.sessions.length)
    {identity : Identity} (absent : registry.find? identity.key = none) :
    Adds registry.storage registry.options registry answers identity
      (registry.getOrCreate identity).1 (registry.getOrCreate identity).2 where
  new answered := by
    rw [getOrCreate_of_absent absent] at answered
    exact Nat.lt_irrefl _ (bounded _ answered)
  made := by
    rw [getOrCreate_of_absent absent]
    exact ⟨_, List.getElem?_concat_length, rfl, rfl, rfl, rfl⟩
  found := find?_getOrCreate registry identity
  others other session stands := by
    rw [getOrCreate_of_absent absent]
    exact getElem?_of_prefix (List.prefix_append _ _) stands

theorem Sound.getOrCreate_eq_iff (machine : Launch.Machine) (sound : Sound registry)
    {first : Identity} (stored : registry.find? first.key = some number) (second : Identity)
    (since : List Event) :
    ((registry.run machine since).1.getOrCreate second).2 = number ↔
      first.key = second.key ∧ ∀ event ∈ since, ¬event.Forgets first.key := by
  constructor
  · intro again
    have spared : ∀ event ∈ since, ¬event.Forgets first.key := by
      intro event member forgets
      exact (sound.retired_of_forgotten stored ⟨event, member, forgets⟩).getOrCreate_ne second
        again
    refine ⟨?_, spared⟩
    -- Both keys are behind the second call those of one session.
    have kept : ((registry.run machine since).1.step machine (.getOrCreate second)).1.find?
        first.key = some number := find?_step_of_stored (find?_run_of_spared stored spared) id
    have found : ((registry.run machine since).1.step machine (.getOrCreate second)).1.find?
        second.key = some number := again ▸ find?_getOrCreate_self _ second
    exact ((sound.run machine since).step machine _).key_unique kept found
  · rintro ⟨same, spared⟩
    rw [getOrCreate_of_stored (same ▸ find?_run_of_spared stored spared)]

theorem Sound.same_iff (sound : Sound registry) {past since : List Event}
    {first second : Identity} :
    (registry.run machine (past ++ .getOrCreate first :: since)).2[past.length]? =
        some (some ((registry.run machine
          (past ++ .getOrCreate first :: since)).1.getOrCreate second).2) ↔
      first.key = second.key ∧ ∀ event ∈ since, ¬event.Forgets first.key := by
  have called := (sound.run machine past).step machine (.getOrCreate first)
  rw [answer_at, run_append, Option.some_inj, eq_comm]
  have stored := find?_getOrCreate_self (registry.run machine past).1 first
  exact Option.some_inj.trans (called.getOrCreate_eq_iff machine stored second since)

theorem maps_keys (machine : Launch.Machine) (storage : Storage) (options : Session.Options)
    (events : List Event) :
    Maps machine storage options events ((create storage options).run machine events).1
      ((create storage options).run machine events).2 := by
  have sound := (sound_create storage options).run machine events
  have settings := settings_run machine (create storage options) events
  constructor
  · exact sound.single
  · intro key
    rw [mem_keys_iff, Option.isSome_iff_exists]
  · exact (List.length_map _).symm
  · intro key number found
    -- The registry starts empty, so what is stored was founded in the course of the events.
    rcases stored_or_founded found with ⟨stored, -⟩ | ⟨past, identity, since, rfl, founded⟩
    · cases stored
    · obtain ⟨session, stands, same⟩ := session?_of_owners founded.owners
      have rooted := sound.rooted session (List.mem_of_getElem? stands)
      rw [settings.1, same] at rooted
      exact ⟨session, past, identity, since, stands, by rw [Session.key, same, founded.key_eq],
        same, rooted, rfl, founded⟩
  · exact fun _ _ => getOrCreate_of_stored
  · intro identity absent
    have adds := adds_of_absent _ (fun _ => (sound_create storage options).answers_lt) absent
    rwa [settings.1, settings.2] at adds
  · rintro past first since second rfl
    exact (sound_create storage options).same_iff
  · exact fun _ _ _ _ => get?_eq_some_iff
  · intro resource slug
    rfl
  · exact find?_remove _
  · intro resource slug
    rfl

end WorkspaceServers.Registry
