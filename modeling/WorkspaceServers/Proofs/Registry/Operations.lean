import WorkspaceServers.Proofs.Session.Moves
import WorkspaceServers.Registry.Run

/-!
What each operation does to the map, and to the sessions behind it. The map is seen
through its look-ups alone; of the sessions, whom they were made for is what stays.
-/

namespace WorkspaceServers.Registry

open Workspace (Key Identity)

def keys (registry : Registry) : List Key := registry.entries.map Prod.fst

def owners (registry : Registry) : List Identity := registry.sessions.map (·.identity)

/-- The event takes the session of the key, if there is one, out of the map. -/
def Event.Forgets (key : Key) : Event → Prop
  | .remove resource slug => Key.ofParts resource slug = key
  | .drain => True
  | .getOrCreate _ | .get _ _ | .session _ _ => False

variable {registry : Registry} {key : Key} {number : Nat}

theorem mem_keys_iff : key ∈ registry.keys ↔ (registry.find? key).isSome = true := by
  simp only [keys, find?, List.lookup_isSome_iff, List.mem_map, beq_iff_eq]
  exact exists_congr fun entry => and_congr_right fun _ => eq_comm

theorem length_owners (registry : Registry) :
    registry.owners.length = registry.sessions.length :=
  List.length_map _

theorem lookup_cons_ite (entry : Key × Nat) (rest : List (Key × Nat)) (key : Key) :
    (entry :: rest).lookup key = if entry.1 = key then some entry.2 else rest.lookup key := by
  rw [List.lookup_cons]
  split
  · rename_i same
    rw [if_pos (eq_of_beq same).symm]
  · rename_i other
    rw [if_neg (Ne.symm (ne_of_beq_false other))]

section GetOrCreate

variable {identity : Identity}

theorem getOrCreate_of_stored (stored : registry.find? identity.key = some number) :
    registry.getOrCreate identity = (registry, number) := by
  rw [getOrCreate, stored]

theorem getOrCreate_of_absent (absent : registry.find? identity.key = none) :
    registry.getOrCreate identity =
      ({ registry with
          entries := registry.entries ++ [(identity.key, registry.sessions.length)]
          sessions := registry.sessions ++
            [.create identity (registry.storage.documentRoot identity) registry.options] },
        registry.sessions.length) := by
  rw [getOrCreate, absent]
  rfl

theorem find?_getOrCreate (registry : Registry) (identity : Identity) (key : Key) :
    (registry.getOrCreate identity).1.find? key =
      if identity.key = key then some (registry.getOrCreate identity).2
      else registry.find? key := by
  cases stored : registry.find? identity.key with
  | some number =>
    rw [getOrCreate_of_stored stored]
    split
    · rename_i same
      rw [← same, stored]
    · rfl
  | none =>
    rw [getOrCreate_of_absent stored]
    simp only [find?, List.lookup_append]
    split
    · rename_i same
      have absent : registry.entries.lookup key = none := same ▸ stored
      simp [absent, same]
    · rename_i other
      simp [lookup_cons_ite, other]

theorem owners_of_absent (absent : registry.find? identity.key = none) :
    (registry.getOrCreate identity).1.owners = registry.owners ++ [identity] := by
  rw [getOrCreate_of_absent absent]
  exact List.map_append

theorem owners_getOrCreate (registry : Registry) (identity : Identity) :
    registry.owners <+: (registry.getOrCreate identity).1.owners := by
  cases stored : registry.find? identity.key with
  | some number =>
    have same : (registry.getOrCreate identity).1 = registry := by
      rw [getOrCreate_of_stored stored]
    exact same.symm ▸ List.prefix_refl registry.owners
  | none =>
    rw [owners_of_absent stored]
    exact List.prefix_append _ _

end GetOrCreate

theorem lookup_filter_ne (entries : List (Key × Nat)) (removed key : Key) :
    (entries.filter fun entry => entry.1 ≠ removed).lookup key =
      if removed = key then none else entries.lookup key := by
  induction entries with
  | nil => simp
  | cons entry rest ih =>
    by_cases goes : entry.1 = removed
    · rw [List.filter_cons_of_neg (by simp [goes]), ih, lookup_cons_ite, goes]
      split <;> rfl
    · rw [List.filter_cons_of_pos (by simp [goes]), lookup_cons_ite, lookup_cons_ite, ih]
      split
      · rename_i found
        rw [if_neg (found ▸ Ne.symm goes)]
      · rfl

theorem find?_remove (registry : Registry) (resource slug : String) (key : Key) :
    (registry.remove resource slug).1.find? key =
      if Key.ofParts resource slug = key then none else registry.find? key :=
  lookup_filter_ne _ _ _

theorem keys_remove (registry : Registry) (resource slug : String) :
    (registry.remove resource slug).1.keys.Sublist registry.keys :=
  List.filter_sublist.map _

section Step

variable {machine : Launch.Machine} {event : Event}

theorem owners_session (machine : Launch.Machine) (registry : Registry) (number : Nat)
    (event : Session.Event) :
    (registry.step machine (.session number event)).1.owners = registry.owners := by
  simp only [step, session?]
  cases found : registry.sessions[number]? with
  | none => rfl
  | some session =>
    obtain ⟨lifecycle, moved, -⟩ := session.moves_step machine event
    have own : registry.owners[number]? = some session.identity := by simp [owners, found]
    obtain ⟨below, same⟩ := List.getElem?_eq_some_iff.mp own
    have kept : (session.step machine event).1.identity = session.identity := by rw [moved]
    simp only [owners, setSession, List.map_set, kept]
    exact same ▸ List.set_getElem_self below

theorem find?_session (machine : Launch.Machine) (registry : Registry) (number : Nat)
    (event : Session.Event) (key : Key) :
    (registry.step machine (.session number event)).1.find? key = registry.find? key := by
  simp only [step]
  split <;> rfl

theorem find?_step_of_forgets (forgets : event.Forgets key) :
    (registry.step machine event).1.find? key = none := by
  cases event with
  | remove resource slug => exact (find?_remove ..).trans (if_pos forgets)
  | drain => rfl
  | getOrCreate _ | get _ _ | session _ _ => exact forgets.elim

theorem find?_getOrCreate_self (registry : Registry) (identity : Identity) :
    (registry.getOrCreate identity).1.find? identity.key =
      some (registry.getOrCreate identity).2 :=
  (find?_getOrCreate ..).trans (if_pos rfl)

theorem find?_step_of_stored (stored : registry.find? key = some number)
    (keeps : ¬event.Forgets key) : (registry.step machine event).1.find? key = some number := by
  cases event with
  | getOrCreate identity =>
    refine (find?_getOrCreate ..).trans ?_
    split
    · rename_i same
      rw [getOrCreate_of_stored (same ▸ stored)]
    · exact stored
  | get resource slug => exact stored
  | remove resource slug => exact (find?_remove ..).trans ((if_neg keeps).trans stored)
  | drain => exact absurd trivial keeps
  | session place event => rw [find?_session, stored]

theorem stored_before_or_made (found : (registry.step machine event).1.find? key = some number) :
    (registry.find? key = some number ∧ ¬event.Forgets key) ∨
      (registry.find? key = none ∧ number = registry.sessions.length ∧
        ∃ identity, event = .getOrCreate identity ∧ identity.key = key) := by
  by_cases forgets : event.Forgets key
  · rw [find?_step_of_forgets forgets] at found
    cases found
  cases stored : registry.find? key with
  | some other =>
    rw [find?_step_of_stored stored forgets] at found
    exact .inl ⟨found, forgets⟩
  | none =>
    -- Only a call for the key itself makes what was not there before.
    cases event with
    | getOrCreate identity =>
      have found : (registry.getOrCreate identity).1.find? key = some number := found
      rw [find?_getOrCreate, stored] at found
      split at found
      · rename_i same
        rw [getOrCreate_of_absent (same ▸ stored)] at found
        exact .inr ⟨rfl, (Option.some.inj found).symm, identity, rfl, same⟩
      · cases found
    | get resource slug => exact .inl ⟨stored ▸ found, forgets⟩
    | remove resource slug =>
      have found : (registry.remove resource slug).1.find? key = some number := found
      rw [find?_remove, stored, ite_self] at found
      cases found
    | drain => cases found
    | session place event => exact .inl ⟨stored ▸ (find?_session ..).symm.trans found, forgets⟩

theorem owners_step (machine : Launch.Machine) (registry : Registry) (event : Event) :
    registry.owners <+: (registry.step machine event).1.owners := by
  cases event with
  | getOrCreate identity => exact owners_getOrCreate registry identity
  | get _ _ | remove _ _ | drain => exact List.prefix_refl _
  | session number event => exact (owners_session ..).symm ▸ List.prefix_refl _

theorem settings_step (machine : Launch.Machine) (registry : Registry) (event : Event) :
    (registry.step machine event).1.storage = registry.storage ∧
      (registry.step machine event).1.options = registry.options := by
  cases event with
  | getOrCreate identity =>
    cases stored : registry.find? identity.key with
    | some number => simp [step, getOrCreate_of_stored stored]
    | none => simp [step, getOrCreate_of_absent stored]
  | get _ _ | remove _ _ | drain => exact ⟨rfl, rfl⟩
  | session number event =>
    simp only [step]
    split <;> exact ⟨rfl, rfl⟩

theorem answer_lt (sound : ∀ key number, registry.find? key = some number →
      number < registry.sessions.length)
    (answers : (registry.step machine event).2 = some number) :
    number < (registry.step machine event).1.sessions.length := by
  cases event with
  | getOrCreate identity =>
    have answers : (registry.getOrCreate identity).2 = number := Option.some.inj answers
    show number < (registry.getOrCreate identity).1.sessions.length
    cases stored : registry.find? identity.key with
    | some other =>
      rw [getOrCreate_of_stored stored] at answers ⊢
      exact answers ▸ sound _ _ stored
    | none =>
      rw [getOrCreate_of_absent stored] at answers ⊢
      simp [← answers]
  | get resource slug => exact sound _ _ answers
  | remove resource slug => exact sound _ _ answers
  | drain => cases answers
  | session place event =>
    simp only [step] at answers
    split at answers <;> cases answers

end Step

end WorkspaceServers.Registry
