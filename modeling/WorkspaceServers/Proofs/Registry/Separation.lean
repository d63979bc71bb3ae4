import WorkspaceServers.Proofs.Registry.Mapping
import WorkspaceServers.Proofs.Workspace.Keys

/-!
Which workspaces a registry keeps apart. A key holds the segments of a resource without what
stands between them, so a session is shared by just those callers whose slugs agree and whose
resources, joined segment by segment, are one text. It works in the directory of the first.
-/

namespace WorkspaceServers

namespace Workspace

def resourceSegments (resource : String) : List (List Char) :=
  (Text.pieces isSeparator (afterScheme resource.toList)).filter fun segment => segment ≠ []

/-- The callers cannot be told apart by slug, nor by the segments of the resource once these
are joined. -/
structure Identity.Meets (first second : Identity) : Prop where
  slug : first.slug = second.slug
  joined : (resourceSegments first.resource).flatten = (resourceSegments second.resource).flatten

theorem flatten_resourceSegments (resource : String) :
    (resourceSegments resource).flatten = host resource.toList := by
  rw [resourceSegments, List.flatten_filter_ne_nil, Text.flatten_pieces, host]

theorem key_eq_iff_meets {first second : Identity} :
    first.key = second.key ↔ first.Meets second := by
  rw [Identity.key, Identity.key, ofParts_inj]
  constructor
  · rintro ⟨hosts, slug⟩
    refine ⟨slug, ?_⟩
    rw [flatten_resourceSegments, flatten_resourceSegments, hosts]
  · rintro ⟨slug, joined⟩
    rw [flatten_resourceSegments, flatten_resourceSegments] at joined
    exact ⟨joined, slug⟩

theorem ne_nil_of_mem_resourceSegments {resource : String} {segment : List Char}
    (member : segment ∈ resourceSegments resource) : segment ≠ [] := by
  simpa using (List.mem_filter.mp member).2

theorem eq_of_flatten_eq {first second : List (List Char)} (lone : first.length ≤ 1)
    (lone' : second.length ≤ 1) (present : ∀ segment ∈ first, segment ≠ [])
    (present' : ∀ segment ∈ second, segment ≠ []) (joined : first.flatten = second.flatten) :
    first = second := by
  match first, second with
  | [], [] => rfl
  | [segment], [other] => simpa using joined
  | [segment], [] => exact absurd (by simpa using joined) (present segment List.mem_cons_self)
  | [], [other] => exact absurd (by simpa using joined.symm) (present' other List.mem_cons_self)
  | _ :: _ :: _, _ => simp at lone
  | _, _ :: _ :: _ => simp at lone'

theorem Identity.Meets.segments_eq {first second : Identity} (meets : first.Meets second)
    (lone : (resourceSegments first.resource).length ≤ 1)
    (lone' : (resourceSegments second.resource).length ≤ 1) :
    resourceSegments first.resource = resourceSegments second.resource :=
  eq_of_flatten_eq lone lone' (fun _ => ne_nil_of_mem_resourceSegments)
    (fun _ => ne_nil_of_mem_resourceSegments) meets.joined

end Workspace

namespace Registry

open Workspace (Identity Key Storage resourceSegments)

/-- Two callers, each for whatever group, and what comes between their calls. -/
structure Separates (machine : Launch.Machine) (registry : Registry) (first second : Identity)
    (since : List Event) : Prop where
  same_iff :
    (((registry.getOrCreate first).1.run machine since).1.getOrCreate second).2 =
        (registry.getOrCreate first).2 ↔
      first.Meets second ∧ ∀ event ∈ since, ¬event.Forgets first.key
  lone : (((registry.getOrCreate first).1.run machine since).1.getOrCreate second).2 =
      (registry.getOrCreate first).2 → (resourceSegments first.resource).length ≤ 1 →
    (resourceSegments second.resource).length ≤ 1 →
      first.slug = second.slug ∧
        resourceSegments first.resource = resourceSegments second.resource
  directory : ∃ session, (registry.getOrCreate first).1.session? (registry.getOrCreate first).2 =
      some session ∧ session.identity.Meets first ∧
        session.root = registry.storage.documentRoot session.identity

variable {registry : Registry} {number : Nat}

theorem Sound.session_of_stored (sound : Sound registry) {key : Key}
    (stored : registry.find? key = some number) :
    ∃ session, registry.session? number = some session ∧ session.identity.key = key ∧
      session.root = registry.storage.documentRoot session.identity := by
  obtain ⟨maker, own, same⟩ := sound.owned key number stored
  obtain ⟨session, stands, rfl⟩ := session?_of_owners own
  exact ⟨session, stands, same, sound.rooted session (List.mem_of_getElem? stands)⟩

theorem sessions_separated (machine : Launch.Machine) (storage : Storage)
    (options : Session.Options) (past since : List Event) (first second : Identity) :
    Separates machine ((create storage options).run machine past).1 first second since := by
  have sound := (sound_create storage options).run machine past
  have called := sound.step machine (.getOrCreate first)
  have found := find?_getOrCreate_self ((create storage options).run machine past).1 first
  have same_iff := called.getOrCreate_eq_iff machine found second since
  rw [Workspace.key_eq_iff_meets] at same_iff
  constructor
  · exact same_iff
  · intro same lone lone'
    obtain ⟨meets, -⟩ := same_iff.mp same
    exact ⟨meets.slug, meets.segments_eq lone lone'⟩
  · obtain ⟨session, stands, same, rooted⟩ := called.session_of_stored found
    refine ⟨session, stands, Workspace.key_eq_iff_meets.mp same, ?_⟩
    rw [rooted, (settings_step machine _ (.getOrCreate first)).1]

/-- One server for two nested paths of a host, in the directory of the first. -/
theorem nested_paths_meet :
    let storage : Storage := ⟨.ofString "/srv/shared", "com.example.app", by decide⟩
    let flat : Identity := ⟨"GRP", "example.com/ab", "proj"⟩
    let nested : Identity := ⟨"GRP", "example.com/a/b", "proj"⟩
    let called := (create storage .default).getOrCreate flat
    (called.1.getOrCreate nested).2 = called.2 ∧
      resourceSegments flat.resource ≠ resourceSegments nested.resource ∧
      storage.documentRoot flat ≠ storage.documentRoot nested := by
  decide +kernel

end Registry

end WorkspaceServers
