import WorkspaceServers.Proofs.Text.Cutting
import WorkspaceServers.Workspace.Key

/-!
What a key tells of a workspace: the host of its resource and its slug, and nothing else. A
host holds no separator, so the first slash of a key ends it, whatever the slug holds.
-/

namespace WorkspaceServers.Workspace

def schemeMark : List Char := [':', '/', '/']

inductive Unschemed : List Char → List Char → Prop
  | plain {resource : List Char} (unmarked : ¬ schemeMark <:+: resource) :
      Unschemed resource resource
  | schemed {scheme rest : List Char} (first : ¬ schemeMark <:+: scheme) :
      Unschemed (scheme ++ (schemeMark ++ rest)) rest

variable {resource rest : List Char}

section Hosts

theorem afterScheme_of_unschemed (unschemed : Unschemed resource rest) :
    afterScheme resource = rest := by
  cases unschemed with
  | plain unmarked =>
    have uncut := Text.splitAtMark?_eq_none unmarked
    rw [schemeMark] at uncut
    rw [afterScheme, uncut]
  | schemed first =>
    have lone : ':' ∉ ['/', '/'] := by decide
    have split := Text.splitAtMark?_append lone first rest
    simp only [afterScheme, schemeMark, split]

/-- A colon and a slash in front of the mark are no part of it. -/
example : afterScheme "a:/://b//c://d".toList = "b//c://d".toList := by decide

theorem exists_unschemed (resource : List Char) : ∃ rest, Unschemed resource rest := by
  rcases Text.unmarked_or_first ':' ['/', '/'] resource with unmarked | ⟨scheme, rest, rfl, first⟩
  · exact ⟨resource, .plain unmarked⟩
  · exact ⟨rest, .schemed first⟩

theorem afterScheme_eq_iff : afterScheme resource = rest ↔ Unschemed resource rest := by
  obtain ⟨bare, unschemed⟩ := exists_unschemed resource
  constructor
  · intro same
    rw [← same, afterScheme_of_unschemed unschemed]
    exact unschemed
  · exact afterScheme_of_unschemed

theorem host_eq (unschemed : Unschemed resource rest) :
    host resource = rest.filter fun c => !isSeparator c := by
  rw [host, afterScheme_of_unschemed unschemed]

theorem isSeparator_of_mem_host {c : Char} (member : c ∈ host resource) :
    isSeparator c = false := by
  obtain ⟨-, kept⟩ := List.mem_filter.mp member
  simpa using kept

theorem slash_notMem_host (resource : List Char) : '/' ∉ host resource := by
  intro member
  have kept := isSeparator_of_mem_host member
  simp [isSeparator] at kept

theorem unmarked_of_no_slash (clear : '/' ∉ resource) : ¬ schemeMark <:+: resource := by
  intro inside
  exact clear (inside.subset (by simp [schemeMark]))

theorem host_host (resource : List Char) : host (host resource) = host resource := by
  have clear := unmarked_of_no_slash (slash_notMem_host resource)
  rw [host_eq (.plain clear)]
  apply List.filter_eq_self.mpr
  intro c member
  simp [isSeparator_of_mem_host member]

theorem host_around {front back : List Char}
    (separators : ∀ c ∈ front ++ back, isSeparator c = true)
    (unmarked : ¬ schemeMark <:+: front ++ (resource ++ back)) :
    host (front ++ (resource ++ back)) = host resource := by
  have nothing {added : List Char} (within : ∀ c ∈ added, c ∈ front ++ back) :
      (added.filter fun c => !isSeparator c) = [] := by
    apply List.filter_eq_nil_iff.mpr
    intro c member
    simp [separators c (within c member)]
  have inner : ¬ schemeMark <:+: resource := by
    intro inside
    apply unmarked
    exact inside.trans ((List.prefix_append resource back).isInfix.trans
      (List.suffix_append front _).isInfix)
  rw [host_eq (.plain unmarked), host_eq (.plain inner), List.filter_append, List.filter_append,
    nothing (fun c member => List.mem_append_left back member),
    nothing (fun c member => List.mem_append_right front member)]
  simp

end Hosts

section Keys

theorem key_eq_of_host {first second slug : String}
    (same : host first.toList = host second.toList) :
    Key.ofParts first slug = Key.ofParts second slug := by
  rw [Key.ofParts, Key.ofParts, same]

theorem ofParts_inj {first second slug other : String} :
    Key.ofParts first slug = Key.ofParts second other ↔
      host first.toList = host second.toList ∧ slug = other := by
  -- The first slash of a key stands between host and slug.
  constructor
  · intro same
    have texts : host first.toList ++ '/' :: slug.toList =
        host second.toList ++ '/' :: other.toList :=
      String.ofList_inj.mp (Key.mk.inj same)
    have clear (resource : List Char) : ∀ c ∈ host resource, decide (c = '/') = false := by
      intro c member
      simp only [decide_eq_false_iff_not]
      rintro rfl
      exact slash_notMem_host resource member
    have marks : decide ('/' = '/') = true := by decide
    -- Both texts are one, so it is cut at one place, and no host holds a slash.
    have split := Text.splitAtFirst?_append (clear first.toList) marks slug.toList
    rw [texts, Text.splitAtFirst?_append (clear second.toList) marks] at split
    obtain ⟨hosts, slugs⟩ := Prod.mk.inj (Option.some.inj split)
    exact ⟨hosts.symm, String.toList_inj.mp slugs.symm⟩
  · rintro ⟨hosts, rfl⟩
    exact key_eq_of_host hosts

/-- How keys and hosts depend on the texts that name a workspace. -/
structure Normalizes : Prop where
  scheme : ∀ resource rest, afterScheme resource = rest ↔ Unschemed resource rest
  host_of_unschemed : ∀ resource rest, Unschemed resource rest →
    host resource = rest.filter fun c => c ≠ '/' ∧ c ≠ '\\'
  same_key_iff : ∀ first second slug other : String,
    Key.ofParts first slug = Key.ofParts second other ↔
      host first.toList = host second.toList ∧ slug = other
  host_again : ∀ resource, host (host resource) = host resource
  key_of_host : ∀ resource slug : String,
    Key.ofParts (String.ofList (host resource.toList)) slug = Key.ofParts resource slug
  key_of_scheme : ∀ scheme resource slug : String, ¬ schemeMark <:+: scheme.toList →
    ¬ schemeMark <:+: resource.toList →
      Key.ofParts (scheme ++ "://" ++ resource) slug = Key.ofParts resource slug
  key_around : ∀ front resource back slug : String,
    (∀ c ∈ front.toList ++ back.toList, c = '/' ∨ c = '\\') →
    ¬ schemeMark <:+: (front ++ resource ++ back).toList →
      Key.ofParts (front ++ resource ++ back) slug = Key.ofParts resource slug
  any_group : ∀ group resource slug : String,
    (Identity.mk group resource slug).key = Key.ofParts resource slug

theorem keys_normalize : Normalizes := by
  constructor
  · intro resource rest
    exact afterScheme_eq_iff
  · intro resource rest unschemed
    rw [host_eq unschemed]
    simp [isSeparator]
  · intro first second slug other
    exact ofParts_inj
  · exact host_host
  · intro resource slug
    apply key_eq_of_host
    rw [String.toList_ofList, host_host]
  · intro scheme resource slug first unmarked
    apply key_eq_of_host
    have text : (scheme ++ "://" ++ resource).toList =
        scheme.toList ++ (schemeMark ++ resource.toList) := by
      simp [schemeMark]
    rw [text, host_eq (.schemed first), host_eq (.plain unmarked)]
  · -- Separators around the resource do not make a scheme where there was none.
    intro front resource back slug separators unmarked
    have text : (front ++ resource ++ back).toList =
        front.toList ++ (resource.toList ++ back.toList) := by
      simp
    rw [text] at unmarked
    apply key_eq_of_host
    rw [text]
    apply host_around _ unmarked
    intro c member
    simpa [isSeparator] using separators c member
  · intro group resource slug
    rfl

end Keys

end WorkspaceServers.Workspace
