import WorkspaceServers.Proofs.Path.Composition
import WorkspaceServers.Proofs.Workspace.Document

/-!
Nothing leaves its container. Whatever the texts are that name a group, a workspace and a
document, the path of each lies inside the path of the one before, and the base is never
left: only names come behind its components.
-/

namespace WorkspaceServers.Workspace

open WorkspaceServers.Path (segments names dot)

/-- Where the paths of a workspace and of one of its documents lie. -/
structure Contained (storage : Storage) (identity : Identity) (name : String) : Prop where
  root_components : (storage.root identity.group).components =
    storage.base.components ++ names (identity.group ++ "." ++ storage.appGroup)
  documentRoot_components : (storage.documentRoot identity).components =
    (storage.root identity.group).components ++ names identity.resource ++ names identity.slug
  document_components : (documentPath (storage.documentRoot identity) name).components =
    (storage.documentRoot identity).components ++ names name
  extends_base : storage.base <+: storage.root identity.group
  extends_root : storage.root identity.group <+: storage.documentRoot identity
  extends_documentRoot :
    storage.documentRoot identity <+: documentPath (storage.documentRoot identity) name
  absolute : (documentPath (storage.documentRoot identity) name).isAbsolute = true
  parents : (documentPath (storage.documentRoot identity) name).components.count [dot, dot] =
    storage.base.components.count [dot, dot]

theorem count_parent_append (components : List Bytes) (text : String) :
    (components ++ names text).count [dot, dot] = components.count [dot, dot] := by
  have nothing : (names text).count [dot, dot] = 0 :=
    List.count_eq_zero.mpr (Path.parent_notMem_names text)
  rw [List.count_append, nothing, Nat.add_zero]

theorem contained (storage : Storage) (identity : Identity) (name : String) :
    Contained storage identity name := by
  have root := Path.components_extend storage.base (identity.group ++ "." ++ storage.appGroup)
  have resource := Path.components_extend (storage.root identity.group) identity.resource
  have slug := Path.components_extend ((storage.root identity.group).extend identity.resource)
    identity.slug
  have document := Path.components_extend (storage.documentRoot identity) name
  have whole : (storage.documentRoot identity).components =
      (storage.root identity.group).components ++ names identity.resource ++
        names identity.slug := by
    rw [← resource]
    exact slug
  constructor
  · exact root
  · exact whole
  · exact document
  · exact Path.prefix_extend _ _
  · exact (Path.prefix_extend _ _).trans (Path.prefix_extend _ _)
  · exact Path.prefix_extend _ _
  · exact Path.isAbsolute_extend (isAbsolute_documentRoot storage identity) name
  · -- No step adds a parent, so all of them stand in the base.
    have counted : (storage.root identity.group).components.count [dot, dot] =
        storage.base.components.count [dot, dot] := by
      rw [Storage.root, root, count_parent_append]
    rw [documentPath, document, count_parent_append, whole, count_parent_append,
      count_parent_append, counted]

/-- How the names of documents compose under any path, be it the root of a workspace or
not, and which of them name the same document. -/
structure Composes (path : Path) (first second : String) : Prop where
  step_by_step : documentPath (documentPath path first) second =
    documentPath path (first ++ "/" ++ second)
  same_path_iff : documentPath path first = documentPath path second ↔
    segments first.toList = segments second.toList
  same_components_iff :
    (documentPath path first).components = (documentPath path second).components ↔
      segments first.toList = segments second.toList

/-- The segments that are kept of a text: it is cut at every separator, and what stands
between two of them is kept if it is a name. -/
structure Keeps : Prop where
  named : ∀ (text : String), ∀ segment ∈ segments text.toList, Path.IsName segment
  cut : ∀ mark, mark = '/' ∨ mark = '\\' → ∀ first second,
    segments (first ++ mark :: second) = segments first ++ segments second
  uncut : ∀ segment, '/' ∉ segment → '\\' ∉ segment →
    segments segment = if segment ∈ [[], ['.'], ['.', '.']] then [] else [segment]

theorem documents_contained :
    Keeps ∧
    (∀ (storage : Storage) (identity : Identity) (name : String),
      Contained storage identity name) ∧
    ∀ (path : Path) (first second : String), Composes path first second := by
  refine ⟨?_, contained, ?_⟩
  · constructor
    · intro text segment kept
      exact Path.isName_of_mem_segments kept
    · intro mark marks first second
      exact Path.segments_append marks first second
    · intro segment no_slash no_backslash
      exact Path.segments_of_uncut no_slash no_backslash
  · intro path first second
    constructor
    · exact Path.extend_extend path first second
    · exact Path.extend_inj path
    · exact Path.components_extend_inj path

end WorkspaceServers.Workspace
