import WorkspaceServers.Proofs.Path.Spelling
import WorkspaceServers.Proofs.Session.Utterances
import WorkspaceServers.Proofs.Workspace.Containment

/-!
Documents are known to a server by their URIs. Under an absolute root every name of a document
has one, which spells the path of the document, and two names have the same one exactly when
the same segments are kept of them.
-/

namespace WorkspaceServers.Session

open WorkspaceServers.Path (Spells segments)
open WorkspaceServers.Workspace (documentPath documentUri?)

/-- The URI that the document goes by in every session under the root. -/
structure Identified (root : Path) (name uri : String) : Prop where
  found : documentUri? root name = some uri
  spells : Spells (documentPath root name) uri
  told : ∀ session : Session, session.root = root → session.documentUri name = .ok uri
  sent : ∀ (machine : Launch.Machine) (session : Session) (operation : Operation) (id : UInt64),
    session.root = root → session.slot? = some id → operation.document? = some name →
      ∃ json, (session.start machine operation).session.queue = session.queue ++ [.frame json] ∧
        uriOf? json = some (.str uri)

variable {session : Session} {root : Path} {name uri : String}

theorem queue_of_document (machine : Launch.Machine) {operation : Operation} {id : UInt64}
    (slot : session.slot? = some id) (named : operation.document? = some name)
    (found : documentUri? session.root name = some uri) :
    ∃ json, (session.start machine operation).session.queue = session.queue ++ [.frame json] ∧
      uriOf? json = some (.str uri) := by
  have later : operation.IsLater := by
    rintro context rfl
    cases named
  obtain ⟨json, framed⟩ :=
    exists_frame later id uri (Workspace.documentLanguage session.root name).id
  have known : ∀ document, operation.document? = some document →
      documentUri? session.root document = some uri ∧
        (Workspace.documentLanguage session.root document).id =
          (Workspace.documentLanguage session.root name).id := by
    intro document same
    cases named.symm.trans same
    exact ⟨found, rfl⟩
  obtain ⟨speaks, -⟩ := start_speaks machine slot operation framed known
  exact ⟨json, speaks.queue, uri_of_frame framed named⟩

theorem exists_identified (absolute : root.isAbsolute = true) (name : String) :
    ∃ uri, Identified root name uri := by
  have lies : (documentPath root name).isAbsolute = true := Path.isAbsolute_extend absolute name
  obtain ⟨uri, found, spells⟩ := Path.exists_spells lies
  have known : documentUri? root name = some uri := found
  refine ⟨uri, known, spells, ?_, ?_⟩
  · rintro session rfl
    exact documentUri_ok known
  · rintro machine session operation id rfl slot named
    exact queue_of_document machine slot named known

theorem documentUri?_inj (absolute : root.isAbsolute = true) {first second : String} :
    documentUri? root first = documentUri? root second ↔
      segments first.toList = segments second.toList := by
  have lies (name : String) : (documentPath root name).isAbsolute = true :=
    Path.isAbsolute_extend absolute name
  exact (Path.fileUri?_inj (lies first) (lies second)).trans (Path.components_extend_inj root)

theorem documents_identified (absolute : root.isAbsolute = true) (first second : String) :
    ∃ uri uri', Identified root first uri ∧ Identified root second uri' ∧
      (uri = uri' ↔ segments first.toList = segments second.toList) := by
  obtain ⟨uri, identified⟩ := exists_identified absolute first
  obtain ⟨uri', identified'⟩ := exists_identified absolute second
  refine ⟨uri, uri', identified, identified', ?_⟩
  rw [← documentUri?_inj absolute, identified.found, identified'.found, Option.some_inj]

/-- Under a root that is no text, an escaped slash in a name is not taken for a slash. -/
theorem documents_identified_escaped :
    let root : Path := [Path.slash, 0xFF, Path.slash]
    root.isAbsolute = true ∧ ∃ uri uri', Identified root "a%2Fb" uri ∧
      Identified root "./a\\b" uri' ∧ uri ≠ uri' ∧ uri = "file:///%FF/a%252Fb" := by
  intro root
  have absolute : root.isAbsolute = true := by decide
  obtain ⟨uri, uri', identified, identified', same_iff⟩ :=
    documents_identified absolute "a%2Fb" "./a\\b"
  refine ⟨absolute, uri, uri', identified, identified', ?_, ?_⟩
  · intro same
    have kept := same_iff.mp same
    revert kept
    decide
  · have found : documentUri? root "a%2Fb" = some "file:///%FF/a%252Fb" := by decide
    rw [identified.found] at found
    exact Option.some.inj found

end WorkspaceServers.Session
