import WorkspaceServers.Proofs.Path.Composition
import WorkspaceServers.Proofs.Text.Slices
import WorkspaceServers.Proofs.Text.WellFormed
import WorkspaceServers.Proofs.Workspace.Document

/-!
Which documents can be told by name. What is added to a path is text and stands behind a slash,
so it neither makes a text of the path nor takes that away: it all comes down to the base under
which the workspaces live.
-/

namespace WorkspaceServers

namespace Path

variable {path : Path}

theorem isText_iff_exists_encode : IsText path ↔ ∃ text, path = Utf8.encode text := by
  simp only [isText_iff, Utf8.decode?_eq_some_iff]

theorem IsText.before_slash {rest : Bytes} (text : IsText (path ++ slash :: rest)) :
    IsText path := by
  obtain ⟨whole, spelled⟩ := isText_iff_exists_encode.mp text
  obtain ⟨before, _, _, same, _⟩ := Utf8.encode_split (c := '/') (by decide) spelled.symm
  exact isText_iff_exists_encode.mpr ⟨before, same.symm⟩

theorem IsText.of_push {segment : List Char} (name : IsName segment)
    (text : IsText (path.push (Utf8.encode segment))) : IsText path := by
  unfold Path.push at text
  rw [if_neg (by simp [not_isAbsolute_encode name])] at text
  split at text
  · rename_i joined
    rcases joined with rfl | ends
    · exact isText_encode []
    · obtain ⟨front, rfl⟩ := List.getLast?_eq_some_iff.mp ends
      rw [List.append_assoc] at text
      exact text.before_slash.append (isText_encode ['/'])
  · exact text.before_slash

theorem IsText.of_extendBy {added : List (List Char)} (named : ∀ segment ∈ added, IsName segment)
    (text : IsText (path.extendBy added)) : IsText path := by
  induction added generalizing path with
  | nil => exact text
  | cons segment rest ih =>
    obtain ⟨name, later⟩ := List.forall_mem_cons.mp named
    exact (ih later text).of_push name

theorem isText_extend_iff (name : String) : IsText (path.extend name) ↔ IsText path :=
  ⟨fun text => text.of_extendBy fun _ => isName_of_mem_segments, fun text => text.extend name⟩

end Path

namespace Workspace

theorem isText_documentPath_iff (storage : Storage) (identity : Identity) (name : String) :
    (documentPath (storage.documentRoot identity) name).IsText ↔ storage.base.IsText := by
  unfold documentPath Storage.documentRoot Storage.root
  simp only [Path.isText_extend_iff]

end Workspace

end WorkspaceServers
