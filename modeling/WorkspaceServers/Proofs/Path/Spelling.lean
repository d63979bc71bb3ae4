import WorkspaceServers.Proofs.Path.Percent
import WorkspaceServers.Proofs.Text.Cutting

/-!
How a URI spells a path. The parts between its slashes are the components of the path, in
their order and byte for byte, so paths share a URI only if they share their components.
-/

namespace WorkspaceServers.Path

def uriScheme : List Char := "file://".toList

def uriParts (uri : String) : List (List Char) :=
  Text.pieces (· = '/') (uri.toList.drop uriScheme.length)

def uriComponents (uri : String) : List Bytes :=
  ((uriParts uri).filter (· ≠ [])).map percentDecode

structure Spells (path : Path) (uri : String) : Prop where
  scheme : uriScheme <+: uri.toList
  printable : ∀ c ∈ uri.toList, IsPrintable c
  components : uriComponents uri = path.components
  no_more_empty : path.components ≠ [] → (uriParts uri).count [] = 1

variable {path other : Path} {uri : String} {parts : List Bytes}

theorem ne_nil_of_mem_components {part : Bytes} (member : part ∈ path.components) :
    part ≠ [] := by
  obtain ⟨-, kept⟩ := List.mem_filter.mp member
  simp only [decide_eq_true_eq] at kept
  exact kept.1

section Encoding

theorem encodeComponents_of_ne_nil (present : parts ≠ []) :
    encodeComponents parts = (parts.map percentEncode).flatMap ('/' :: ·) := by
  cases parts with
  | nil => exact absurd rfl present
  | cons part rest => simp [encodeComponents, List.flatMap_map]

theorem pieces_encodeComponents (present : parts ≠ []) :
    Text.pieces (· = '/') (encodeComponents parts) = [] :: parts.map percentEncode := by
  have clear : ∀ written ∈ parts.map percentEncode, ∀ c ∈ written, decide (c = '/') = false := by
    intro written member c inside
    obtain ⟨part, -, rfl⟩ := List.mem_map.mp member
    simpa using (printable_of_mem_percentEncode inside).2
  have empty : ∀ c ∈ ([] : List Char), decide (c = '/') = false := nofun
  rw [encodeComponents_of_ne_nil present]
  exact Text.pieces_joined rfl empty clear

theorem filter_pieces_encodeComponents (named : ∀ part ∈ parts, part ≠ []) :
    ((Text.pieces (· = '/') (encodeComponents parts)).filter (· ≠ [])) =
      parts.map percentEncode := by
  cases parts with
  | nil => rfl
  | cons part rest =>
    rw [pieces_encodeComponents (List.cons_ne_nil part rest), List.filter_cons_of_neg (by simp)]
    apply List.filter_eq_self.mpr
    intro written member
    obtain ⟨part, inside, rfl⟩ := List.mem_map.mp member
    simpa using percentEncode_ne_nil (named part inside)

theorem printable_of_mem_encodeComponents {c : Char} (member : c ∈ encodeComponents parts) :
    IsPrintable c := by
  cases parts with
  | nil =>
    rw [List.mem_singleton.mp member]
    decide
  | cons part rest =>
    obtain ⟨part, -, inside⟩ := List.mem_flatMap.mp member
    rcases List.mem_cons.mp inside with rfl | written
    · decide
    · exact (printable_of_mem_percentEncode written).1

end Encoding

section Uris

theorem fileUri?_of_isAbsolute (absolute : path.isAbsolute = true) :
    path.fileUri? = some (String.ofList (uriScheme ++ encodeComponents path.components)) :=
  if_pos absolute

theorem uriParts_ofList (behind : List Char) :
    uriParts (String.ofList (uriScheme ++ behind)) = Text.pieces (· = '/') behind := by
  rw [uriParts, String.toList_ofList, List.drop_left]

theorem exists_spells (absolute : path.isAbsolute = true) :
    ∃ uri, path.fileUri? = some uri ∧ Spells path uri := by
  refine ⟨_, fileUri?_of_isAbsolute absolute, ?_⟩
  constructor
  · rw [String.toList_ofList]
    exact List.prefix_append _ _
  · intro c member
    rw [String.toList_ofList] at member
    rcases List.mem_append.mp member with scheme | behind
    · have every : uriScheme.all (IsPrintable ·) = true := by decide
      exact of_decide_eq_true (List.all_eq_true.mp every c scheme)
    · exact printable_of_mem_encodeComponents behind
  · rw [uriComponents, uriParts_ofList,
      filter_pieces_encodeComponents fun _ => ne_nil_of_mem_components, List.map_map]
    simp [Function.comp_def, percentDecode_percentEncode]
  · intro present
    have written : [] ∉ path.components.map percentEncode := by
      intro member
      obtain ⟨part, inside, empty⟩ := List.mem_map.mp member
      exact percentEncode_ne_nil (ne_nil_of_mem_components inside) empty
    rw [uriParts_ofList, pieces_encodeComponents present, List.count_cons_self,
      List.count_eq_zero.mpr written]

theorem Spells.components_eq (spells : Spells path uri) (spells' : Spells other uri) :
    path.components = other.components :=
  spells.components.symm.trans spells'.components

theorem fileUri?_inj (absolute : path.isAbsolute = true) (absolute' : other.isAbsolute = true) :
    path.fileUri? = other.fileUri? ↔ path.components = other.components := by
  constructor
  · intro same
    obtain ⟨uri, found, spells⟩ := exists_spells absolute
    obtain ⟨uri', found', spells'⟩ := exists_spells absolute'
    rw [found, found'] at same
    cases same
    exact spells.components_eq spells'
  · intro same
    rw [fileUri?_of_isAbsolute absolute, fileUri?_of_isAbsolute absolute', same]

end Uris

end WorkspaceServers.Path
