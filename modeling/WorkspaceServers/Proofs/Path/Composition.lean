import WorkspaceServers.Path.Basic
import WorkspaceServers.Proofs.Text.Cutting
import WorkspaceServers.Text.Utf8.Lemmas

/-!
Paths composed segment by segment. Each kept segment of a text becomes one more component
behind those of the path, so that the path only grows, nothing in it leads to a parent that
did not before, and from what was added the segments can be read back.
-/

namespace WorkspaceServers.Path

structure IsName (segment : List Char) : Prop where
  present : segment ≠ []
  not_self : segment ≠ ['.']
  not_parent : segment ≠ ['.', '.']
  no_slash : '/' ∉ segment
  no_backslash : '\\' ∉ segment

def names (text : String) : List Bytes := (segments text.toList).map Utf8.encode

variable {path : Path} {segment : List Char}

section Segments

theorem isName_of_mem_segments {text : List Char} (member : segment ∈ segments text) :
    IsName segment := by
  obtain ⟨piece, kept⟩ := List.mem_filter.mp member
  have clear := Text.clear_of_mem_pieces piece
  simp only [decide_eq_true_eq] at kept
  obtain ⟨present, not_self, not_parent⟩ := kept
  constructor
  · exact present
  · exact not_self
  · exact not_parent
  · intro inside
    have uncut := clear _ inside
    simp at uncut
  · intro inside
    have uncut := clear _ inside
    simp at uncut

theorem segments_append {mark : Char} (marks : mark = '/' ∨ mark = '\\')
    (first second : List Char) :
    segments (first ++ mark :: second) = segments first ++ segments second := by
  unfold segments
  rw [Text.pieces_append (by simpa using marks), List.filter_append]

theorem segments_of_uncut (no_slash : '/' ∉ segment) (no_backslash : '\\' ∉ segment) :
    segments segment = if segment ∈ [[], ['.'], ['.', '.']] then [] else [segment] := by
  have clear : ∀ c ∈ segment, (decide (c = '/') || decide (c = '\\')) = false := by
    intro c inside
    have other : c ≠ '/' := fun same => no_slash (same ▸ inside)
    have other' : c ≠ '\\' := fun same => no_backslash (same ▸ inside)
    simp [other, other']
  unfold segments
  rw [Text.pieces_of_clear clear]
  by_cases nameless : segment ∈ [[], ['.'], ['.', '.']]
  · rw [if_pos nameless]
    simp only [List.mem_cons, List.not_mem_nil, or_false] at nameless
    rcases nameless with rfl | rfl | rfl <;> rfl
  · rw [if_neg nameless]
    simp only [List.mem_cons, List.not_mem_nil, or_false, not_or] at nameless
    simp [nameless]

end Segments

section Components

theorem components_nil : components [] = [] := rfl

theorem components_append (front rest : Bytes) :
    components (front ++ slash :: rest) = components front ++ components rest := by
  unfold components
  rw [Text.pieces_append (by simp), List.filter_append]

theorem slash_notMem_encode (name : IsName segment) : slash ∉ Utf8.encode segment := by
  intro member
  apply name.no_slash
  exact Utf8.mem_of_mem_encode (c := '/') (by decide) member

theorem encode_ne {text : List Char} (other : segment ≠ text) :
    Utf8.encode segment ≠ Utf8.encode text :=
  mt Utf8.encode_inj.mp other

theorem components_encode (name : IsName segment) :
    components (Utf8.encode segment) = [Utf8.encode segment] := by
  have clear : ∀ byte ∈ Utf8.encode segment, decide (byte = slash) = false := by
    intro byte member
    rw [decide_eq_false_iff_not]
    intro same
    exact slash_notMem_encode name (same ▸ member)
  have present : Utf8.encode segment ≠ Utf8.encode [] := encode_ne name.present
  have other : Utf8.encode segment ≠ Utf8.encode ['.'] := encode_ne name.not_self
  have empty : Utf8.encode [] = [] := rfl
  have single : Utf8.encode ['.'] = [dot] := rfl
  rw [empty] at present
  rw [single] at other
  unfold components
  rw [Text.pieces_of_clear clear]
  simp [present, other]

theorem not_isAbsolute_encode (name : IsName segment) :
    isAbsolute (Utf8.encode segment) = false := by
  unfold isAbsolute
  rw [decide_eq_false_iff_not]
  intro head
  exact slash_notMem_encode name (List.mem_of_mem_head? head)

theorem components_of_getLast? (ends : path.getLast? = some slash) (rest : Bytes) :
    components (path ++ rest) = components path ++ components rest := by
  obtain ⟨front, rfl⟩ := List.getLast?_eq_some_iff.mp ends
  have whole : front ++ [slash] ++ rest = front ++ slash :: rest := by simp
  rw [whole, components_append, components_append, components_nil, List.append_nil]

theorem components_push (name : IsName segment) (path : Path) :
    components (push path (Utf8.encode segment)) = components path ++ [Utf8.encode segment] := by
  unfold push
  rw [if_neg (by simp [not_isAbsolute_encode name])]
  split
  · rename_i joined
    rcases joined with empty | ends
    · rw [empty, List.nil_append, components_encode name, components_nil, List.nil_append]
    · rw [components_of_getLast? ends, components_encode name]
  · rw [components_append, components_encode name]

theorem prefix_push (name : IsName segment) (path : Path) :
    path <+: push path (Utf8.encode segment) := by
  unfold push
  rw [if_neg (by simp [not_isAbsolute_encode name])]
  split
  · exact List.prefix_append _ _
  · exact List.prefix_append _ _

end Components

section Extensions

def extendBy (path : Path) (segments : List (List Char)) : Path :=
  segments.foldl (fun path segment => push path (Utf8.encode segment)) path

theorem extend_eq (path : Path) (text : String) :
    path.extend text = path.extendBy (segments text.toList) := rfl

theorem components_extendBy {added : List (List Char)} (named : ∀ segment ∈ added, IsName segment)
    (path : Path) :
    components (path.extendBy added) = components path ++ added.map Utf8.encode := by
  induction added generalizing path with
  | nil => exact (List.append_nil _).symm
  | cons segment rest ih =>
    obtain ⟨name, later⟩ := List.forall_mem_cons.mp named
    have here := ih later (push path (Utf8.encode segment))
    rw [components_push name, List.append_assoc] at here
    exact here

theorem prefix_extendBy {added : List (List Char)} (named : ∀ segment ∈ added, IsName segment)
    (path : Path) : path <+: path.extendBy added := by
  induction added generalizing path with
  | nil => exact List.prefix_refl path
  | cons segment rest ih =>
    obtain ⟨name, later⟩ := List.forall_mem_cons.mp named
    exact (prefix_push name path).trans (ih later _)

theorem components_extend (path : Path) (text : String) :
    components (path.extend text) = components path ++ names text :=
  components_extendBy (fun _ => isName_of_mem_segments) path

theorem prefix_extend (path : Path) (text : String) : path <+: path.extend text :=
  prefix_extendBy (fun _ => isName_of_mem_segments) path

theorem extend_extend (path : Path) (first second : String) :
    (path.extend first).extend second = path.extend (first ++ "/" ++ second) := by
  have joined : (first ++ "/" ++ second).toList = first.toList ++ '/' :: second.toList := by
    simp
  rw [extend_eq, extend_eq, extend_eq, joined, segments_append (.inl rfl)]
  unfold extendBy
  rw [List.foldl_append]

theorem names_inj {first second : String} :
    names first = names second ↔ segments first.toList = segments second.toList := by
  constructor
  · intro same
    exact (List.map_inj_right fun _ _ => Utf8.encode_inj.mp).mp same
  · intro same
    rw [names, same, names]

theorem components_extend_inj (path : Path) {first second : String} :
    components (path.extend first) = components (path.extend second) ↔
      segments first.toList = segments second.toList := by
  rw [components_extend, components_extend, List.append_cancel_left_eq, names_inj]

theorem extend_inj (path : Path) {first second : String} :
    path.extend first = path.extend second ↔
      segments first.toList = segments second.toList := by
  constructor
  · intro same
    exact (components_extend_inj path).mp (congrArg components same)
  · intro same
    rw [extend_eq, extend_eq, same]

theorem parent_notMem_names (text : String) : [dot, dot] ∉ names text := by
  intro member
  obtain ⟨segment, kept, encoded⟩ := List.mem_map.mp member
  apply (isName_of_mem_segments kept).not_parent
  exact Utf8.encode_inj.mp (encoded : _ = Utf8.encode ['.', '.'])

end Extensions

end WorkspaceServers.Path
