import WorkspaceServers.Text.Utf8.Lemmas
import WorkspaceServers.Workspace.Document
import WorkspaceServers.Workspace.Storage

/-!
Paths of documents. Adding the segments of a text to a path leaves it absolute, and text if
it was text, so every document below an absolute root has a URI, and can be told by name if
the root can.
-/

namespace WorkspaceServers

namespace Utf8

theorem decodeFrom_of_need {state : Open} (whole : state.need = 0) (bytes : Bytes) :
    decodeFrom state bytes = decodeFrom closed bytes := by
  cases bytes with
  | nil => simp [decodeFrom, whole, closed]
  | cons byte rest => simp [decodeFrom, whole, closed]

theorem decodeFrom_cons (state : Open) (byte : UInt8) :
    (∀ rest, decodeFrom state (byte :: rest) = none) ∨
    (∃ c, ∀ rest, decodeFrom state (byte :: rest) = (decodeFrom closed rest).map (c :: ·)) ∨
    ∃ next, ∀ rest, decodeFrom state (byte :: rest) = decodeFrom next rest := by
  by_cases whole : state.need = 0
  · by_cases ascii : byte.toNat < 0x80
    · exact .inr (.inl ⟨Char.ofNat byte.toNat, fun rest => by
        simp only [decodeFrom, whole, ascii, if_true]⟩)
    · cases lead : lead? byte.toNat with
      | none => exact .inl fun rest => by simp only [decodeFrom, whole, ascii, lead]; rfl
      | some opened =>
        exact .inr (.inr ⟨opened, fun rest => by simp only [decodeFrom, whole, ascii, lead]; rfl⟩)
  · by_cases fits : state.low ≤ byte.toNat ∧ byte.toNat ≤ state.high
    · by_cases last : state.need = 1
      · exact .inr (.inl ⟨_, fun rest => by
          simp only [decodeFrom, if_neg whole, if_pos fits, if_pos last]; rfl⟩)
      · exact .inr (.inr ⟨_, fun rest => by
          simp only [decodeFrom, if_neg whole, if_pos fits, if_neg last]; rfl⟩)
    · exact .inl fun rest => by simp only [decodeFrom, if_neg whole, if_neg fits]

theorem decodeFrom_append {state : Open} {front : Bytes} {text : List Char}
    (whole : decodeFrom state front = some text) (rest : Bytes) :
    decodeFrom state (front ++ rest) = (decodeFrom closed rest).map (text ++ ·) := by
  induction front generalizing state text with
  | nil =>
    rw [decodeFrom] at whole
    split at whole
    · rename_i needs
      cases whole
      rw [List.nil_append, decodeFrom_of_need needs]
      exact Option.map_id'.symm
    · cases whole
  | cons byte front ih =>
    rw [List.cons_append]
    -- What stands behind the byte makes no difference to what it does.
    rcases decodeFrom_cons state byte with broken | ⟨c, ends⟩ | ⟨next, goes⟩
    · rw [broken] at whole
      cases whole
    · rw [ends] at whole ⊢
      obtain ⟨later, decoded, rfl⟩ := Option.map_eq_some_iff.mp whole
      rw [ih decoded, Option.map_map]
      rfl
    · rw [goes] at whole ⊢
      exact ih whole

end Utf8

namespace Path

def IsText (path : Path) : Prop := (Utf8.toString? path).isSome = true

theorem isText_iff {path : Path} : IsText path ↔ ∃ text, Utf8.decode? path = some text := by
  rw [IsText, Utf8.toString?, Option.isSome_map, Option.isSome_iff_exists]

theorem isText_encode (text : List Char) : IsText (Utf8.encode text) :=
  isText_iff.mpr ⟨text, Utf8.decode?_encode text⟩

theorem IsText.append {first second : Path} (text : IsText first) (text' : IsText second) :
    IsText (first ++ second) := by
  obtain ⟨front, decoded⟩ := isText_iff.mp text
  obtain ⟨behind, decoded'⟩ := isText_iff.mp text'
  refine isText_iff.mpr ⟨front ++ behind, ?_⟩
  rw [Utf8.decode?] at decoded decoded' ⊢
  rw [Utf8.decodeFrom_append decoded, decoded']
  rfl

theorem IsText.push {path segment : Path} (text : IsText path) (text' : IsText segment) :
    IsText (path.push segment) := by
  have slashed : IsText (slash :: segment) :=
    (isText_encode ['/']).append text'
  unfold Path.push
  split
  · exact text'
  · split
    · exact text.append text'
    · exact text.append slashed

theorem IsText.extend {path : Path} (text : IsText path) (name : String) :
    IsText (path.extend name) := by
  unfold Path.extend
  generalize segments name.toList = names
  induction names generalizing path with
  | nil => exact text
  | cons segment rest ih => exact ih (text.push (isText_encode segment))

theorem isAbsolute_push {path : Path} (absolute : path.isAbsolute = true) (segment : Path) :
    (path.push segment).isAbsolute = true := by
  obtain ⟨first, rest, rfl⟩ : ∃ first rest, path = first :: rest := by
    cases path with
    | nil => cases absolute
    | cons first rest => exact ⟨first, rest, rfl⟩
  unfold push
  split
  · assumption
  · split <;> exact absolute

theorem isAbsolute_extend {path : Path} (absolute : path.isAbsolute = true) (name : String) :
    (path.extend name).isAbsolute = true := by
  unfold extend
  generalize segments name.toList = names
  induction names generalizing path with
  | nil => exact absolute
  | cons segment rest ih => exact ih (isAbsolute_push absolute _)

theorem fileUri?_isSome_iff (path : Path) :
    path.fileUri?.isSome = true ↔ path.isAbsolute = true := by
  unfold fileUri?
  split <;> simp [*]

end Path

namespace Workspace

theorem isAbsolute_documentRoot (storage : Storage) (identity : Identity) :
    (storage.documentRoot identity).isAbsolute = true :=
  Path.isAbsolute_extend (Path.isAbsolute_extend (Path.isAbsolute_extend storage.absolute _) _) _

theorem exists_documentUri {root : Path} (absolute : root.isAbsolute = true) (name : String) :
    ∃ uri, documentUri? root name = some uri :=
  Option.isSome_iff_exists.mp
    ((Path.fileUri?_isSome_iff _).mpr (Path.isAbsolute_extend absolute name))

end Workspace

end WorkspaceServers
