import WorkspaceServers.Proofs.Path.Composition

/-!
File names and extensions of composed paths. What a text adds to a path ends in the last name
of the text, so that is the file name, and the extension is read back from it alone: neither
the path nor what stands before or behind that name shows in it.
-/

namespace WorkspaceServers.Path

variable {path : Path} {text segment : List Char}

section Endings

/-- The segment is the last name in a text. Whatever stands before it, only parts that name
nothing stand behind it. -/
inductive EndsIn : List Char → List Char → Prop
  | alone {segment : List Char} (name : IsName segment) : EndsIn segment segment
  | led {separator : Char} {rest segment : List Char} (front : List Char)
      (separates : separator = '/' ∨ separator = '\\') (ends : EndsIn rest segment) :
      EndsIn (front ++ separator :: rest) segment
  | trailed {separator : Char} {front part segment : List Char} (ends : EndsIn front segment)
      (separates : separator = '/' ∨ separator = '\\')
      (nameless : part ∈ [[], ['.'], ['.', '.']]) : EndsIn (front ++ separator :: part) segment

theorem EndsIn.isName (ends : EndsIn text segment) : IsName segment := by
  induction ends with
  | alone name => exact name
  | led _ _ _ ih | trailed _ _ _ ih => exact ih

theorem segments_of_name (name : IsName segment) : segments segment = [segment] := by
  rw [segments_of_uncut name.no_slash name.no_backslash, if_neg]
  simp [name.present, name.not_self, name.not_parent]

theorem segments_of_nameless {part : List Char} (nameless : part ∈ [[], ['.'], ['.', '.']]) :
    segments part = [] := by
  simp only [List.mem_cons, List.not_mem_nil, or_false] at nameless
  rcases nameless with rfl | rfl | rfl <;> rfl

theorem EndsIn.getLast? (ends : EndsIn text segment) :
    (segments text).getLast? = some segment := by
  induction ends with
  | alone name => rw [segments_of_name name, List.getLast?_singleton]
  | led front separates _ ih =>
    rw [segments_append separates, List.getLast?_append, ih, Option.some_or]
  | trailed _ separates nameless ih =>
    rw [segments_append separates, segments_of_nameless nameless, List.append_nil, ih]

theorem isName_or_nameless {part : List Char}
    (clear : ∀ c ∈ part, (decide (c = '/') || decide (c = '\\')) = false) :
    IsName part ∨ part ∈ [[], ['.'], ['.', '.']] := by
  have no_slash : '/' ∉ part := fun inside => by simpa using clear _ inside
  have no_backslash : '\\' ∉ part := fun inside => by simpa using clear _ inside
  by_cases nameless : part ∈ [[], ['.'], ['.', '.']]
  · exact .inr nameless
  · have kept : part ∈ segments part := by
      rw [segments_of_uncut no_slash no_backslash, if_neg nameless]
      exact List.mem_singleton_self part
    exact .inl (isName_of_mem_segments kept)

theorem endsIn_of_getLast? (text : List Char) (last : (segments text).getLast? = some segment) :
    EndsIn text segment := by
  -- Parts are taken off the end of the text until one of them is a name.
  rcases Text.clear_or_last (fun c => c = '/' || c = '\\') text with
    clear | ⟨front, separator, part, rfl, separates, clear⟩
  · rcases isName_or_nameless clear with name | nameless
    · rw [segments_of_name name] at last
      cases last
      exact .alone name
    · rw [segments_of_nameless nameless] at last
      cases last
  · have separates' : separator = '/' ∨ separator = '\\' := by simpa using separates
    rw [segments_append separates'] at last
    rcases isName_or_nameless clear with name | nameless
    · rw [segments_of_name name, List.getLast?_append] at last
      cases last
      exact .led front separates' (.alone name)
    · rw [segments_of_nameless nameless, List.append_nil] at last
      exact .trailed (endsIn_of_getLast? front last) separates' nameless
termination_by text.length

theorem endsIn_iff : EndsIn text segment ↔ (segments text).getLast? = some segment :=
  ⟨EndsIn.getLast?, endsIn_of_getLast? text⟩

theorem EndsIn.unique {other : List Char} (ends : EndsIn text segment) (ends' : EndsIn text other) :
    segment = other := by
  rw [endsIn_iff] at ends ends'
  exact Option.some.inj (ends.symm.trans ends')

/-- Backslashes separate too, and three dots are a name. -/
example : (segments "a.c\\...//.\\../".toList).getLast? = some "...".toList := by decide

end Endings

section Names

variable {stem extension : List Char}

theorem fileName?_extend (path : Path) {name : String} (ends : EndsIn name.toList segment) :
    fileName? (path.extend name) = some (Utf8.encode segment) := by
  have last : (components (path.extend name)).getLast? = some (Utf8.encode segment) := by
    rw [components_extend, names, List.getLast?_append, List.getLast?_map, ends.getLast?]
    rfl
  have child : Utf8.encode segment ≠ [dot, dot] := encode_ne ends.isName.not_parent
  rw [fileName?, last]
  simp [child]

theorem encode_dotted (stem extension : List Char) :
    Utf8.encode (stem ++ '.' :: extension) = Utf8.encode stem ++ dot :: Utf8.encode extension := by
  rw [Utf8.encode_append, Utf8.encode_cons]
  rfl

theorem undotted_encode (undotted : '.' ∉ text) :
    ∀ byte ∈ Utf8.encode text, decide (byte = dot) = false := by
  intro byte member
  rw [decide_eq_false_iff_not]
  rintro rfl
  -- No longer character has the byte of a dot in it.
  exact undotted (Utf8.mem_of_mem_encode (c := '.') (by decide) member)

theorem extension?_of_undotted (found : fileName? path = some (Utf8.encode text))
    (undotted : '.' ∉ text) : extension? path = none := by
  have whole := Text.splitAtLast?_eq_none (undotted_encode undotted)
  simp [extension?, found, whole]

theorem extension?_of_dotted (stem : List Char)
    (found : fileName? path = some (Utf8.encode (stem ++ '.' :: extension)))
    (last : '.' ∉ extension) :
    extension? path = if stem = [] then none else some (Utf8.encode extension) := by
  have marks : decide (dot = dot) = true := decide_eq_true rfl
  have split := Text.splitAtLast?_append (undotted_encode last) marks (Utf8.encode stem)
  have nothing : Utf8.encode [] = [] := rfl
  have empty : Utf8.encode stem = [] ↔ stem = [] := by rw [← nothing, Utf8.encode_inj]
  rw [encode_dotted] at found
  simp [extension?, found, split, empty]

end Names

end WorkspaceServers.Path
