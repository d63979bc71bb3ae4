import WorkspaceServers.Proofs.Path.Extension
import WorkspaceServers.Workspace.Document

/-!
The languages of documents. The last name in the name of a document suggests exactly one
language, and that is the language of the document under every root.
-/

namespace WorkspaceServers

namespace Language

/-- What a name says of its language. A dot in front of it starts no extension, and an
extension that is not listed says no more than none. -/
inductive Suggests : List Char → Language → Prop
  | listed {stem extension : List Char} {language : Language} (present : stem ≠ [])
      (last : '.' ∉ extension) (entry : (String.ofList extension, language) ∈ table) :
      Suggests (stem ++ '.' :: extension) language
  | unlisted {stem extension : List Char} (present : stem ≠ []) (last : '.' ∉ extension)
      (absent : ∀ language, (String.ofList extension, language) ∉ table) :
      Suggests (stem ++ '.' :: extension) swift
  | hidden {rest : List Char} (undotted : '.' ∉ rest) : Suggests ('.' :: rest) swift
  | bare {name : List Char} (undotted : '.' ∉ name) : Suggests name swift

variable {path : Path} {name : List Char} {language : Language}

section Extensions

variable {extension : String}

theorem ofExtension_of_mem (entry : (extension, language) ∈ table) :
    ofExtension extension = language := by
  have every : ∀ entry ∈ table, ofExtension entry.1 = entry.2 := by decide
  exact every _ entry

theorem ofExtension_of_notMem (absent : ∀ language, (extension, language) ∉ table) :
    ofExtension extension = swift := by
  have missed : table.lookup extension = none := by
    apply List.lookup_eq_none_iff.mpr
    rintro ⟨other, language⟩ member
    rw [bne_iff_ne]
    rintro rfl
    exact absent language member
  rw [ofExtension, missed]
  rfl

theorem ofPath_of_extension {text : List Char}
    (found : path.extension? = some (Utf8.encode text)) :
    ofPath path = ofExtension (String.ofList text) := by
  have read : Utf8.toString? (Utf8.encode text) = some (String.ofList text) := by
    rw [Utf8.toString?, Utf8.decode?_encode]
    rfl
  simp only [ofPath, found, Option.bind_some, read]

theorem ofPath_of_dotted {stem text : List Char}
    (found : path.fileName? = some (Utf8.encode (stem ++ '.' :: text))) (present : stem ≠ [])
    (last : '.' ∉ text) : ofPath path = ofExtension (String.ofList text) := by
  have extension := Path.extension?_of_dotted stem found last
  rw [if_neg present] at extension
  exact ofPath_of_extension extension

theorem ofPath_of_no_extension (absent : path.extension? = none) : ofPath path = swift := by
  simp only [ofPath, absent, Option.bind_none]

end Extensions

theorem exists_suggests (name : List Char) : ∃ language, Suggests name language := by
  rcases Text.clear_or_last (· = '.') name with clear | ⟨stem, mark, extension, rfl, marks, clear⟩
  · have undotted : '.' ∉ name := fun inside => by simpa using clear _ inside
    exact ⟨swift, .bare undotted⟩
  · have last : '.' ∉ extension := fun inside => by simpa using clear _ inside
    rw [decide_eq_true_eq] at marks
    subst marks
    by_cases empty : stem = []
    · subst empty
      exact ⟨swift, .hidden last⟩
    · by_cases listed : ∃ language, (String.ofList extension, language) ∈ table
      · obtain ⟨language, entry⟩ := listed
        exact ⟨language, .listed empty last entry⟩
      · exact ⟨swift, .unlisted empty last (not_exists.mp listed)⟩

theorem Suggests.ofPath_eq (found : path.fileName? = some (Utf8.encode name))
    (suggests : Suggests name language) : ofPath path = language := by
  cases suggests with
  | listed present last entry =>
    rw [ofPath_of_dotted found present last, ofExtension_of_mem entry]
  | unlisted present last absent =>
    rw [ofPath_of_dotted found present last, ofExtension_of_notMem absent]
  | hidden undotted =>
    have extension := Path.extension?_of_dotted [] found undotted
    rw [if_pos rfl] at extension
    exact ofPath_of_no_extension extension
  | bare undotted => exact ofPath_of_no_extension (Path.extension?_of_undotted found undotted)

theorem ofPath_eq_iff (found : path.fileName? = some (Utf8.encode name)) :
    ofPath path = language ↔ Suggests name language := by
  obtain ⟨suggested, suggests⟩ := exists_suggests name
  have whole := suggests.ofPath_eq found
  constructor
  · intro same
    rw [← same, whole]
    exact suggests
  · exact Suggests.ofPath_eq found

end Language

namespace Workspace

open WorkspaceServers.Path (EndsIn)

variable {name : String} {segment : List Char}

theorem documentLanguage_eq_iff (root : Path) (ends : EndsIn name.toList segment)
    {language : Language} :
    documentLanguage root name = language ↔ Language.Suggests segment language :=
  Language.ofPath_eq_iff (Path.fileName?_extend root ends)

theorem documentLanguage_congr (root root' : Path) {name' : String}
    (ends : EndsIn name.toList segment) (ends' : EndsIn name'.toList segment) :
    documentLanguage root' name' = documentLanguage root name :=
  (documentLanguage_eq_iff root' ends').mpr ((documentLanguage_eq_iff root ends).mp rfl)

/-- The extension of a directory does not count, nor does one that is written in capitals. -/
example : documentLanguage (.ofString "/srv/lib.cpp") "main.c/View.h.C/.." = .swift := by decide

end Workspace

end WorkspaceServers
