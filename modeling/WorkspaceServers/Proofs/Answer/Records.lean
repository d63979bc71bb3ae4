import Mathlib.Data.List.Forall2
import WorkspaceServers.Answer.Location
import WorkspaceServers.Proofs.Json.RoundTrip
import WorkspaceServers.Proofs.Rpc.Classification

/-!
Records in answers. A record is read member for member and a list item for item, or neither is
read at all; a place that is printed reads back as itself, from the value and from its text.
-/

namespace WorkspaceServers

namespace Json

theorem members?_object (names : List String) (fields : List (String × Json)) :
    members? names (.object fields) =
      some (names.map fun name => Keyed.find? name fields.reverse) := by
  simp only [object, members?, Keyed.find?_ofList]

theorem length_members? {names : List String} {json : Json} {members : List (Option Json)}
    (found : members? names json = some members) : members.length = names.length := by
  cases json with
  | obj entries =>
    obtain rfl := Option.some.inj found
    exact List.length_map _
  | arr items =>
    rw [members?] at found
    split at found
    · rename_i same
      obtain rfl := Option.some.inj found
      rw [List.length_map, same]
    · cases found
  | null | bool _ | num _ | str _ => cases found

section Lists

variable {α : Type} {read : Json → Option α} {json : Json} {values : List α}

def ReadAs (read : Json → Option α) : List Json → List α → Prop :=
  List.Forall₂ fun item value => read item = some value

theorem list?_arr_eq_some_iff {items : List Json} :
    list? read (.arr items) = some values ↔ ReadAs read items values := by
  show items.mapM read = some values ↔ _
  induction items generalizing values with
  | nil =>
    rw [List.mapM_nil, ReadAs, List.forall₂_nil_left_iff]
    exact Option.some_inj.trans eq_comm
  | cons item rest ih =>
    rw [List.mapM_cons, ReadAs, List.forall₂_cons_left_iff]
    simp only [Option.bind_eq_bind, Option.bind_eq_some_iff, Option.pure_def, Option.some_inj, ih]
    constructor
    · rintro ⟨first, found, others, reads, rfl⟩
      exact ⟨first, others, found, reads, rfl⟩
    · rintro ⟨first, others, found, reads, rfl⟩
      exact ⟨first, found, others, reads, rfl⟩

theorem list?_eq_some_iff :
    list? read json = some values ↔ ∃ items, json = .arr items ∧ ReadAs read items values := by
  cases json with
  | arr items =>
    rw [list?_arr_eq_some_iff]
    simp
  | null | bool _ | num _ | str _ | obj _ => simp [list?]

theorem ReadAs.mem {items : List Json} (reads : ReadAs read items values) {item : Json}
    (member : item ∈ items) : ∃ value, read item = some value := by
  induction reads with
  | nil => cases member
  | cons found _ ih =>
    rcases List.mem_cons.mp member with rfl | later
    · exact ⟨_, found⟩
    · exact ih later

theorem readAs_map {print : α → Json} (back : ∀ value, read (print value) = some value)
    (values : List α) : ReadAs read (values.map print) values := by
  induction values with
  | nil => exact .nil
  | cons value rest ih => exact .cons (back value) ih

end Lists

section Shapes

/-- What a text of the value brings back, with brackets that nest this deep at most. -/
structure Printable (levels : Nat) (json : Json) : Prop where
  plain : json.Plain
  shallow : json.depth ≤ levels

variable {levels : Nat}

theorem itemsDepth_le {items : List Json} (shallow : ∀ item ∈ items, item.depth ≤ levels) :
    itemsDepth items ≤ levels := by
  induction items with
  | nil => exact Nat.zero_le _
  | cons item rest ih =>
    obtain ⟨first, others⟩ := List.forall_mem_cons.mp shallow
    exact Nat.max_le.mpr ⟨first, ih others⟩

theorem fieldsDepth_le {fields : List (String × Json)}
    (shallow : ∀ field ∈ fields, field.2.depth ≤ levels) : fieldsDepth fields ≤ levels := by
  induction fields with
  | nil => exact Nat.zero_le _
  | cons field rest ih =>
    obtain ⟨first, others⟩ := List.forall_mem_cons.mp shallow
    exact Nat.max_le.mpr ⟨first, ih others⟩

theorem printable_arr {items : List Json} (printable : ∀ item ∈ items, Printable levels item) :
    Printable (levels + 1) (.arr items) where
  plain := .arr fun item member => (printable item member).plain
  shallow := Nat.succ_le_succ (itemsDepth_le fun item member => (printable item member).shallow)

theorem mem_of_mem_ofList {fields : List (String × Json)} {field : String × Json}
    (member : field ∈ Keyed.ofList fields) : field ∈ fields := by
  have found := (Keyed.find?_eq_some_iff_mem (Keyed.ascending_ofList fields)).mpr member
  rw [Keyed.find?_ofList] at found
  exact List.mem_reverse.mp (Keyed.mem_of_find?_eq_some found)

theorem printable_object {fields : List (String × Json)}
    (printable : ∀ field ∈ fields, Printable levels field.2) :
    Printable (levels + 1) (.object fields) where
  plain := .obj (Keyed.ascending_ofList fields) fun field member =>
    (printable field (mem_of_mem_ofList member)).plain
  shallow := Nat.succ_le_succ (fieldsDepth_le fun field member =>
    (printable field (mem_of_mem_ofList member)).shallow)

theorem printable_ofUInt32 (word : UInt32) : Printable 0 (ofUInt32 word) :=
  ⟨.int _ _, Nat.le_refl _⟩

theorem printable_str (text : String) : Printable levels (.str text) :=
  ⟨.str text, Nat.zero_le _⟩

end Shapes

end Json

namespace Answer

open Json (members? required? optional? Printable)

section Reading

variable {json : Json}

theorem required?_some {α : Type} (read : Json → Option α) :
    required? read (some json) = read json := rfl

theorem required?_eq_some_iff {α : Type} {read : Json → Option α} {member : Option Json}
    {value : α} :
    required? read member = some value ↔ ∃ json, member = some json ∧ read json = some value :=
  Option.bind_eq_some_iff

theorem Position.ofJson?_of_members {line character : Option Json}
    (members : members? ["line", "character"] json = some [line, character]) :
    Position.ofJson? json = (required? Json.uint32? line).bind fun line =>
      (required? Json.uint32? character).bind fun character => some ⟨line, character⟩ := by
  rw [ofJson?, members]
  rfl

theorem Range.ofJson?_of_members {start stop : Option Json}
    (members : members? ["start", "end"] json = some [start, stop]) :
    Range.ofJson? json = (required? Position.ofJson? start).bind fun start =>
      (required? Position.ofJson? stop).bind fun stop => some ⟨start, stop⟩ := by
  rw [ofJson?, members]
  rfl

theorem Location.ofJson?_of_members {uri range : Option Json}
    (members : members? ["uri", "range"] json = some [uri, range]) :
    Location.ofJson? json = (required? UriReference.ofJson? uri).bind fun uri =>
      (required? Range.ofJson? range).bind fun range => some ⟨uri, range⟩ := by
  rw [ofJson?, members]
  rfl

end Reading

section Places

theorem Location.ofJson?_eq_some_iff {json : Json} {location : Location} :
    Location.ofJson? json = some location ↔
      ∃ uri range, members? ["uri", "range"] json = some [some uri, some range] ∧
        UriReference.ofJson? uri = some location.uri ∧
        Range.ofJson? range = some location.range := by
  constructor
  · intro read
    obtain ⟨members, found, _⟩ := Option.bind_eq_some_iff.mp read
    obtain ⟨first, second, rfl⟩ := List.length_eq_two.mp (Json.length_members? found)
    rw [ofJson?_of_members found] at read
    obtain ⟨uri, readUri, read⟩ := Option.bind_eq_some_iff.mp read
    obtain ⟨range, readRange, made⟩ := Option.bind_eq_some_iff.mp read
    obtain rfl := Option.some.inj made
    obtain ⟨uriJson, rfl, readUri⟩ := required?_eq_some_iff.mp readUri
    obtain ⟨rangeJson, rfl, readRange⟩ := required?_eq_some_iff.mp readRange
    exact ⟨uriJson, rangeJson, found, readUri, readRange⟩
  · rintro ⟨uri, range, found, readUri, readRange⟩
    have first : required? UriReference.ofJson? (some uri) = some location.uri := readUri
    have second : required? Range.ofJson? (some range) = some location.range := readRange
    rw [ofJson?_of_members found, first, second]
    rfl

theorem LocationLink.ofJson?_eq_some {json : Json} {link : LocationLink}
    (read : LocationLink.ofJson? json = some link) :
    ∃ origin uri range selection,
      members? ["originSelectionRange", "targetUri", "targetRange", "targetSelectionRange"] json =
        some [origin, some uri, some range, some selection] ∧
      UriReference.ofJson? uri = some link.target ∧
      Range.ofJson? selection = some link.targetSelection := by
  obtain ⟨members, found, rest⟩ := Option.bind_eq_some_iff.mp read
  have four := Json.length_members? found
  match members, four, found, rest with
  | [origin, uri, range, selection], _, found, rest =>
    obtain ⟨_, _, rest⟩ := Option.bind_eq_some_iff.mp rest
    obtain ⟨target, readTarget, rest⟩ := Option.bind_eq_some_iff.mp rest
    obtain ⟨_, readRange, rest⟩ := Option.bind_eq_some_iff.mp rest
    obtain ⟨selected, readSelection, made⟩ := Option.bind_eq_some_iff.mp rest
    obtain rfl := Option.some.inj made
    obtain ⟨uriJson, rfl, readTarget⟩ := required?_eq_some_iff.mp readTarget
    obtain ⟨rangeJson, rfl, _⟩ := required?_eq_some_iff.mp readRange
    obtain ⟨selectionJson, rfl, readSelection⟩ := required?_eq_some_iff.mp readSelection
    exact ⟨origin, uriJson, rangeJson, selectionJson, found, readTarget, readSelection⟩

end Places

section Printing

theorem Position.ofJson?_toJson (position : Position) :
    Position.ofJson? position.toJson = some position := by
  have found : members? ["line", "character"] position.toJson =
      some [some (.ofUInt32 position.line), some (.ofUInt32 position.character)] :=
    Json.members?_object _ _
  rw [ofJson?_of_members found, required?_some, required?_some, Json.uint32?_ofUInt32,
    Json.uint32?_ofUInt32]
  rfl

theorem Range.ofJson?_toJson (range : Range) : Range.ofJson? range.toJson = some range := by
  have found : members? ["start", "end"] range.toJson =
      some [some range.start.toJson, some range.stop.toJson] := Json.members?_object _ _
  rw [ofJson?_of_members found, required?_some, required?_some, Position.ofJson?_toJson,
    Position.ofJson?_toJson]
  rfl

theorem UriReference.ofJson?_toJson (uri : UriReference) :
    UriReference.ofJson? uri.toJson = some uri :=
  dif_pos uri.wellFormed

theorem Location.ofJson?_toJson (location : Location) :
    Location.ofJson? location.toJson = some location :=
  Location.ofJson?_eq_some_iff.mpr ⟨location.uri.toJson, location.range.toJson,
    Json.members?_object _ _, UriReference.ofJson?_toJson _, Range.ofJson?_toJson _⟩

theorem Position.printable (position : Position) : Printable 1 position.toJson := by
  apply Json.printable_object
  simp [Json.printable_ofUInt32]

theorem Range.printable (range : Range) : Printable 2 range.toJson := by
  apply Json.printable_object
  simp [Position.printable]

theorem Location.printable (location : Location) : Printable 3 location.toJson := by
  apply Json.printable_object
  simp [UriReference.toJson, Json.printable_str, Range.printable]

end Printing

end Answer

end WorkspaceServers
