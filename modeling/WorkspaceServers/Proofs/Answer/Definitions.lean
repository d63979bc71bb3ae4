import WorkspaceServers.Proofs.Answer.Records
import WorkspaceServers.Session.Operation

/-!
What the answer to a request for a definition comes to. The first shape that the whole value
has is the one that counts, nothing of it is lost on the way, and what is made of it reads back
as itself.
-/

namespace WorkspaceServers.Answer

open Json (ReadAs list? members?)

namespace Definition

variable {result : Json} {definition : Definition}

/-- The whole value has the shape, and this is what it holds. -/
inductive Fits (result : Json) : Definition → Prop where
  | one {location : Location} (read : Location.ofJson? result = some location) :
      Fits result (.one location)
  | several {items : List Json} {locations : List Location} (list : result = .arr items)
      (read : ReadAs Location.ofJson? items locations) : Fits result (.several locations)
  | links {items : List Json} {links : List LocationLink} (list : result = .arr items)
      (read : ReadAs LocationLink.ofJson? items links) : Fits result (.links links)

def rank : Definition → Nat
  | one _ => 0
  | several _ => 1
  | links _ => 2

/-- The shape fits, and none that comes before it does. -/
structure First (result : Json) (definition : Definition) : Prop where
  fits : Fits result definition
  least : ∀ other, Fits result other → definition.rank ≤ other.rank

theorem fits_one_iff {location : Location} :
    Fits result (.one location) ↔ Location.ofJson? result = some location :=
  ⟨fun (.one read) => read, .one⟩

theorem fits_several_iff {locations : List Location} :
    Fits result (.several locations) ↔ list? Location.ofJson? result = some locations := by
  rw [Json.list?_eq_some_iff]
  exact ⟨fun (.several list read) => ⟨_, list, read⟩, fun ⟨_, list, read⟩ => .several list read⟩

theorem fits_links_iff {links : List LocationLink} :
    Fits result (.links links) ↔ list? LocationLink.ofJson? result = some links := by
  rw [Json.list?_eq_some_iff]
  exact ⟨fun (.links list read) => ⟨_, list, read⟩, fun ⟨_, list, read⟩ => .links list read⟩

theorem Fits.unique {other : Definition} (fits : Fits result definition)
    (also : Fits result other) (same : definition.rank = other.rank) : definition = other := by
  cases definition <;> cases other <;> try cases same
  case one.one =>
    rw [fits_one_iff] at fits also
    rw [Option.some.inj (fits.symm.trans also)]
  case several.several =>
    rw [fits_several_iff] at fits also
    rw [Option.some.inj (fits.symm.trans also)]
  case links.links =>
    rw [fits_links_iff] at fits also
    rw [Option.some.inj (fits.symm.trans also)]

theorem ofJson?_eq_none_iff : ofJson? result = none ↔ ∀ definition, ¬ Fits result definition := by
  simp only [ofJson?, Option.or_eq_none_iff, Option.map_eq_none_iff]
  constructor
  · rintro ⟨notOne, notSeveral, notLinks⟩ definition fits
    cases definition with
    | one location => simp [fits_one_iff.mp fits] at notOne
    | several locations => simp [fits_several_iff.mp fits] at notSeveral
    | links links => simp [fits_links_iff.mp fits] at notLinks
  · intro unfit
    refine ⟨?_, ?_, ?_⟩
    · exact Option.eq_none_iff_forall_ne_some.mpr fun _ read => unfit _ (fits_one_iff.mpr read)
    · exact Option.eq_none_iff_forall_ne_some.mpr fun _ read => unfit _ (fits_several_iff.mpr read)
    · exact Option.eq_none_iff_forall_ne_some.mpr fun _ read => unfit _ (fits_links_iff.mpr read)

theorem first_of_ofJson? (read : ofJson? result = some definition) : First result definition := by
  simp only [ofJson?, Option.or_eq_some_iff, Option.map_eq_some_iff, Option.map_eq_none_iff]
    at read
  rcases read with ⟨location, read, rfl⟩ | ⟨notOne, ⟨locations, read, rfl⟩ |
    ⟨notSeveral, links, read, rfl⟩⟩
  · exact ⟨fits_one_iff.mpr read, fun _ _ => Nat.zero_le _⟩
  · refine ⟨fits_several_iff.mpr read, fun other fits => ?_⟩
    cases other with
    | one location => simp [fits_one_iff.mp fits] at notOne
    | several _ => exact Nat.le_refl _
    | links _ => exact Nat.le_succ _
  · refine ⟨fits_links_iff.mpr read, fun other fits => ?_⟩
    cases other with
    | one location => simp [fits_one_iff.mp fits] at notOne
    | several locations => simp [fits_several_iff.mp fits] at notSeveral
    | links _ => exact Nat.le_refl _

theorem ofJson?_eq_some_iff : ofJson? result = some definition ↔ First result definition := by
  constructor
  · exact first_of_ofJson?
  · intro first
    cases read : ofJson? result with
    | none => exact absurd first.fits (ofJson?_eq_none_iff.mp read definition)
    | some other =>
      have also := first_of_ofJson? read
      have same := Nat.le_antisymm (also.least _ first.fits) (first.least _ also.fits)
      rw [also.fits.unique first.fits same]

end Definition

open Definition (Fits First)

def answerTo (result : Json) : Except Failure Session.Reply :=
  Session.Question.definition.conclude (.ok result)

/-- The item is a link to the place: to what it selects in its target. -/
def LinksTo (item : Json) (location : Location) : Prop :=
  ∃ origin uri range selection,
    members? ["originSelectionRange", "targetUri", "targetRange", "targetSelectionRange"] item =
      some [origin, some uri, some range, some selection] ∧
    UriReference.ofJson? uri = some location.uri ∧
    Range.ofJson? selection = some location.range

/-- Every value is answered by all the places that its first shape holds, item for item, or it
is malformed and no place is given. A list of two items can be a single place, as the list of its
members; of all other lists one item that has neither shape, or two that have no shape in common,
spoil the whole. -/
structure Flattens (result : Json) : Prop where
  null : result = .null → answerTo result = .ok (.locations [])
  one : ∀ location, First result (.one location) →
    answerTo result = .ok (.locations [location])
  several : ∀ locations, First result (.several locations) →
    answerTo result = .ok (.locations locations)
  links : ∀ links, First result (.links links) →
    answerTo result = .ok (.locations (links.map fun link => ⟨link.target, link.targetSelection⟩))
  itemwise : ∀ items locations, result = .arr items → Location.ofJson? result = none →
    answerTo result = .ok (.locations locations) →
      (List.Forall₂ (fun item location => Location.ofJson? item = some location) items locations ∨
        List.Forall₂ LinksTo items locations) ∧ locations.length = items.length
  malformed : answerTo result = .error (.malformed "textDocument/definition") ↔
    result ≠ .null ∧ ∀ definition, ¬ Fits result definition
  misfit : ∀ items, result = .arr items → Location.ofJson? result = none →
    (∃ item ∈ items, Location.ofJson? item = none ∧ LocationLink.ofJson? item = none) →
    answerTo result = .error (.malformed "textDocument/definition")
  mixed : ∀ items, result = .arr items →
    (∃ item ∈ items, (Location.ofJson? item).isSome ∧ LocationLink.ofJson? item = none) →
    (∃ item ∈ items, (LocationLink.ofJson? item).isSome ∧ Location.ofJson? item = none) →
    answerTo result = .error (.malformed "textDocument/definition")
  single : ∀ items location, result = .arr items →
    (Location.ofJson? result = some location ↔ ∃ text range, items = [.str text, range] ∧
      UriReference.ofString? text = some location.uri ∧
      Range.ofJson? range = some location.range)

section Answers

variable {result : Json} {items : List Json} {definition : Definition}

theorem answerTo_null : answerTo .null = .ok (.locations []) := rfl

theorem not_fits_null : ¬ Fits .null definition := by
  rintro (read | ⟨list, _⟩ | ⟨list, _⟩)
  · cases read
  · cases list
  · cases list

theorem answerTo_eq (value : result ≠ .null) : answerTo result =
    match Definition.ofJson? result with
    | some definition => .ok (.locations definition.locations)
    | none => .error (.malformed "textDocument/definition") := by
  have same : Definition.locationsOf? result =
      (Definition.ofJson? result).map Definition.locations := by
    cases result <;> first | rfl | exact absurd rfl value
  rw [answerTo, Session.Question.conclude, Session.Question.concludeBy, Session.Question.read?,
    same]
  cases Definition.ofJson? result <;> rfl

theorem answerTo_of_first (first : First result definition) :
    answerTo result = .ok (.locations definition.locations) := by
  have value : result ≠ .null := by
    rintro rfl
    exact not_fits_null first.fits
  rw [answerTo_eq value, Definition.ofJson?_eq_some_iff.mpr first]

theorem answerTo_eq_malformed_iff :
    answerTo result = .error (.malformed "textDocument/definition") ↔
      result ≠ .null ∧ ∀ definition, ¬ Fits result definition := by
  rw [← Definition.ofJson?_eq_none_iff]
  by_cases value : result = .null
  · subst value
    rw [answerTo_null]
    simp
  · rw [answerTo_eq value]
    cases Definition.ofJson? result <;> simp [value]

theorem exists_first {locations : List Location} (value : result ≠ .null)
    (given : answerTo result = .ok (.locations locations)) :
    ∃ definition, First result definition ∧ locations = definition.locations := by
  rw [answerTo_eq value] at given
  cases read : Definition.ofJson? result with
  | none =>
    rw [read] at given
    cases given
  | some definition =>
    rw [read] at given
    cases given
    exact ⟨definition, Definition.ofJson?_eq_some_iff.mp read, rfl⟩

theorem linksTo_of_ofJson? {item : Json} {link : LocationLink}
    (read : LocationLink.ofJson? item = some link) : LinksTo item link.location :=
  LocationLink.ofJson?_eq_some read

theorem forall₂_of_answerTo {locations : List Location}
    (notSingle : Location.ofJson? (.arr items) = none)
    (given : answerTo (.arr items) = .ok (.locations locations)) :
    List.Forall₂ (fun item location => Location.ofJson? item = some location) items locations ∨
      List.Forall₂ LinksTo items locations := by
  obtain ⟨definition, first, rfl⟩ := exists_first (by simp) given
  cases first.fits with
  | one read => simp [read] at notSingle
  | several list read =>
    cases list
    exact .inl read
  | links list read =>
    cases list
    refine .inr (List.forall₂_map_right_iff.mpr ?_)
    exact read.imp fun _ _ read => linksTo_of_ofJson? read

theorem malformed_of_items (notSingle : Location.ofJson? (.arr items) = none)
    (noLocation : ∃ item ∈ items, Location.ofJson? item = none)
    (noLink : ∃ item ∈ items, LocationLink.ofJson? item = none) :
    answerTo (.arr items) = .error (.malformed "textDocument/definition") := by
  refine answerTo_eq_malformed_iff.mpr ⟨by simp, fun definition fits => ?_⟩
  cases fits with
  | one read => simp [read] at notSingle
  | several list read =>
    cases list
    obtain ⟨item, member, none⟩ := noLocation
    obtain ⟨location, found⟩ := read.mem member
    simp [none] at found
  | links list read =>
    cases list
    obtain ⟨item, member, none⟩ := noLink
    obtain ⟨link, found⟩ := read.mem member
    simp [none] at found

theorem Location.ofJson?_arr_eq_some_iff {location : Location} :
    Location.ofJson? (.arr items) = some location ↔ ∃ text range, items = [.str text, range] ∧
      UriReference.ofString? text = some location.uri ∧
      Range.ofJson? range = some location.range := by
  rw [Location.ofJson?_eq_some_iff]
  constructor
  · rintro ⟨uri, range, found, readUri, readRange⟩
    obtain ⟨text, shown, readText⟩ := Option.bind_eq_some_iff.mp readUri
    obtain rfl := Json.str?_eq_some_iff.mp shown
    rw [Json.members?] at found
    split at found
    · obtain ⟨first, second, rfl⟩ := List.length_eq_two.mp ‹_›
      cases found
      exact ⟨text, range, rfl, readText, readRange⟩
    · cases found
  · rintro ⟨text, range, rfl, readText, readRange⟩
    exact ⟨.str text, range, rfl, readText, readRange⟩

theorem not_single_of_mixed
    (onlyLocation : ∃ item ∈ items, (Location.ofJson? item).isSome ∧
      LocationLink.ofJson? item = none)
    (onlyLink : ∃ item ∈ items, (LocationLink.ofJson? item).isSome ∧
      Location.ofJson? item = none) : Location.ofJson? (.arr items) = none := by
  -- The list of the members of a place has no two items of which each has one shape only: its
  -- first item is a text.
  refine Option.eq_none_iff_forall_ne_some.mpr fun location read => ?_
  obtain ⟨text, range, rfl, _⟩ := Location.ofJson?_arr_eq_some_iff.mp read
  obtain ⟨item, member, isLocation, _⟩ := onlyLocation
  obtain ⟨other, alsoMember, isLink, notLocation⟩ := onlyLink
  have noLocation : Location.ofJson? (.str text) = none := rfl
  have noLink : LocationLink.ofJson? (.str text) = none := rfl
  rcases List.mem_pair.mp member with rfl | rfl
  · simp [noLocation] at isLocation
  · rcases List.mem_pair.mp alsoMember with rfl | rfl
    · simp [noLink] at isLink
    · simp [notLocation] at isLocation

end Answers

theorem flattens (result : Json) : Flattens result where
  null := by
    rintro rfl
    rfl
  one _ first := answerTo_of_first first
  several _ first := answerTo_of_first first
  links _ first := answerTo_of_first first
  itemwise := by
    rintro items locations rfl notSingle given
    have each := forall₂_of_answerTo notSingle given
    refine ⟨each, ?_⟩
    rcases each with each | each <;> exact each.length_eq.symm
  malformed := answerTo_eq_malformed_iff
  misfit := by
    rintro items rfl notSingle ⟨item, member, noLocation, noLink⟩
    exact malformed_of_items notSingle ⟨item, member, noLocation⟩ ⟨item, member, noLink⟩
  mixed := by
    rintro items rfl onlyLocation onlyLink
    have notSingle := not_single_of_mixed onlyLocation onlyLink
    obtain ⟨item, member, _, noLink⟩ := onlyLocation
    obtain ⟨other, alsoMember, _, noLocation⟩ := onlyLink
    exact malformed_of_items notSingle ⟨other, alsoMember, noLocation⟩ ⟨item, member, noLink⟩
  single := by
    rintro items location rfl
    exact Location.ofJson?_arr_eq_some_iff

section Printed

variable (locations : List Location)

theorem not_single_printed : Location.ofJson? (.arr (locations.map Location.toJson)) = none := by
  -- A printed list is no single place: its items are objects.
  refine Option.eq_none_iff_forall_ne_some.mpr fun location read => ?_
  obtain ⟨text, range, same, _⟩ := Location.ofJson?_arr_eq_some_iff.mp read
  cases locations with
  | nil => cases same
  | cons first rest => cases (List.cons.inj same).1

theorem first_printed :
    First (.arr (locations.map Location.toJson)) (.several locations) where
  fits := .several rfl (Json.readAs_map Location.ofJson?_toJson locations)
  least := by
    intro other fits
    cases fits with
    | one read => simp [not_single_printed] at read
    | several _ _ => exact Nat.le_refl _
    | links _ _ => exact Nat.le_succ _

theorem answerTo_printed :
    answerTo (Session.Reply.locations locations).toJson = .ok (.locations locations) :=
  answerTo_of_first (first_printed locations)

theorem ofBytes?_printed :
    Json.ofBytes? (Session.Reply.locations locations).toJson.bytes =
      some (Session.Reply.locations locations).toJson := by
  have printable : Json.Printable 4 (Session.Reply.locations locations).toJson := by
    apply Json.printable_arr
    intro item member
    obtain ⟨location, _, rfl⟩ := List.mem_map.mp member
    exact location.printable
  exact Json.ofBytes?_bytes printable.plain (Nat.le_trans printable.shallow (by decide))

end Printed

/-- Every result is answered without loss, and every answer reads back, from its value as from
its text. -/
theorem definitions_flattened : (∀ result, Flattens result) ∧
    ∀ locations, answerTo (Session.Reply.locations locations).toJson = .ok (.locations locations) ∧
      Json.ofBytes? (Session.Reply.locations locations).toJson.bytes =
        some (Session.Reply.locations locations).toJson := by
  constructor
  · exact flattens
  · intro locations
    exact ⟨answerTo_printed locations, ofBytes?_printed locations⟩

/-- Neither item of this list is a place or a link, and still it is answered by one place: it is
the list of the members of one. -/
theorem list_form_answered :
    Location.ofJson? (.str "") = none ∧ LocationLink.ofJson? (.str "") = none ∧
    ∃ range uri, answerTo (.arr [.str "", .arr [.arr [.ofUInt32 0, .ofUInt32 0],
      .arr [.ofUInt32 0, .ofUInt32 0]]]) = .ok (.locations [⟨uri, range⟩]) := by
  refine ⟨rfl, rfl, _, _, rfl⟩

end WorkspaceServers.Answer
