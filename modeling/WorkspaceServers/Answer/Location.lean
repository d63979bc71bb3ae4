import WorkspaceServers.Answer.UriReference
import WorkspaceServers.Json.Record

/-!
Places in documents, and the answer to a request for a definition: one place, several,
or links, of which the place that the target selects counts.
-/

namespace WorkspaceServers.Answer

open WorkspaceServers.Json (members? required? optional? list?)

/-- A zero-based line and offset in it. -/
structure Position where
  line : UInt32
  character : UInt32
deriving DecidableEq

namespace Position

def ofJson? (json : Json) : Option Position := do
  match ← members? ["line", "character"] json with
  | [line, character] =>
    return ⟨← required? Json.uint32? line, ← required? Json.uint32? character⟩
  | _ => none

def toJson (position : Position) : Json :=
  .object [("line", .ofUInt32 position.line), ("character", .ofUInt32 position.character)]

end Position

structure Range where
  start : Position
  stop : Position
deriving DecidableEq

namespace Range

def ofJson? (json : Json) : Option Range := do
  match ← members? ["start", "end"] json with
  | [start, stop] =>
    return ⟨← required? Position.ofJson? start, ← required? Position.ofJson? stop⟩
  | _ => none

def toJson (range : Range) : Json :=
  .object [("start", range.start.toJson), ("end", range.stop.toJson)]

end Range

namespace UriReference

def ofJson? (json : Json) : Option UriReference := json.str?.bind ofString?

def toJson (uri : UriReference) : Json := .str uri.text

end UriReference

structure Location where
  uri : UriReference
  range : Range
deriving DecidableEq

namespace Location

def ofJson? (json : Json) : Option Location := do
  match ← members? ["uri", "range"] json with
  | [uri, range] =>
    return ⟨← required? UriReference.ofJson? uri, ← required? Range.ofJson? range⟩
  | _ => none

def toJson (location : Location) : Json :=
  .object [("uri", location.uri.toJson), ("range", location.range.toJson)]

end Location

structure LocationLink where
  origin : Option Range
  target : UriReference
  targetRange : Range
  targetSelection : Range
deriving DecidableEq

namespace LocationLink

def ofJson? (json : Json) : Option LocationLink := do
  match ← members? ["originSelectionRange", "targetUri", "targetRange",
      "targetSelectionRange"] json with
  | [origin, target, range, selection] =>
    return ⟨← optional? Range.ofJson? origin, ← required? UriReference.ofJson? target,
      ← required? Range.ofJson? range, ← required? Range.ofJson? selection⟩
  | _ => none

def location (link : LocationLink) : Location := ⟨link.target, link.targetSelection⟩

end LocationLink

inductive Definition where
  | one (location : Location)
  | several (locations : List Location)
  | links (links : List LocationLink)

namespace Definition

def ofJson? (json : Json) : Option Definition :=
  ((Location.ofJson? json).map one).or
    (((list? Location.ofJson? json).map several).or
      ((list? LocationLink.ofJson? json).map links))

def locations : Definition → List Location
  | one location => [location]
  | several all => all
  | links all => all.map LocationLink.location

def locationsOf? : Json → Option (List Location)
  | .null => some []
  | json => (ofJson? json).map locations

end Definition

end WorkspaceServers.Answer
