import WorkspaceServers.Answer.Location

/-!
The answer to a hover request: a marked text, a list of them, or a block of markup,
with the range that it is about.
-/

namespace WorkspaceServers.Answer

open WorkspaceServers.Json (members? required? optional? list?)

inductive MarkedText where
  | plain (text : String)
  | code (language value : String)

namespace MarkedText

def codeOfJson? (json : Json) : Option MarkedText := do
  match ← members? ["language", "value"] json with
  | [language, value] => return .code (← required? Json.str? language) (← required? Json.str? value)
  | _ => none

def ofJson? (json : Json) : Option MarkedText := (json.str?.map plain).or (codeOfJson? json)

def toJson : MarkedText → Json
  | plain text => .str text
  | code language value => .object [("language", .str language), ("value", .str value)]

end MarkedText

inductive MarkupKind where
  | plainText
  | markdown

namespace MarkupKind

def name : MarkupKind → String
  | plainText => "plaintext"
  | markdown => "markdown"

def ofName? (name : String) : Option MarkupKind :=
  if name = "plaintext" then some plainText
  else if name = "markdown" then some markdown
  else none

/-- A name, or an object with the name as its only member and null in it. -/
def ofJson? : Json → Option MarkupKind
  | .str name => ofName? name
  | .obj [(name, .null)] => ofName? name
  | _ => none

end MarkupKind

inductive HoverContents where
  | single (text : MarkedText)
  | list (texts : List MarkedText)
  | markup (kind : MarkupKind) (value : String)

namespace HoverContents

def markupOfJson? (json : Json) : Option HoverContents := do
  match ← members? ["kind", "value"] json with
  | [kind, value] =>
    return .markup (← required? MarkupKind.ofJson? kind) (← required? Json.str? value)
  | _ => none

def ofJson? (json : Json) : Option HoverContents :=
  ((MarkedText.ofJson? json).map single).or
    (((list? MarkedText.ofJson? json).map list).or (markupOfJson? json))

def toJson : HoverContents → Json
  | single text => text.toJson
  | list texts => .arr (texts.map MarkedText.toJson)
  | markup kind value => .object [("kind", .str kind.name), ("value", .str value)]

end HoverContents

structure Hover where
  contents : HoverContents
  range : Option Range

namespace Hover

def ofJson? (json : Json) : Option Hover := do
  match ← members? ["contents", "range"] json with
  | [contents, range] =>
    return ⟨← required? HoverContents.ofJson? contents, ← optional? Range.ofJson? range⟩
  | _ => none

def hoverOf? : Json → Option (Option Hover)
  | .null => some none
  | json => (ofJson? json).map some

def toJson (hover : Hover) : Json :=
  .sparse [("contents", some hover.contents.toJson), ("range", hover.range.map Range.toJson)]

end Hover

end WorkspaceServers.Answer
