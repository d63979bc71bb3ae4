import WorkspaceServers.Path.Basic

/-!
The language of a document, told by the extension of its name. Headers count as the
Objective-C family, and everything unknown is Swift.
-/

namespace WorkspaceServers

inductive Language where
  | swift
  | objectiveC
  | objectiveCpp
  | c
  | cpp
deriving DecidableEq

namespace Language

def id : Language → String
  | swift => "swift"
  | objectiveC => "objective-c"
  | objectiveCpp => "objective-cpp"
  | c => "c"
  | cpp => "cpp"

/-- The extensions with a language of their own; capitals matter. -/
def table : List (String × Language) :=
  [("swift", swift), ("m", objectiveC), ("h", objectiveC), ("mm", objectiveCpp),
    ("hpp", objectiveCpp), ("c", c), ("cpp", cpp), ("cc", cpp), ("cxx", cpp), ("c++", cpp)]

def ofExtension (extension : String) : Language := (table.lookup extension).getD swift

/-- An extension that is no text counts as none. -/
def ofPath (path : Path) : Language :=
  match path.extension?.bind Utf8.toString? with
  | some extension => ofExtension extension
  | none => swift

end Language

end WorkspaceServers
