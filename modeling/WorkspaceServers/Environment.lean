import WorkspaceServers.Path.Basic

/-!
The variables that a program runs with, and the directories that they name.
-/

namespace WorkspaceServers

structure Environment where
  entries : List (String × Bytes)

namespace Environment

def raw? (environment : Environment) (name : String) : Option Bytes :=
  environment.entries.lookup name

def isImpossibleName (name : String) : Bool :=
  name.isEmpty || name.toList.any fun c => c = '=' || c = '\x00'

/-- A variable as text; one that is not UTF-8 counts as unset. -/
def text? (environment : Environment) (name : String) : Option String :=
  if isImpossibleName name then none else (environment.raw? name).bind Utf8.toString?

def home? (environment : Environment) : Option Path :=
  (environment.raw? "HOME").filter (· ≠ [])

def dataDirectory? (environment : Environment) : Option Path :=
  ((environment.raw? "XDG_DATA_HOME").filter Path.isAbsolute).or
    (environment.home?.map fun home => home.push (.ofString ".local/share"))

end Environment

end WorkspaceServers
