import WorkspaceServers.Text.Pieces
import WorkspaceServers.Text.Utf8.Basic

/-!
Paths as byte strings. A path is never normalised: what was written stays, and a
segment is put behind a single slash unless the path is empty or already ends in one.
-/

namespace WorkspaceServers

abbrev Path := Bytes

namespace Path

def slash : UInt8 := 0x2F

def dot : UInt8 := 0x2E

def ofString (text : String) : Path := Utf8.ofString text

def display (path : Path) : String := Utf8.lossy path

def isAbsolute (path : Path) : Bool := path.head? = some slash

/-- An absolute segment takes the place of the whole path. -/
def push (path segment : Path) : Path :=
  if isAbsolute segment then segment
  else if path = [] ∨ path.getLast? = some slash then path ++ segment
  else path ++ slash :: segment

def components (path : Path) : List Bytes :=
  (Text.pieces (· = slash) path).filter fun part => part ≠ [] ∧ part ≠ [dot]

def fileName? (path : Path) : Option Bytes :=
  (components path).getLast?.filter (· ≠ [dot, dot])

/-- What follows the last dot of the file name. A dot in front starts no extension. -/
def extension? (path : Path) : Option Bytes := do
  let (stem, extension) ← Text.splitAtLast? (· = dot) (← fileName? path)
  if stem = [] then none else some extension

/-- The segments of a text that may be added to a path: both kinds of slash separate,
and the segments that name nothing or a parent are dropped. -/
def segments (text : List Char) : List (List Char) :=
  (Text.pieces (fun c => c = '/' || c = '\\') text).filter fun segment =>
    segment ≠ [] ∧ segment ≠ ['.'] ∧ segment ≠ ['.', '.']

def extend (path : Path) (text : String) : Path :=
  (segments text.toList).foldl (fun path segment => push path (Utf8.encode segment)) path

end Path

end WorkspaceServers
