import WorkspaceServers.Config.Load
import WorkspaceServers.Launch.Machine

/-!
A tree of files in memory: where paths lead in it, what is read there, and which
programs are found.
-/

namespace WorkspaceServers.Simulation

inductive Kind where
  | plain
  | program
  /-- A program that is found and cannot be started. -/
  | broken
deriving DecidableEq

inductive Node where
  | directory
  | file (content : Bytes) (kind : Kind)

abbrev Place := List Bytes

structure Files where
  nodes : List (Place × Node)
  working : Place

namespace Files

def node? (files : Files) (place : Place) : Option Node :=
  if place = [] then some .directory else files.nodes.lookup place

def isDirectory (files : Files) (place : Place) : Bool :=
  match files.node? place with
  | some .directory => true
  | _ => false

def walk (files : Files) : List Bytes → Place → Option (Place × Node)
  | [], place => (files.node? place).map (place, ·)
  | part :: rest, place =>
    if !files.isDirectory place then none
    else if part = [] ∨ part = [Path.dot] then walk files rest place
    else if part = [Path.dot, Path.dot] then walk files rest place.dropLast
    else if part.contains 0 then none
    else walk files rest (place ++ [part])

def origin (files : Files) (path : Path) : Place := if path.isAbsolute then [] else files.working

def find? (files : Files) (path : Path) : Option (Place × Node) :=
  if path = [] then none
  else files.walk (Text.pieces (· = Path.slash) path) (files.origin path)

def state (files : Files) (path : Path) : Config.FileState :=
  match files.find? path with
  | none => .missing
  | some (_, .directory) => .unreadable
  | some (_, .file content _) => .content content

def text? (files : Files) (path : Path) : Option String :=
  match files.find? path with
  | some (_, .file content _) => Utf8.toString? content
  | _ => none

def put (place : Place) (node : Node) (files : Files) : Files :=
  { files with nodes := (place, node) :: files.nodes.filter fun entry => entry.1 ≠ place }

/-- Goes through the parts of a path and makes each directory that is missing, until a
file is in the way; also tells where the path leads. -/
def makeDirectories : List Bytes → Place → Files → Files × Option Place
  | [], place, files => (files, some place)
  | part :: rest, place, files =>
    if part = [] ∨ part = [Path.dot] then makeDirectories rest place files
    else if part = [Path.dot, Path.dot] then makeDirectories rest place.dropLast files
    else
      let place := place ++ [part]
      match files.node? place with
      | none => makeDirectories rest place (files.put place .directory)
      | some .directory => makeDirectories rest place files
      | some (.file _ _) => (files, none)

def makeDirectory? (files : Files) (place : Place) : Option Files :=
  ((List.range (place.length + 1)).map place.take).foldlM (fun files place =>
    match files.node? place with
    | none => some (files.put place .directory)
    | some .directory => some files
    | some (.file _ _) => none) files

def write? (files : Files) (place : Place) (content : Bytes) (kind : Kind) : Option Files := do
  let files ← files.makeDirectory? place.dropLast
  if files.isDirectory place then none else some (files.put place (.file content kind))

def kind? (files : Files) (path : Path) : Option Kind :=
  match files.find? path with
  | some (_, .file _ kind) => some kind
  | _ => none

def isProgram (files : Files) (path : Path) : Bool :=
  match files.kind? path with
  | some .program | some .broken => true
  | _ => false

/-- How many parts a path has, its root and a leading dot counted. -/
def countParts (path : Path) : Nat :=
  (Path.components path).length +
    if path.isAbsolute ∨ (Text.pieces (· = Path.slash) path).head? = some [Path.dot] then 1 else 0

def placePath (place : Place) : Path := place.foldl Path.push [Path.slash]

/-- A relative path from the root on, without the parts that name nothing; any other
stays as it is written. -/
def absolutePath (files : Files) (path : Path) : Path :=
  if path.isAbsolute then path else (Path.components path).foldl Path.push (placePath files.working)

def tilde : UInt8 := 0x7E

/-- A directory of the search path, in which a tilde in front means the home directory. -/
def searchDirectory (home : Option Path) (directory : Path) : Path :=
  match home, Text.pieces (· = Path.slash) directory with
  | some home, first :: _ =>
    if first = [tilde] then (Path.components directory).tail.foldl Path.push home else directory
  | _, _ => directory

/-- The program that a name means: one with several parts is a path, a single part is
looked for in the directories of the search path in turn. -/
def findProgram? (files : Files) (searchPath : Option Bytes) (home : Option Path) (name : Path) :
    Option Path :=
  let candidates : List Path :=
    if 1 < countParts name then [name]
    else match searchPath with
      | none => []
      | some list => (Text.pieces (· = 0x3A) list).map fun directory =>
        (searchDirectory home directory).push name
  (candidates.map files.absolutePath).find? files.isProgram

/-- The machine with these files. A command with a NUL in it cannot be passed on. -/
def machine (files : Files) (searchPath : Option Bytes) (home : Option Path) (processId : UInt32) :
    Launch.Machine where
  processId
  find? name := files.findProgram? searchPath home (.ofString name)
  canRun command :=
    files.kind? command.program = some .program &&
      (command.toolchain.toList ++ command.arguments).all fun word => !word.toList.contains '\x00'

end Files

end WorkspaceServers.Simulation
