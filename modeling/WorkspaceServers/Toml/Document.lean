import WorkspaceServers.Toml.Value

/-!
How the statements of a document make one table. Each table knows how it came to be,
and that decides who may still add to it: a header may take up a table that so far only
stood on the way to another, unless a dotted key has added to it, and a dotted key may not
reach into a table that a header has named.
-/

namespace WorkspaceServers.Toml

inductive Origin where
  | header
  /-- On the way to a table that a header names. -/
  | passed
  | dotted
deriving DecidableEq

inductive Node where
  | value (value : Value)
  | table (origin : Origin) (entries : List (String × Node))
  | tables (last : List (String × Node)) (earlier : List (List (String × Node)))

abbrev Entries := List (String × Node)

def find? (key : String) (entries : Entries) : Option Node := entries.lookup key

def put (key : String) (node : Node) : Entries → Entries
  | [] => [(key, node)]
  | entry :: rest => if entry.1 = key then (key, node) :: rest else entry :: put key node rest

/-- Follows a path of keys and changes the table at its end by `change`, which is also
told how that table came to be. What is missing on the way is made with `made`; a dotted
key makes the table that it ends in its own. -/
def descend (made : Origin) (change : Origin → Entries → Option Entries) :
    List String → Origin → Entries → Option Entries
  | [], origin, entries => change origin entries
  | key :: path, _, entries =>
    match find? key entries with
    | none => do
      return put key (.table made (← descend made change path made [])) entries
    | some (.value _) => none
    | some (.table origin inner) =>
      if made = .dotted ∧ origin = .header then none
      else
        let origin := if made = .dotted ∧ path = [] then .dotted else origin
        return put key (.table origin (← descend made change path origin inner)) entries
    | some (.tables last earlier) => do
      return put key (.tables (← descend made change path .header last) earlier) entries

structure Pair where
  path : List String
  key : String
  value : Value

/-- Only a table made by dotted keys takes more of them, and a plain key goes to the
table that is open. -/
def Pair.add (pair : Pair) (entries : Entries) : Option Entries :=
  descend .dotted (fun origin entries =>
    if (origin == .dotted) = pair.path.isEmpty ∨ (find? pair.key entries).isSome then none
    else some (put pair.key (.value pair.value) entries)) pair.path .header entries

def addPairs : List Pair → Entries → Option Entries
  | [], entries => some entries
  | pair :: rest, entries => do addPairs rest (← pair.add entries)

structure Section where
  path : List String
  key : String
  repeated : Bool
  pairs : List Pair

def Section.add (part : Section) (entries : Entries) : Option Entries :=
  descend .passed (fun _ entries => do
    let node ←
      match part.repeated, find? part.key entries with
      | true, none => do pure (.tables (← addPairs part.pairs []) [])
      | true, some (.tables last earlier) => do
        pure (.tables (← addPairs part.pairs []) (last :: earlier))
      | false, none => do pure (.table .header (← addPairs part.pairs []))
      | false, some (.table .passed inner) => do
        pure (.table .header (← addPairs part.pairs inner))
      | _, _ => none
    return put part.key node entries) part.path .header entries

def addSections : List Section → Entries → Option Entries
  | [], entries => some entries
  | part :: rest, entries => do addSections rest (← part.add entries)

mutual

def Node.toValue : Node → Value
  | .value value => value
  | .table _ entries => .table (entriesToValues entries)
  | .tables last earlier => .array (tablesToValues earlier [.table (entriesToValues last)])

def entriesToValues : List (String × Node) → List (String × Value)
  | [] => []
  | (key, node) :: rest => (key, node.toValue) :: entriesToValues rest

def tablesToValues : List (List (String × Node)) → List Value → List Value
  | [], later => later
  | entries :: earlier, later => tablesToValues earlier (.table (entriesToValues entries) :: later)

end

end WorkspaceServers.Toml
