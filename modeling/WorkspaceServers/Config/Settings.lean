import WorkspaceServers.Toml.Parser
import WorkspaceServers.Config.Expand

/-!
What a config file says. Both sections and all their fields are optional; a section is
a table or a list of its fields in order, and keys that name no field do not matter.
-/

namespace WorkspaceServers.Config

structure StorageSection where
  root : Option String
  appGroup : Option String
deriving DecidableEq

structure ServerSection where
  path : Option String
  sdkPath : Option String
  target : Option String
  toolchain : Option String
  /-- Seconds that a request may wait for its answer. -/
  requestTimeout : Option UInt64
  /-- Milliseconds that a server has to end by itself. -/
  exitGrace : Option UInt64
deriving DecidableEq

structure Settings where
  storage : Option StorageSection
  server : Option ServerSection
deriving DecidableEq

namespace Settings

def empty : Settings := ⟨none, none⟩

open Toml (Value)

/-- The fields of a section. A point in time has none of them. Keys of a table that name
no field still have to hold sound values. -/
def fields? (names : List String) : Value → Option (List (Option Value))
  | .table entries =>
    if Value.entriesSound (entries.filter fun entry => !names.contains entry.1) then
      some (names.map fun name => entries.lookup name)
    else none
  | .array items =>
    if names.length ≤ items.length then some ((items.take names.length).map some) else none
  | .time => some (names.map fun _ => none)
  | _ => none

def optional? {α : Type} (read : Value → Option α) : Option Value → Option (Option α)
  | none => some none
  | some value => (read value).map some

def text? : Value → Option String
  | .text value => some value
  | _ => none

def word? : Value → Option UInt64
  | .integer value =>
    if 0 ≤ value ∧ value < 0x10000000000000000 then some (.ofNat value.toNat) else none
  | _ => none

def storageSection? (value : Value) : Option StorageSection := do
  match ← fields? ["root", "app_group"] value with
  | [root, appGroup] => return ⟨← optional? text? root, ← optional? text? appGroup⟩
  | _ => none

def serverSection? (value : Value) : Option ServerSection := do
  match ← fields? ["path", "sdk_path", "target", "toolchain", "request_timeout_secs",
      "exit_grace_ms"] value with
  | [path, sdkPath, target, toolchain, requestTimeout, exitGrace] =>
    return ⟨← optional? text? path, ← optional? text? sdkPath, ← optional? text? target,
      ← optional? text? toolchain, ← optional? word? requestTimeout, ← optional? word? exitGrace⟩
  | _ => none

def ofTable? (table : List (String × Value)) : Option Settings := do
  match ← fields? ["storage", "server"] (.table table) with
  | [storage, server] =>
    return ⟨← optional? storageSection? storage, ← optional? serverSection? server⟩
  | _ => none

def parse? (text : List Char) : Option Settings := do ofTable? (← Toml.parse? text)

end Settings

end WorkspaceServers.Config
