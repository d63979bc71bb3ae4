import WorkspaceServers.Keyed.Basic
import WorkspaceServers.Text.Blank

/-!
Launch settings as they come in: a map of names to texts. A blank text is kept in the
map and read as if it were not there, so it shadows a default without setting anything.
-/

namespace WorkspaceServers.Launch

inductive Setting where
  | serverPath
  | sdkPath
  | target
  | toolchain
deriving DecidableEq

def Setting.name : Setting → String
  | serverPath => "serverPath"
  | sdkPath => "SDKPath"
  | target => "target"
  | toolchain => "toolchain"

structure Context where
  entries : Keyed String String
  ascending : Keyed.Ascending entries
deriving DecidableEq

namespace Context

def empty : Context := ⟨[], List.Pairwise.nil⟩

def insert (context : Context) (name value : String) : Context :=
  ⟨Keyed.insert name value context.entries, Keyed.ascending_insert name value context.ascending⟩

def ofList (pairs : List (String × String)) : Context :=
  ⟨Keyed.ofList pairs, Keyed.ascending_ofList pairs⟩

def raw? (context : Context) (name : String) : Option String := Keyed.find? name context.entries

def isBlank (value : String) : Bool := value.toList.all Text.isBlank

def get? (context : Context) (name : String) : Option String :=
  (context.raw? name).filter fun value => !isBlank value

def mergedOver (context defaults : Context) : Context :=
  let missing := defaults.entries.filter fun entry => !Keyed.contains entry.1 context.entries
  ⟨Keyed.insertAll missing context.entries, Keyed.ascending_insertAll missing context.ascending⟩

def ofSettings (settings : List (Setting × Option String)) : Context :=
  .ofList (settings.filterMap fun (setting, value?) => value?.map (setting.name, ·))

end Context

end WorkspaceServers.Launch
