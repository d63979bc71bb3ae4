import WorkspaceServers.Launch.Context
import WorkspaceServers.Path.Basic
import WorkspaceServers.Workspace.Key

/-!
What a command line asks for, and why a command line may ask for nothing.
-/

namespace WorkspaceServers.CommandLine

inductive Command where
  | openDocument (document : String)
  | symbols (document : String)
  | hover (document : String) (line character : UInt32)
  | definition (document : String) (line character : UInt32)
deriving DecidableEq

def Command.document : Command → String
  | openDocument document | symbols document => document
  | hover document _ _ | definition document _ _ => document

structure Arguments where
  group : String
  resource : String
  slug : String
  config : Option Path
  serverPath : Option String
  sdkPath : Option String
  target : Option String
  toolchain : Option String
  command : Command
deriving DecidableEq

namespace Arguments

def defaultGroup : String := "default"

def identity (arguments : Arguments) : Workspace.Identity :=
  ⟨arguments.group, arguments.resource, arguments.slug⟩

def launchContext (arguments : Arguments) : Launch.Context :=
  .ofSettings [(.serverPath, arguments.serverPath), (.sdkPath, arguments.sdkPath),
    (.target, arguments.target), (.toolchain, arguments.toolchain)]

end Arguments

inductive Refusal where
  | help
  | version
  | nothingGiven
  | missingSubcommand
  | invalidSubcommand
  | missingArgument
  | unknownArgument
  | repeatedOption
  | tooManyValues
  | invalidValue
  | invalidNumber
  | notText
deriving DecidableEq

def Refusal.exitCode : Refusal → UInt8
  | help | version => 0
  | _ => 2

end WorkspaceServers.CommandLine
