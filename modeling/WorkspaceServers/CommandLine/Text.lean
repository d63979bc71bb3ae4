import WorkspaceServers.CommandLine.Run
import WorkspaceServers.Json.Printer

/-!
What a run writes, and the code that it exits with.
-/

namespace WorkspaceServers.CommandLine

def programName : String := "sourcebridge"

def versionText : String := programName ++ " 0.0.0"

def helpText : String :=
  "One-shot queries to the language server of a hosted workspace\n\n" ++
  "Usage: " ++ programName ++ " [OPTIONS] --resource <RESOURCE> --slug <SLUG> <COMMAND>\n\n" ++
  "Commands:\n" ++
  "  open        Open a document without querying it\n" ++
  "  symbols     List the symbols in a document\n" ++
  "  hover       Hover information at a zero-based position\n" ++
  "  definition  Definition locations for the symbol at a zero-based position\n\n" ++
  "Options:\n" ++
  "      --install-group <INSTALL_GROUP>  Install group of the workspace [default: default]\n" ++
  "      --resource <RESOURCE>            Hosting resource\n" ++
  "      --slug <SLUG>                    Project slug within the hosting resource\n" ++
  "      --config <PATH>                  Config file to read instead of the user's own\n" ++
  "      --server-path <PATH>\n" ++
  "      --sdk-path <PATH>\n" ++
  "      --target <TARGET>                Target triple passed to the compiler\n" ++
  "      --toolchain <PATH>               Toolchain directory for the server\n" ++
  "  -h, --help                           Print help\n" ++
  "  -V, --version                        Print version"

def Refusal.message : Refusal → String
  | help => helpText
  | version => versionText
  | nothingGiven => helpText
  | missingSubcommand => "a subcommand is required"
  | invalidSubcommand => "unrecognized subcommand"
  | missingArgument => "a required argument was not given"
  | unknownArgument => "unexpected argument"
  | repeatedOption => "an option cannot be used several times"
  | tooManyValues => "an option takes no value"
  | invalidValue => "a value is required for an option and none was given"
  | invalidNumber => "a value is not a number of 32 bits"
  | notText => "a value is not UTF-8"

structure Ending where
  exitCode : UInt8
  output : String
  error : Option String

/-- The first line of the error. A line feed ends a line, alone or behind a carriage
return. -/
def Ending.headline? (ending : Ending) : Option String :=
  ending.error.map fun text =>
    let line := text.toList.takeWhile (· ≠ '\n')
    String.ofList (if line.getLast? = some '\r' then line.dropLast else line)

/-- Help and version are output; the other refusals are told as errors of usage. -/
def Refusal.ending (refusal : Refusal) : Ending :=
  match refusal with
  | help | version => ⟨refusal.exitCode, refusal.message ++ "\n", none⟩
  | _ => ⟨refusal.exitCode, "", none⟩

def Verdict.ending : Verdict → Ending
  | value json => ⟨0, json.wideText ++ "\n", none⟩
  | failed problem => ⟨1, "", some problem.message⟩
  | aborted => ⟨101, "", none⟩

end WorkspaceServers.CommandLine
