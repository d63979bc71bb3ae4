import WorkspaceServers.CommandLine.Arguments
import WorkspaceServers.Number.Decimal
import WorkspaceServers.Text.Utf8.Basic

/-!
Reading a command line: options, each at most once, then a subcommand with its values.
A value is checked when the word after it shows that it is complete, so a wrong word
further on may be told of first. Behind a double hyphen every word is a value of the
subcommand, if there is one.
-/

namespace WorkspaceServers.CommandLine

inductive Flag where
  | group
  | resource
  | slug
  | config
  | serverPath
  | sdkPath
  | target
  | toolchain
deriving DecidableEq

def Flag.table : List (String × Flag) :=
  [("install-group", .group), ("resource", .resource), ("slug", .slug), ("config", .config),
    ("server-path", .serverPath), ("sdk-path", .sdkPath), ("target", .target),
    ("toolchain", .toolchain)]

inductive Word where
  | separator
  | long (name : Bytes) (value : Option Bytes)
  | short (letters : Bytes)
  | plain
deriving DecidableEq

def hyphen : UInt8 := 0x2D

def equalsSign : UInt8 := 0x3D

def Word.ofBytes : Bytes → Word
  | [] => plain
  | [_] => plain
  | first :: second :: rest =>
    if first ≠ hyphen then plain
    else if second ≠ hyphen then short (second :: rest)
    else if rest = [] then separator
    else match Text.splitAtFirst? (· = equalsSign) rest with
      | some (name, value) => long name (some value)
      | none => long rest none

inductive Unsettled (α : Type) where
  | nothing
  | wanted (key : α)
  | given (key : α) (value : Bytes)
deriving DecidableEq

abbrev Options := List (Flag × Bytes)

def settle (options : Options) : Unsettled Flag → Except Refusal Options
  | .nothing => .ok options
  | .wanted _ => .error .invalidValue
  | .given flag value =>
    if (options.lookup flag).isSome then .error .repeatedOption
    else if flag = .config then
      if value = [] then .error .invalidValue else .ok (options ++ [(flag, value)])
    else if (Utf8.decode? value).isNone then .error .notText
    else .ok (options ++ [(flag, value)])

inductive Subcommand where
  | openDocument
  | symbols
  | hover
  | definition
deriving DecidableEq

def Subcommand.ofBytes? (word : Bytes) : Option Subcommand :=
  [("open", openDocument), ("symbols", symbols), ("hover", hover),
    ("definition", definition)].lookup (Utf8.lossy word) |>.filter fun _ =>
      (Utf8.decode? word).isSome

inductive Slot where
  | document
  | line
  | character
deriving DecidableEq

def Subcommand.slots : Subcommand → List Slot
  | openDocument | symbols => [.document]
  | hover | definition => [.document, .line, .character]

/-- A number of 32 bits; a sign is allowed. -/
def number? (text : List Char) : Option UInt32 :=
  match text with
  | '-' :: rest => if rest.head? ≠ some '+' ∧ Decimal.below? 1 rest = some 0 then some 0 else none
  | text => (Decimal.below? UInt32.size text).map UInt32.ofNat

structure Values where
  document : Option String
  line : Option UInt32
  character : Option UInt32

def Values.settle (values : Values) : Unsettled Slot → Except Refusal Values
  | .nothing | .wanted _ => .ok values
  | .given slot value =>
    match Utf8.decode? value with
    | none => .error .notText
    | some text =>
      match slot, number? text with
      | .document, _ => .ok { values with document := some (String.ofList text) }
      | .line, some line => .ok { values with line := some line }
      | .character, some character => .ok { values with character := some character }
      | _, none => .error .invalidNumber

def Subcommand.build? (subcommand : Subcommand) (values : Values) : Option Command := do
  let document ← values.document
  match subcommand with
  | openDocument => return .openDocument document
  | symbols => return .symbols document
  | hover => return .hover document (← values.line) (← values.character)
  | definition => return .definition document (← values.line) (← values.character)

def helpLetter : UInt8 := 0x68

def versionLetter : UInt8 := 0x56

def readValues (subcommand : Subcommand) (free : List Slot) (values : Values)
    (unsettled : Unsettled Slot) (escaped : Bool) : List Bytes → Except Refusal Command
  | [] => do
    let values ← values.settle unsettled
    match subcommand.build? values with
    | some command => .ok command
    | none => .error .missingArgument
  | word :: rest =>
    let place : Except Refusal Command :=
      match free with
      | [] => .error .unknownArgument
      | slot :: free => do
        let values ← values.settle unsettled
        readValues subcommand free values (.given slot word) escaped rest
    if escaped then place
    else match Word.ofBytes word with
      | .plain => place
      | .separator => readValues subcommand free values unsettled true rest
      | .long name value =>
        if name ≠ Utf8.ofString "help" then .error .unknownArgument
        else if value.isSome then .error .tooManyValues
        else do
          let _ ← values.settle unsettled
          .error .help
      | .short letters =>
        if letters.head? = some helpLetter then do
          let _ ← values.settle unsettled
          .error .help
        else .error .unknownArgument

def build (options : Options) (command : Command) : Except Refusal Arguments :=
  let text (flag : Flag) := (options.lookup flag).map Utf8.lossy
  match text .resource, text .slug with
  | some resource, some slug =>
    .ok {
      group := (text .group).getD Arguments.defaultGroup
      resource
      slug
      config := options.lookup .config
      serverPath := text .serverPath
      sdkPath := text .sdkPath
      target := text .target
      toolchain := text .toolchain
      command }
  | _, _ => .error .missingArgument

def lackSubcommand (options : Options) (unsettled : Unsettled Flag) :
    Except Refusal Arguments := do
  let options ← settle options unsettled
  .error (if options.isEmpty then .nothingGiven else .missingSubcommand)

/-- Reads the words up to the subcommand. A word behind a double hyphen is neither an
option's value nor a subcommand. -/
def readOptions (options : Options) (unsettled : Unsettled Flag) :
    List Bytes → Except Refusal Arguments
  | [] => lackSubcommand options unsettled
  | word :: rest =>
    let ask (refusal : Refusal) : Except Refusal Arguments := do
      let _ ← settle options unsettled
      .error refusal
    match Word.ofBytes word with
    | .plain =>
      match unsettled with
      | .wanted flag => readOptions options (.given flag word) rest
      | _ =>
        match Subcommand.ofBytes? word with
        | none => .error .invalidSubcommand
        | some subcommand => do
          let command ←
            readValues subcommand subcommand.slots ⟨none, none, none⟩ .nothing false rest
          let options ← settle options unsettled
          build options command
    | .separator =>
      match rest with
      | [] => lackSubcommand options unsettled
      | next :: _ =>
        .error (if (Subcommand.ofBytes? next).isSome then .unknownArgument else .invalidSubcommand)
    | .long name value? =>
      match Utf8.toString? name with
      | none => .error .unknownArgument
      | some name =>
        if name = "help" ∨ name = "version" then
          if value?.isSome then .error .tooManyValues
          else ask (if name = "help" then .help else .version)
        else match Flag.table.lookup name with
          | none => .error .unknownArgument
          | some flag => do
            let options ← settle options unsettled
            match value? with
            | none => readOptions options (.wanted flag) rest
            | some value => do
              let options ← settle options (.given flag value)
              readOptions options .nothing rest
    | .short letters =>
      if letters.head? = some helpLetter then ask .help
      else if letters.head? = some versionLetter then ask .version
      else .error .unknownArgument

def parse (words : List Bytes) : Except Refusal Arguments := readOptions [] .nothing words

end WorkspaceServers.CommandLine
