import WorkspaceServers.Json.Reading

/-!
What a server says that it can do. Each capability of the protocol has its kind: one of another
kind spoils the whole answer, and what is no capability of the protocol is left out.
-/

namespace WorkspaceServers.Answer.Capabilities

open WorkspaceServers.Json (Member Reading)
open Json.Member (required optional nullable)
open Json.Reading (bool text int32 listOf oneOf name record mapping)

def progress : Member := optional "workDoneProgress" bool

def provider (options : List Member) : Reading := oneOf [bool, mapping (progress :: options)]

def selector : Member :=
  nullable "documentSelector"
    (listOf (record [optional "language" text, optional "scheme" text, optional "pattern" text]))

def registration : Reading := record [selector, optional "id" text]

def documentSync : Reading :=
  oneOf [int32, record [optional "openClose" bool, optional "change" int32,
    optional "willSave" bool, optional "willSaveWaitUntil" bool,
    optional "save" (oneOf [bool, record [optional "includeText" bool]])]]

def notebook : Reading :=
  oneOf [text,
    mapping [required "notebook_type" text, optional "scheme" text, optional "pattern" text],
    mapping [optional "notebook_type" text, required "scheme" text, optional "pattern" text],
    mapping [optional "notebook_type" text, optional "scheme" text, required "pattern" text]]

def notebookSync : Reading :=
  let cells := listOf (record [required "language" text])
  record [
    required "notebookSelector" (listOf (oneOf [
      mapping [required "notebook" notebook, optional "cells" cells],
      mapping [optional "notebook" notebook, required "cells" cells]])),
    optional "save" bool]

def completion : Reading :=
  mapping [progress, optional "resolveProvider" bool,
    optional "triggerCharacters" (listOf text), optional "allCommitCharacters" (listOf text),
    optional "completionItem" (record [optional "labelDetailsSupport" bool])]

def signatureHelp : Reading :=
  mapping [progress, optional "triggerCharacters" (listOf text),
    optional "retriggerCharacters" (listOf text)]

def typingFormatting : Reading :=
  record [required "firstTriggerCharacter" text, optional "moreTriggerCharacter" (listOf text)]

def bareProvider : Reading := oneOf [bool, record [], registration]

def declaration : Reading :=
  oneOf [bool, mapping [progress, selector, optional "id" text], mapping [progress]]

def fileOperation : Reading :=
  record [required "filters" (listOf (record [
    optional "scheme" text,
    required "pattern" (record [
      required "glob" text,
      optional "matches" (name ["file", "folder"]),
      optional "options" (record [optional "ignoreCase" bool])])]))]

def workspace : Reading :=
  record [
    optional "workspaceFolders" (record [
      optional "supported" bool, optional "changeNotifications" (oneOf [bool, text])]),
    optional "fileOperations" (record (
      ["didCreate", "willCreate", "didRename", "willRename", "didDelete", "willDelete"].map
        (optional · fileOperation)))]

def semanticTokens : Reading :=
  mapping [progress,
    required "legend" (record [
      required "tokenTypes" (listOf text), required "tokenModifiers" (listOf text)]),
    optional "range" bool,
    optional "full" (oneOf [bool, mapping [optional "delta" bool]])]

def diagnostics : Reading :=
  mapping [progress, optional "identifier" text, required "interFileDependencies" bool,
    required "workspaceDiagnostics" bool]

/-- The capabilities in the order in which they stand where they are written as a list. -/
def members : List Member := [
  optional "positionEncoding" text,
  optional "textDocumentSync" documentSync,
  optional "notebookDocumentSync" notebookSync,
  optional "selectionRangeProvider" (provider []),
  optional "hoverProvider" (provider []),
  optional "completionProvider" completion,
  optional "signatureHelpProvider" signatureHelp,
  optional "definitionProvider" (provider []),
  optional "typeDefinitionProvider" (oneOf [bool, registration]),
  optional "implementationProvider" (oneOf [bool, registration]),
  optional "referencesProvider" (provider []),
  optional "documentHighlightProvider" (provider []),
  optional "documentSymbolProvider" (provider [optional "label" text]),
  optional "workspaceSymbolProvider" (provider [optional "resolveProvider" bool]),
  optional "codeActionProvider"
    (provider [optional "codeActionKinds" (listOf text), optional "resolveProvider" bool]),
  optional "codeLensProvider" (record [optional "resolveProvider" bool]),
  optional "documentFormattingProvider" (provider []),
  optional "documentRangeFormattingProvider" (provider []),
  optional "documentOnTypeFormattingProvider" typingFormatting,
  optional "renameProvider" (provider [optional "prepareProvider" bool]),
  optional "documentLinkProvider" (mapping [progress, optional "resolveProvider" bool]),
  optional "colorProvider" bareProvider,
  optional "foldingRangeProvider" bareProvider,
  optional "declarationProvider" declaration,
  optional "executeCommandProvider" (mapping [progress, required "commands" (listOf text)]),
  optional "workspace" workspace,
  optional "callHierarchyProvider" (provider []),
  optional "semanticTokensProvider" semanticTokens,
  optional "monikerProvider" (provider []),
  optional "linkedEditingRangeProvider" (provider []),
  optional "inlineValueProvider" (provider []),
  optional "inlayHintProvider" (provider [optional "resolveProvider" bool]),
  optional "diagnosticProvider" diagnostics,
  optional "experimental" Reading.any]

def read : Reading := record members

end WorkspaceServers.Answer.Capabilities
