import WorkspaceServers.Proofs.Session.Utterances
import WorkspaceServers.Proofs.Workspace.Languages

/-!
What a server is told when a document is opened. The message says the language that the last
name of the document suggests, in every session and under every root.
-/

namespace WorkspaceServers.Session

open WorkspaceServers.Path (EndsIn segments)
open WorkspaceServers.Workspace (documentLanguage documentUri?)

def languageIdOf? (json : Json) : Option Json :=
  ((json.field? "params").bind (Json.field? "textDocument")).bind (Json.field? "languageId")

structure Opens (json : Json) (languageId : String) : Prop where
  method : json.field? "method" = some (.str "textDocument/didOpen")
  language : languageIdOf? json = some (.str languageId)

/-- All documents whose names end in the segment are in this language. -/
structure Classified (segment : List Char) (language : Language) : Prop where
  suggested : ∀ other, Language.Suggests segment other ↔ other = language
  resolved : ∀ root name, EndsIn name.toList segment → documentLanguage root name = language
  told : ∀ (machine : Launch.Machine) (session : Session) (name text : String) (json : Json),
    EndsIn name.toList segment →
      .frame json ∈ Entry.queued machine ⟨session, .openDocument name text⟩ →
        Opens json language.id
  /-- Where frames are taken and documents have URIs, there is one message. -/
  heard : ∀ (machine : Launch.Machine) (session : Session) (name text : String) (id : UInt64),
    EndsIn name.toList segment → session.root.isAbsolute = true → session.slot? = some id →
      ∃ json, Entry.queued machine ⟨session, .openDocument name text⟩ = [.frame json]

variable {session : Session} {machine : Launch.Machine} {document text : String}

theorem opens_frame (uri languageId text : String) :
    Opens (Rpc.notification "textDocument/didOpen" (some (Rpc.openParams uri languageId text)))
      languageId where
  method := by simp [Rpc.field?_notification]
  language := by
    simp [languageIdOf?, Rpc.field?_notification, Rpc.openParams, Json.field?_object, Keyed.find?]

section Queued

theorem queued_of_shut (shut : session.slot? = none) :
    Entry.queued machine ⟨session, .openDocument document text⟩ = [] := by
  have hushed := (start_hushed machine shut (.openDocument document text) nofun).1
  exact Entry.queued_same hushed.queue

theorem queued_of_no_uri (absent : documentUri? session.root document = none) :
    Entry.queued machine ⟨session, .openDocument document text⟩ = [] := by
  -- Without a URI the operation fails before anything is said.
  have same : (session.start machine (.openDocument document text)).session = session := by
    simp only [start, withServer, documentUri, absent]
    cases session.lifecycle.running with
    | error failure => rfl
    | ok server => rfl
  exact Entry.queued_same (congrArg queue same)

theorem queued_of_uri {id : UInt64} {uri : String} (slot : session.slot? = some id)
    (found : documentUri? session.root document = some uri) :
    Entry.queued machine ⟨session, .openDocument document text⟩ =
      [.frame (Rpc.notification "textDocument/didOpen"
        (some (Rpc.openParams uri (documentLanguage session.root document).id text)))] := by
  have known : ∀ other, (Operation.openDocument document text).document? = some other →
      documentUri? session.root other = some uri ∧
        (documentLanguage session.root other).id = (documentLanguage session.root document).id := by
    intro other same
    cases same
    exact ⟨found, rfl⟩
  exact Entry.queued_eq (start_speaks machine slot (.openDocument document text) rfl known).1.queue

theorem opens_of_queued {json : Json}
    (queued : .frame json ∈ Entry.queued machine ⟨session, .openDocument document text⟩) :
    Opens json (documentLanguage session.root document).id := by
  cases slot : session.slot? with
  | none =>
    rw [queued_of_shut slot] at queued
    cases queued
  | some id =>
    cases found : documentUri? session.root document with
    | none =>
      rw [queued_of_no_uri found] at queued
      cases queued
    | some uri =>
      rw [queued_of_uri slot found, List.mem_singleton, Transport.Command.frame.injEq] at queued
      rw [queued]
      exact opens_frame uri _ text

end Queued

theorem classified (root : Path) {name : String} {segment : List Char}
    (ends : EndsIn name.toList segment) : Classified segment (documentLanguage root name) := by
  have resolved (root' : Path) {name' : String} (ends' : EndsIn name'.toList segment) :
      documentLanguage root' name' = documentLanguage root name :=
    Workspace.documentLanguage_congr root root' ends ends'
  constructor
  · intro other
    rw [← Workspace.documentLanguage_eq_iff root ends, eq_comm]
  · intro root' name' ends'
    exact resolved root' ends'
  · intro machine session name' text json ends' queued
    rw [← resolved session.root ends']
    exact opens_of_queued queued
  · intro machine session name' text id ends' absolute slot
    obtain ⟨uri, found⟩ := Workspace.exists_documentUri absolute name'
    exact ⟨_, queued_of_uri slot found⟩

end WorkspaceServers.Session
