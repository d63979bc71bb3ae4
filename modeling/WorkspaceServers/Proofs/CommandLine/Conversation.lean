import WorkspaceServers.CommandLine.Text
import WorkspaceServers.Proofs.CommandLine.Plan
import WorkspaceServers.Proofs.Registry.Operations

/-!
Runs of the command line up to the query, whatever part the server plays. The frames that the
client queues follow the plan, and the run is settled by a value exactly if every step has
succeeded, unless that value cannot be written down: then it breaks off.
-/

namespace WorkspaceServers.CommandLine

open Session (Operation Reply)
open Rehearsal (client perform Adds Kept Lost Stands)

def Command.inquiry : Command → List Operation
  | .openDocument _ => []
  | .symbols document => [.symbols document]
  | .hover document line character => [.hover document line character]
  | .definition document line character => [.definition document line character]

def Command.course (command : Command) : Option String → List Operation
  | none => []
  | some text => .openDocument command.document text :: command.inquiry

/-- The turns go through the operations in their order, up to the first one that fails. -/
inductive Goes : List Operation → List Turn → Prop
  | over : Goes [] []
  | breaks {turn : Turn} {rest : List Operation} (fails : turn.succeeded = false) :
      Goes (turn.operation :: rest) [turn]
  | on {turn : Turn} {rest : List Operation} {turns : List Turn}
      (succeeded : turn.succeeded = true) (goes : Goes rest turns) :
      Goes (turn.operation :: rest) (turn :: turns)

/-- A value that is printed on success, and otherwise a problem that is reported. -/
structure Settles (verdict : Verdict) (success : Prop) : Prop where
  value : success → ∃ json,
    verdict = .value json ∧ verdict.ending = ⟨0, json.wideText ++ "\n", none⟩
  failed : ¬success → ∃ problem : Problem,
    verdict = .failed problem ∧ verdict.ending = ⟨1, "", some problem.message⟩

theorem settles_value {success : Prop} (json : Json) (holds : success) :
    Settles (.value json) success :=
  ⟨fun _ => ⟨json, rfl, rfl⟩, fun fails => absurd holds fails⟩

theorem settles_failed {success : Prop} (problem : Problem) (fails : ¬success) :
    Settles (.failed problem) success :=
  ⟨fun holds => absurd holds fails, fun _ => ⟨problem, rfl, rfl⟩⟩

theorem Settles.ne_aborted {verdict : Verdict} {success : Prop}
    (settles : Settles verdict success) : verdict ≠ .aborted := by
  by_cases holds : success
  · obtain ⟨json, rfl, -⟩ := settles.value holds
    exact nofun
  · obtain ⟨problem, rfl, -⟩ := settles.failed holds
    exact nofun

/-- What comes of the command can be written down; for a document that is opened, this is its
path. -/
def Command.Writable (root : Path) : Command → Prop
  | .openDocument document => (Workspace.documentPath root document).IsText
  | .symbols _ | .hover _ _ _ | .definition _ _ _ => True

/-- The run is settled, unless it went well and there is no way to write down what came of it:
then it breaks off. -/
structure Concludes (verdict : Verdict) (writable success : Prop) : Prop where
  settles : (success → writable) → Settles verdict success
  breaks : success → ¬writable → verdict = .aborted

theorem Settles.concludes {verdict : Verdict} {writable success : Prop}
    (settles : Settles verdict success) (written : success → writable) :
    Concludes verdict writable success :=
  ⟨fun _ => settles, fun holds lost => absurd (written holds) lost⟩

theorem Concludes.settles_of_ne {verdict : Verdict} {writable success : Prop}
    (concludes : Concludes verdict writable success) (whole : verdict ≠ .aborted) :
    Settles verdict success := by
  apply concludes.settles
  intro holds
  by_cases written : writable
  · exact written
  · exact absurd (concludes.breaks holds written) whole

theorem Concludes.aborted_iff {verdict : Verdict} {writable success : Prop}
    (concludes : Concludes verdict writable success) :
    verdict = .aborted ↔ success ∧ ¬writable := by
  constructor
  · intro aborted
    by_cases written : success → writable
    · exact absurd aborted (concludes.settles written).ne_aborted
    · exact Classical.not_imp.mp written
  · rintro ⟨holds, lost⟩
    exact concludes.breaks holds lost

variable {rehearsal : Rehearsal} {root : Path} {frames : List Json} {operation : Operation}
variable {uri languageId : String} {json : Json} {writable : Prop}

section Steps

theorem run_perform_bind {α : Type} (operation : Operation)
    (next : Except Failure Reply → StateM Rehearsal α) (rehearsal : Rehearsal) :
    (client.perform operation >>= next).run rehearsal =
      (next (perform operation rehearsal).1).run (perform operation rehearsal).2 := rfl

theorem answer_run (operation : Operation) (rehearsal : Rehearsal) :
    (client.answer operation).run rehearsal =
      (match (perform operation rehearsal).1 with
        | .ok reply => .value reply.toJson
        | .error failure => .failed (.session failure), (perform operation rehearsal).2) := by
  rw [Client.answer, run_perform_bind]
  cases (perform operation rehearsal).1 <;> rfl

theorem query_of_unreadable {command : Command}
    (unreadable : rehearsal.text? (Workspace.documentPath root command.document) = none) :
    (query client root command).run rehearsal =
      (.failed (.unreadable (Workspace.documentPath root command.document)), rehearsal) := by
  show (match rehearsal.text? (Workspace.documentPath root command.document) with
    | none => _
    | some text => _ : StateM Rehearsal Verdict).run rehearsal = _
  rw [unreadable]
  rfl

theorem query_of_readable {command : Command} {text : String}
    (readable : rehearsal.text? (Workspace.documentPath root command.document) = some text) :
    (query client root command).run rehearsal =
      match (perform (.openDocument command.document text) rehearsal).1 with
      | .error failure => (.failed (.session failure),
          (perform (.openDocument command.document text) rehearsal).2)
      | .ok _ => (inquire client root command).run
          (perform (.openDocument command.document text) rehearsal).2 := by
  show (match rehearsal.text? (Workspace.documentPath root command.document) with
    | none => _
    | some text => _ : StateM Rehearsal Verdict).run rehearsal = _
  rw [readable]
  show (client.perform (.openDocument command.document text) >>= _).run rehearsal = _
  rw [run_perform_bind]
  cases (perform (.openDocument command.document text) rehearsal).1 <;> rfl

theorem confirm_run (root : Path) (command : Command) (rehearsal : Rehearsal) :
    (confirm client root command).run rehearsal =
      match (perform .confirm rehearsal).1 with
      | .error failure => (.failed (.session failure), (perform .confirm rehearsal).2)
      | .ok _ => (query client root command).run (perform .confirm rehearsal).2 := by
  rw [confirm, run_perform_bind]
  cases (perform .confirm rehearsal).1 <;> rfl

theorem converse_run (context : Launch.Context) (root : Path) (command : Command)
    (rehearsal : Rehearsal) :
    (converse client context root command).run rehearsal =
      match (perform (.handshake context) rehearsal).1 with
      | .error failure =>
        (.failed (.session failure), (perform (.handshake context) rehearsal).2)
      | .ok _ => (confirm client root command).run (perform (.handshake context) rehearsal).2 := by
  rw [converse, run_perform_bind]
  cases (perform (.handshake context) rehearsal).1 <;> rfl

end Steps

section Courses

def Knows (root : Path) (document uri languageId : String) : Prop :=
  Workspace.documentUri? root document = some uri ∧
    (Workspace.documentLanguage root document).id = languageId

/-- All but this ending of the plan has been queued, or a part of the plan is lost. -/
def Heard (frames : List Json) (root : Path) (ending : UInt64 → List Json)
    (rehearsal : Rehearsal) : Prop :=
  (∃ front next, Kept front root next rehearsal ∧ frames = front ++ ending next) ∨
    Lost frames root rehearsal

/-- What a part of the run has come to: the turns it took, and its verdict, which is a value
if all of them went well and the document could be read, and the value can be written. -/
structure Comes (frames : List Json) (root : Path) (writable : Prop) (text? : Option String)
    (operations : List Operation) (before after : Rehearsal) (verdict : Verdict) : Prop where
  heard : Heard frames root farewell after
  turns : ∃ steps, after.turns = before.turns ++ steps ∧ Goes operations steps ∧
    Concludes verdict writable (steps.all Turn.succeeded = true ∧ text?.isSome = true)

theorem Comes.after_turn {text? : Option String} {rest : List Operation}
    {before between after : Rehearsal} {verdict : Verdict} {turn : Turn}
    (comes : Comes frames root writable text? rest between after verdict)
    (adds : Adds before between turn) (performs : turn.operation = operation)
    (succeeded : turn.succeeded = true) :
    Comes frames root writable text? (operation :: rest) before after verdict where
  heard := comes.heard
  turns := by
    obtain ⟨steps, turns, goes, concludes⟩ := comes.turns
    refine ⟨turn :: steps, by rw [turns, adds.turns, List.append_assoc]; rfl, ?_, ?_⟩
    · rw [← performs]
      exact .on succeeded goes
    · simpa [succeeded] using concludes

theorem comes_of_failure {text? : Option String} {rest : List Operation}
    {before after : Rehearsal} {turn : Turn} (heard : Heard frames root farewell after)
    (adds : Adds before after turn) (performs : turn.operation = operation)
    (fails : turn.succeeded = false) (problem : Problem) :
    Comes frames root writable text? (operation :: rest) before after (.failed problem) where
  heard := heard
  turns := by
    have failed : ¬([turn].all Turn.succeeded = true ∧ text?.isSome = true) := by simp [fails]
    refine ⟨[turn], adds.turns, ?_, (settles_failed problem failed).concludes (absurd · failed)⟩
    rw [← performs]
    exact .breaks fails

theorem exists_error {result : Except Failure Reply} (fails : result.isOk = false) :
    ∃ failure, result = .error failure := by
  cases result with
  | ok reply => cases fails
  | error failure => exact ⟨failure, rfl⟩

theorem stands_of_kept {next : UInt64} (kept : Kept frames root next rehearsal) :
    ∃ slot, Stands rehearsal root slot :=
  kept.stands.elim (fun shut => ⟨_, shut⟩) fun free => ⟨_, free⟩

theorem comes_answer {text : String} (kept : Kept frames root 2 rehearsal)
    (framed : operation.frame? 2 uri languageId = some json) (asks : operation.asks = true)
    (known : ∀ document, operation.document? = some document → Knows root document uri languageId) :
    Comes (frames ++ ([json] ++ farewell 3)) root True (some text) [operation] rehearsal
      ((client.answer operation).run rehearsal).2 ((client.answer operation).run rehearsal).1 := by
  obtain ⟨slot, stands⟩ := stands_of_kept kept
  obtain ⟨turn, adds, performs, succeeds⟩ := Rehearsal.adds_perform stands operation
  -- The frame is queued or the plan is lost, whatever the answer will be.
  have heard : Heard (frames ++ ([json] ++ farewell 3)) root farewell
      (perform operation rehearsal).2 := by
    rcases kept.perform framed known with ⟨more, -⟩ | ⟨lost, -⟩
    · rw [if_pos asks] at more
      exact .inl ⟨_, _, more, (List.append_assoc ..).symm⟩
    · exact .inr (lost.mono (List.prefix_append _ _))
  rw [answer_run]
  cases outcome : (perform operation rehearsal).1 with
  | error failure =>
    rw [outcome] at succeeds
    exact comes_of_failure heard adds performs succeeds _
  | ok reply =>
    have succeeded : turn.succeeded = true := by rw [succeeds, outcome]; rfl
    exact ⟨heard, [turn], adds.turns, performs ▸ .on succeeded .over,
      (settles_value _ ⟨by simp [succeeded], rfl⟩).concludes fun _ => trivial⟩

variable {command : Command} {greeting confirmation opening : Json}

theorem comes_inquire {text : String}
    (kept : Kept [greeting, confirmation, opening] root 2 rehearsal)
    (known : Knows root command.document uri languageId) :
    Comes (greeting :: confirmation :: opening :: (command.question uri ++
        farewell (if (command.question uri).isEmpty then 2 else 3))) root (command.Writable root)
      (some text) command.inquiry rehearsal
      ((inquire client root command).run rehearsal).2
      ((inquire client root command).run rehearsal).1 := by
  cases command with
  | openDocument document =>
    cases told : Utf8.toString? (Workspace.documentPath root document) with
    | some path =>
      have written : (Workspace.documentPath root document).IsText := by
        simp [Path.IsText, told]
      have value : (inquire client root (.openDocument document)).run rehearsal =
          (.value (.object [("opened", .str path)]), rehearsal) := by
        simp only [inquire, told]
        rfl
      rw [value]
      exact ⟨.inl ⟨_, 2, kept, rfl⟩, [], (List.append_nil _).symm, .over,
        (settles_value _ ⟨rfl, rfl⟩).concludes fun _ => written⟩
    | none =>
      -- Nothing is asked of the server here, so all frames are kept and the run breaks off.
      have lost : ¬(Workspace.documentPath root document).IsText := by
        simp [Path.IsText, told]
      have broken : (inquire client root (.openDocument document)).run rehearsal =
          (.aborted, rehearsal) := by
        simp only [inquire, told]
        rfl
      rw [broken]
      exact ⟨.inl ⟨_, 2, kept, rfl⟩, [], (List.append_nil _).symm, .over,
        fun written => absurd (written ⟨rfl, rfl⟩) lost, fun _ _ => rfl⟩
  | symbols document | hover document line character | definition document line character =>
    have known' : ∀ name, some document = some name → Knows root name uri languageId := by
      rintro _ ⟨⟩
      exact known
    exact comes_answer kept rfl rfl known'

theorem comes_query
    (kept : Kept [greeting, Rpc.notification "initialized" (some (.object []))] root 2 rehearsal)
    (known : Knows root command.document uri languageId) {text? : Option String}
    (read : rehearsal.text? (Workspace.documentPath root command.document) = text?) :
    Comes (plan greeting uri languageId command true text?) root (command.Writable root) text?
      (command.course text?) rehearsal ((query client root command).run rehearsal).2
      ((query client root command).run rehearsal).1 := by
  cases text? with
  | none =>
    rw [query_of_unreadable read]
    exact ⟨.inl ⟨_, 2, kept, rfl⟩, [], (List.append_nil _).symm, .over,
      (settles_failed _ (by simp)).concludes fun holds => nomatch holds.2⟩
  | some text =>
    have known' : ∀ document, (Operation.openDocument command.document text).document? =
        some document → Knows root document uri languageId := by
      rintro _ ⟨⟩
      exact known
    obtain ⟨slot, stands⟩ := stands_of_kept kept
    obtain ⟨turn, adds, performs, succeeds⟩ :=
      Rehearsal.adds_perform stands (.openDocument command.document text)
    rw [query_of_readable read]
    rcases kept.perform rfl known' with ⟨opened, done⟩ | ⟨lost, fails⟩
    · rw [done rfl] at succeeds ⊢
      exact (comes_inquire opened known).after_turn adds performs succeeds
    · -- The document was read, but its frame was not taken, so there is no question.
      rw [fails rfl] at succeeds
      obtain ⟨failure, failed⟩ := exists_error (fails rfl)
      rw [failed]
      exact comes_of_failure (.inr (lost.mono (List.prefix_append _ _))) adds performs succeeds _

theorem comes_confirm (kept : Kept [greeting] root 2 rehearsal)
    (known : Knows root command.document uri languageId) {text? : Option String}
    (read : rehearsal.text? (Workspace.documentPath root command.document) = text?) :
    Comes (plan greeting uri languageId command true text?) root (command.Writable root) text?
      (.confirm :: command.course text?) rehearsal
      ((confirm client root command).run rehearsal).2
      ((confirm client root command).run rehearsal).1 := by
  obtain ⟨slot, stands⟩ := stands_of_kept kept
  obtain ⟨turn, adds, performs, succeeds⟩ := Rehearsal.adds_perform stands .confirm
  rw [confirm_run]
  have framed : Operation.confirm.frame? 2 uri languageId =
      some (Rpc.notification "initialized" (some (.object []))) := rfl
  rcases kept.perform framed nofun with ⟨confirmed, done⟩ | ⟨lost, fails⟩
  · rw [done rfl] at succeeds ⊢
    rw [← adds.text] at read
    exact (comes_query confirmed known read).after_turn adds performs succeeds
  · rw [fails rfl] at succeeds
    obtain ⟨failure, failed⟩ := exists_error (fails rfl)
    rw [failed]
    have cut : [greeting] <+: plan greeting uri languageId command true text? := by
      cases text? <;> exact List.prefix_append [greeting] _
    exact comes_of_failure (.inr (lost.mono cut)) adds performs succeeds _

/-- A session that has not been started yet, on a machine that can launch its server. -/
structure Ready (rehearsal : Rehearsal) (context : Launch.Context) (root : Path)
    (rootUri folder : String) : Prop where
  turns : rehearsal.turns = []
  aside : rehearsal.aside = []
  session : ∃ session command, rehearsal.session? = some session ∧
    session.lifecycle = .uninitialized ∧ session.root = root ∧ session.identity.slug = folder ∧
    session.prepareLaunch rehearsal.machine context = .ok (command, rootUri)

theorem kept_greet {context : Launch.Context} {rootUri folder : String}
    (ready : Ready rehearsal context root rootUri folder) :
    Kept [Rpc.request 1 "initialize"
        (some (Rpc.handshakeParams rehearsal.machine.processId rootUri folder))] root 2
      (perform (.handshake context) rehearsal).2 ∧
    (perform (.handshake context) rehearsal).2.text? = rehearsal.text? ∧
    ∃ first, (perform (.handshake context) rehearsal).2.turns = [first] ∧
      first.operation = .handshake context ∧
      first.succeeded = (perform (.handshake context) rehearsal).1.isOk := by
  obtain ⟨none_yet, quiet, session, command, stands, fresh, rfl, rfl, prepared⟩ := ready
  -- A new session takes its first frame in any case.
  have speaks := Session.handshake_speaks fresh prepared
  have adds := Rehearsal.adds_of_speaks stands speaks
  have after := Rehearsal.stands_perform stands (.handshake context)
  rw [speaks.slot, speaks.root] at after
  have turns := adds.turns
  rw [none_yet, List.nil_append] at turns
  have only : rehearsal.OnlyReplies := by
    rw [Rehearsal.OnlyReplies, quiet]
    exact nofun
  refine ⟨⟨?_, after, adds.onlyReplies only⟩, adds.text, _, turns, rfl, rfl⟩
  rw [turns]
  rfl

theorem comes_through {context : Launch.Context} {rootUri folder : String}
    (ready : Ready rehearsal context root rootUri folder)
    (known : Knows root command.document uri languageId) {text? : Option String}
    (read : rehearsal.text? (Workspace.documentPath root command.document) = text?) :
    ∃ first steps,
      ((converse client context root command).run rehearsal).2.turns = first :: steps ∧
      Goes (.handshake context :: .confirm :: command.course text?) (first :: steps) ∧
      Heard (plan (Rpc.request 1 "initialize"
          (some (Rpc.handshakeParams rehearsal.machine.processId rootUri folder)))
          uri languageId command first.succeeded text?) root farewell
        ((converse client context root command).run rehearsal).2 ∧
      Concludes ((converse client context root command).run rehearsal).1 (command.Writable root)
        ((first :: steps).all Turn.succeeded = true ∧ text?.isSome = true) := by
  -- The run up to the query. Its first turn is the handshake, and what the plan holds depends on
  -- how that went.
  obtain ⟨kept, same, first, turns, greets, succeeds⟩ := kept_greet ready
  rw [converse_run]
  rw [← same] at read
  -- What the plan holds depends on how the handshake, the first turn, went.
  cases outcome : (perform (.handshake context) rehearsal).1 with
  | error failure =>
    have fails : first.succeeded = false := by rw [succeeds, outcome]; rfl
    have failed : ¬([first].all Turn.succeeded = true ∧ text?.isSome = true) := by simp [fails]
    have goes : Goes (.handshake context :: .confirm :: command.course text?) [first] :=
      greets ▸ .breaks fails
    refine ⟨first, [], turns, goes, .inl ⟨_, 2, kept, ?_⟩,
      (settles_failed _ failed).concludes (absurd · failed)⟩
    rw [fails]
    rfl
  | ok reply =>
    have succeeded : first.succeeded = true := by rw [succeeds, outcome]; rfl
    obtain ⟨heard, steps, steps_turns, goes, concludes⟩ := comes_confirm kept known read
    rw [turns] at steps_turns
    refine ⟨first, steps, steps_turns, greets ▸ .on succeeded goes, ?_, ?_⟩
    · rw [succeeded]
      exact heard
    · rw [List.all_cons, succeeded]
      exact concludes

theorem writable_of_isText (readable : Path.IsText root) (command : Command) :
    command.Writable root := by
  cases command with
  | openDocument document => exact readable.extend document
  | symbols document | hover document line character | definition document line character =>
    trivial

theorem comes_converse {context : Launch.Context} {rootUri folder : String}
    (ready : Ready rehearsal context root rootUri folder) (readable : Path.IsText root)
    (known : Knows root command.document uri languageId) {text? : Option String}
    (read : rehearsal.text? (Workspace.documentPath root command.document) = text?) :
    ∃ first steps,
      ((converse client context root command).run rehearsal).2.turns = first :: steps ∧
      Goes (.handshake context :: .confirm :: command.course text?) (first :: steps) ∧
      Heard (plan (Rpc.request 1 "initialize"
          (some (Rpc.handshakeParams rehearsal.machine.processId rootUri folder)))
          uri languageId command first.succeeded text?) root farewell
        ((converse client context root command).run rehearsal).2 ∧
      Settles ((converse client context root command).run rehearsal).1
        ((first :: steps).all Turn.succeeded = true ∧ text?.isSome = true) := by
  obtain ⟨first, steps, turns, goes, heard, concludes⟩ := comes_through ready known read
  exact ⟨first, steps, turns, goes, heard,
    concludes.settles fun _ => writable_of_isText readable command⟩

end Courses

end WorkspaceServers.CommandLine
