import WorkspaceServers.Proofs.CommandLine.Trace
import WorkspaceServers.Proofs.Workspace.Telling

/-!
Runs over storage that need not be text. There is one way for a run to break off: a document is
opened for its own sake, everything goes well, and its path, which the answer names, is no
text. Then the server is left without a farewell and the session stays in the registry. Every
other run is conducted to its end, whatever the bytes of the paths are.
-/

namespace WorkspaceServers.CommandLine

open Session (Operation Question Reply)
open Rehearsal (client perform opening)

section Stored

def Rehearsal.stored (rehearsal : Rehearsal) : List (Workspace.Key × Nat) × Nat :=
  (rehearsal.registry.entries, rehearsal.number)

def Keeps {α : Type} (program : StateM Rehearsal α) : Prop :=
  ∀ rehearsal, (program.run rehearsal).2.stored = rehearsal.stored

variable {α β : Type} {program : StateM Rehearsal α}

theorem keeps_pure (value : α) : Keeps (pure value) := fun _ => rfl

theorem Keeps.bind {next : α → StateM Rehearsal β} (keeps : Keeps program)
    (others : ∀ value, Keeps (next value)) : Keeps (program >>= next) := fun rehearsal =>
  (others _ _).trans (keeps rehearsal)

theorem keeps_perform (operation : Operation) : Keeps (client.perform operation) := by
  intro rehearsal
  show (perform operation rehearsal).2.stored = _
  unfold perform
  split <;> rfl

theorem keeps_readText (path : Path) : Keeps (client.readText path) := fun _ => rfl

theorem keeps_answer (operation : Operation) : Keeps (client.answer operation) := by
  refine (keeps_perform operation).bind fun result => ?_
  cases result <;> exact keeps_pure _

theorem keeps_inquire (root : Path) (command : Command) : Keeps (inquire client root command) := by
  cases command with
  | openDocument document =>
    simp only [inquire]
    split <;> exact keeps_pure _
  | symbols document | hover document line character | definition document line character =>
    exact keeps_answer _

theorem keeps_query (root : Path) (command : Command) : Keeps (query client root command) := by
  refine (keeps_readText _).bind fun text? => ?_
  cases text? with
  | none => exact keeps_pure _
  | some text =>
    refine (keeps_perform _).bind fun result => ?_
    cases result with
    | error failure => exact keeps_pure _
    | ok reply => exact keeps_inquire root command

theorem keeps_confirm (root : Path) (command : Command) :
    Keeps (confirm client root command) := by
  refine (keeps_perform _).bind fun result => ?_
  cases result with
  | error failure => exact keeps_pure _
  | ok reply => exact keeps_query root command

theorem keeps_converse (context : Launch.Context) (root : Path) (command : Command) :
    Keeps (converse client context root command) := by
  refine (keeps_perform _).bind fun result => ?_
  cases result with
  | error failure => exact keeps_pure _
  | ok reply => exact keeps_confirm root command

theorem get?_of_stored {before after : Rehearsal} (same : after.stored = before.stored)
    {resource slug : String} (found : before.registry.get? resource slug = some before.number) :
    after.registry.get? resource slug = some after.number := by
  obtain ⟨entries, number⟩ := Prod.mk.inj same
  rwa [Registry.get?, Registry.find?, entries, number]

theorem get?_opening (setup : Setup) (arguments : Arguments) (machine : Launch.Machine)
    (read? : Json → Question → Option Reply) (text? : Path → Option String)
    (part : List (UInt64 → List Happening)) :
    let opened := opening setup arguments.identity machine read? text? part
    opened.registry.get? arguments.resource arguments.slug = some opened.number := by
  have found := Registry.find?_getOrCreate (.create setup.storage setup.options)
    arguments.identity arguments.identity.key
  rwa [if_pos rfl] at found

end Stored

section Courses

variable {rehearsal : Rehearsal} {root : Path} {frames : List Json} {ending : UInt64 → List Json}
variable {operations : List Operation} {last : Operation} {turns : List Turn} {turn : Turn}

theorem Goes.all_succeeded (goes : Goes (operations ++ [last]) turns) (fresh : last ∉ operations)
    (member : turn ∈ turns) (performs : turn.operation = last) (succeeded : turn.succeeded = true) :
    turns.all Turn.succeeded = true := by
  -- Where the last operation has been performed well, all have.
  induction operations generalizing turns with
  | nil =>
    cases goes with
    | breaks fails =>
      rw [List.mem_singleton.mp member, fails] at succeeded
      cases succeeded
    | on first rest =>
      cases rest
      simpa using first
  | cons operation rest ih =>
    -- The member is not the first turn, since its operation comes last and only there.
    obtain ⟨other, later⟩ := List.ne_and_not_mem_of_not_mem_cons fresh
    cases goes with
    | breaks fails =>
      rw [List.mem_singleton.mp member, fails] at succeeded
      cases succeeded
    | on first goes =>
      rcases List.mem_cons.mp member with rfl | behind
      · exact absurd performs.symm other
      · rw [List.all_cons, first, ih goes later behind]
        rfl

theorem Goes.operations_eq {operations : List Operation} {turns : List Turn}
    (goes : Goes operations turns) (succeeded : turns.all Turn.succeeded = true) :
    turns.map Turn.operation = operations := by
  match goes with
  | .over => rfl
  | .breaks fails => simp [fails] at succeeded
  | .on first rest =>
    rw [List.all_cons, first, Bool.true_and] at succeeded
    rw [List.map_cons, rest.operations_eq succeeded]

theorem Heard.queued (heard : Heard frames root ending rehearsal) :
    ∃ front, rehearsal.turns.flatMap Turn.queued = front.map .frame ∧ front <+: frames ∧
      front.length ≤ rehearsal.turns.length := by
  have short : ∀ front silent, rehearsal.turns.map Turn.speech =
      spoken front ++ List.replicate silent silence → front.length ≤ rehearsal.turns.length := by
    intro front silent speeches
    have lengths := congrArg List.length speeches
    simp only [List.length_map, List.length_append, spoken, List.length_replicate] at lengths
    omega
  rcases heard with ⟨front, next, kept, rfl⟩ | ⟨⟨front, silent, speeches, cut⟩, -, -⟩
  · have speeches : rehearsal.turns.map Turn.speech = spoken front ++ List.replicate 0 silence :=
      kept.speeches.trans (List.append_nil _).symm
    exact ⟨front, queued_of_speeches speeches, List.prefix_append _ _, short _ _ speeches⟩
  · exact ⟨front, queued_of_speeches speeches, cut, short _ _ speeches⟩

end Courses

section Runs

variable {setup : Setup} {arguments : Arguments} {machine : Launch.Machine}

theorem run_of_aborted {rehearsal after : Rehearsal}
    (conversed : (converse client setup.context (setup.storage.documentRoot arguments.identity)
      arguments.command).run rehearsal = (.aborted, after)) :
    (run client setup arguments).run rehearsal = (.aborted, after) := by
  rw [run, StateT.run_bind, conversed]
  rfl

/-- The run went well up to the opening of its document, and no further: nothing has told the
server to stop. -/
structure BrokenOff (context : Launch.Context) (document text : String) (greeting opened : Json)
    (after : Rehearsal) : Prop where
  operations : after.turns.map Turn.operation =
    [.handshake context, .confirm, .openDocument document text]
  succeeded : ∀ turn ∈ after.turns, turn.succeeded = true
  queued : ∃ frames, after.turns.flatMap Turn.queued = frames.map .frame ∧
    frames <+: [greeting, Rpc.notification "initialized" (some (.object [])), opened]

def Opened (document : String) (text? : Option String) (after : Rehearsal) : Prop :=
  ∃ text, text? = some text ∧ ∃ turn ∈ after.turns,
    turn.operation = .openDocument document text ∧ turn.succeeded = true

/-- How a run over any storage ends: it breaks off if a document is opened under a base that is no
text, and does open, and otherwise it is conducted to its end and leaves nothing in the
registry. -/
structure Ends (setup : Setup) (arguments : Arguments) (greeting : Json) (uri languageId : String)
    (text? : Option String) (verdict : Verdict) (after : Rehearsal) : Prop where
  conducted : verdict ≠ .aborted →
    Conducted setup.context arguments.command greeting uri languageId text? verdict after ∧
    after.registry.get? arguments.resource arguments.slug = none
  broken : verdict = .aborted →
    (∃ text, text? = some text ∧
      BrokenOff setup.context arguments.command.document text greeting
        (Rpc.notification "textDocument/didOpen" (some (Rpc.openParams uri languageId text)))
        after) ∧
    after.registry.get? arguments.resource arguments.slug = some after.number
  breaks : verdict = .aborted ↔ ¬setup.storage.base.IsText ∧
    arguments.command = .openDocument arguments.command.document ∧
    Opened arguments.command.document text? after

theorem writable_iff (storage : Workspace.Storage) (identity : Workspace.Identity)
    (command : Command) : command.Writable (storage.documentRoot identity) ↔
      (command = .openDocument command.document → storage.base.IsText) := by
  cases command with
  | openDocument document =>
    exact (Workspace.isText_documentPath_iff storage identity document).trans
      ⟨fun text _ => text, fun text => text rfl⟩
  | symbols document | hover document line character | definition document line character =>
    exact ⟨fun _ => nofun, fun _ => trivial⟩

variable {context : Launch.Context} {command : Command} {text? : Option String}
variable {turns farewells : List Turn} {after : Rehearsal}

theorem course_of_opens (opens : command = .openDocument command.document) (text : String) :
    command.course (some text) = [.openDocument command.document text] := by
  rw [opens]
  rfl

theorem opened_iff (opens : command = .openDocument command.document)
    (goes : Goes (.handshake context :: .confirm :: command.course text?) turns)
    (ends : after.turns = turns ++ farewells)
    (others : ∀ turn ∈ farewells, ∀ document text, turn.operation ≠ .openDocument document text) :
    Opened command.document text? after ↔
      turns.all Turn.succeeded = true ∧ text?.isSome = true := by
  rw [Opened, ends]
  constructor
  · -- The turn that opened it is among the steps, not among the farewells.
    rintro ⟨text, rfl, turn, member, performs, succeeded⟩
    rw [course_of_opens opens] at goes
    rcases List.mem_append.mp member with here | behind
    · have fresh : Operation.openDocument command.document text ∉
          [Operation.handshake context, .confirm] := by simp
      exact ⟨Goes.all_succeeded goes fresh here performs succeeded, rfl⟩
    · exact absurd performs (others turn behind _ text)
  · rintro ⟨succeeded, readable⟩
    obtain ⟨text, rfl⟩ := Option.isSome_iff_exists.mp readable
    have performed : Operation.openDocument command.document text ∈ turns.map Turn.operation := by
      rw [goes.operations_eq succeeded, course_of_opens opens]
      simp
    obtain ⟨turn, member, performs⟩ := List.mem_map.mp performed
    exact ⟨text, rfl, turn, List.mem_append_left _ member, performs,
      List.all_eq_true.mp succeeded turn member⟩

theorem brokenOff_of_heard {greeting : Json} {uri languageId text : String} {root : Path}
    (opens : command = .openDocument command.document)
    (goes : Goes (.handshake context :: .confirm :: command.course (some text)) after.turns)
    (succeeded : after.turns.all Turn.succeeded = true)
    (heard : Heard (plan greeting uri languageId command true (some text)) root farewell after) :
    BrokenOff context command.document text greeting
      (Rpc.notification "textDocument/didOpen" (some (Rpc.openParams uri languageId text)))
      after := by
  have operations := goes.operations_eq succeeded
  rw [course_of_opens opens] at operations
  obtain ⟨frames, queued, cut, short⟩ := heard.queued
  -- There are three turns, and the plan has three frames in front of the farewell.
  have three : after.turns.length = 3 := by
    rw [← List.length_map, operations]
    rfl
  refine ⟨operations, List.all_eq_true.mp succeeded, frames, queued, ?_⟩
  exact List.prefix_of_prefix_length_le cut (List.prefix_append [_, _, _] _)
    (short.trans_eq three)

/-- This is the end of every run whose server can be launched, whatever part the server plays,
whatever can be read, and whatever bytes the base of the storage is made of. -/
theorem run_ends (setup : Setup) (arguments : Arguments) (machine : Launch.Machine)
    (read? : Json → Question → Option Reply) (text? : Path → Option String)
    (part : List (UInt64 → List Happening)) {root : Path} {launch : Launch.Command}
    {rootUri : String}
    (placed : setup.storage.documentRoot arguments.identity = root)
    (launches : (Session.create arguments.identity root setup.options).prepareLaunch machine
      setup.context = .ok (launch, rootUri)) :
    ∃ uri verdict after,
      Workspace.documentUri? root arguments.command.document = some uri ∧
      (run client setup arguments).run
        (opening setup arguments.identity machine read? text? part) = (verdict, after) ∧
      Ends setup arguments
        (Rpc.request 1 "initialize"
          (some (Rpc.handshakeParams machine.processId rootUri arguments.slug)))
        uri (Workspace.documentLanguage root arguments.command.document).id
        (text? (Workspace.documentPath root arguments.command.document)) verdict after := by
  subst placed
  obtain ⟨uri, told⟩ := Workspace.exists_documentUri
    (Workspace.isAbsolute_documentRoot setup.storage arguments.identity) arguments.command.document
  obtain ⟨first, steps, turns, goes, heard, concludes⟩ :=
    comes_through (ready_opening read? text? part launches) ⟨told, rfl⟩ rfl
  have kept := keeps_converse setup.context (setup.storage.documentRoot arguments.identity)
    arguments.command (opening setup arguments.identity machine read? text? part)
  generalize conversed : (converse client setup.context _ arguments.command).run
    (opening setup arguments.identity machine read? text? part) = outcome
    at turns heard concludes kept
  obtain ⟨verdict, between⟩ := outcome
  have aborted := concludes.aborted_iff
  rw [writable_iff, Classical.not_imp] at aborted
  by_cases broken : verdict = .aborted
  · -- The run broke off, so all its turns went well and the document was opened.
    obtain ⟨⟨succeeded, readable⟩, opens, noText⟩ := aborted.mp broken
    obtain ⟨text, read⟩ := Option.isSome_iff_exists.mp readable
    have greeted : first.succeeded = true := List.all_eq_true.mp succeeded first List.mem_cons_self
    rw [← turns] at goes succeeded
    have opened := (opened_iff opens goes (List.append_nil _).symm
      fun _ member => absurd member List.not_mem_nil).mpr ⟨succeeded, readable⟩
    rw [greeted, read] at heard
    rw [read] at goes
    have stored := get?_of_stored kept (get?_opening setup arguments machine read? text? part)
    subst broken
    exact ⟨uri, _, between, told, run_of_aborted conversed, {
      conducted := fun settled => absurd rfl settled
      broken := fun _ => ⟨⟨text, read, brokenOff_of_heard opens goes succeeded heard⟩, stored⟩
      breaks := iff_of_true rfl ⟨noText, opens, opened⟩ }⟩
  · obtain ⟨shutdown, exit, closing, shuts, leaves, follows, only⟩ := close_of_heard heard
    obtain ⟨frames, queued, cut⟩ := follows.queued
    have others : ∀ turn ∈ [shutdown, exit], ∀ document text,
        turn.operation ≠ .openDocument document text := by simp [shuts, leaves]
    rw [turns] at closing
    refine ⟨uri, verdict, _, told, run_of_settled conversed broken, {
      conducted := fun _ => ⟨⟨⟨first, steps, shutdown, exit, frames, closing, goes, shuts, leaves,
        queued, cut, follows, concludes.settles_of_ne broken⟩, only⟩, ?_⟩
      broken := fun aborted => absurd aborted broken
      breaks := ?_ }⟩
    · exact (Registry.find?_remove ..).trans (if_pos rfl)
    · -- An opened document would mean that all went well, and then the verdict were `aborted`.
      refine iff_of_false broken ?_
      rintro ⟨noText, opens, opened⟩
      exact broken (aborted.mpr ⟨(opened_iff opens goes closing others).mp opened, opens, noText⟩)

end Runs

section Sample

def unnamedSetup : Setup :=
  { sampleSetup with storage := ⟨[Path.slash, 0xFF], "app", by decide⟩ }

def openArguments : Arguments := { sampleArguments with command := .openDocument "main.swift" }

def unnamedOpening : Rehearsal :=
  opening unnamedSetup openArguments.identity sampleMachine Question.read?
    (fun _ => some "let x = 1") samplePart

/-- The server has been launched, and the document read and opened, and yet there is no answer;
neither shutdown nor exit is called, and the session stays in the registry. -/
example :
    let outcome := (run client unnamedSetup openArguments).run unnamedOpening
    outcome.1.ending.exitCode = 101 ∧
      outcome.2.turns.map Turn.succeeded = [true, true, true] ∧
      outcome.2.turns.map (fun turn => turn.operation.ends) = [false, false, false] ∧
      outcome.2.registry.get? "host" "demo" = some 0 := by
  decide +kernel

end Sample

end WorkspaceServers.CommandLine
