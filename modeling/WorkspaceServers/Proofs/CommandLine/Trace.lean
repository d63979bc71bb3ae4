import WorkspaceServers.Proofs.CommandLine.Conversation
import WorkspaceServers.Proofs.Registry.Operations

/-!
Whole runs of the command line. Whatever part the server plays and whether or not the
document can be read, a run goes through its operations up to the first that fails, then
shuts the session down, and queues the frames of its plan until no more are taken. What it
prints is settled before the shutdown, and it leaves nothing in the registry.
-/

namespace WorkspaceServers.CommandLine

open Session (Operation Question Reply)
open Rehearsal (client perform opening)

section Closing

variable {rehearsal : Rehearsal} {root : Path} {frames : List Json} {ending : UInt64 → List Json}

theorem turns_elapse (rehearsal : Rehearsal) : rehearsal.elapse.turns = rehearsal.turns := by
  unfold Rehearsal.elapse
  split <;> rfl

theorem onlyReplies_elapse (only : rehearsal.OnlyReplies) : rehearsal.elapse.OnlyReplies := by
  unfold Rehearsal.elapse
  split
  · exact only
  · exact only.append rfl (Rehearsal.replies_play _ _)

theorem Heard.stands (heard : Heard frames root ending rehearsal) :
    ∃ slot, rehearsal.Stands root slot := by
  rcases heard with ⟨front, next, kept, -⟩ | lost
  · exact stands_of_kept kept
  · exact ⟨none, lost.stands⟩

theorem Heard.perform (heard : Heard frames root ending rehearsal) (operation : Operation)
    (bare : operation.document? = none) {head : UInt64 → Json} {rest : UInt64 → List Json}
    (framed : ∀ id, operation.frame? id "" "" = some (head id))
    (begins : ∀ id, ending id = head id :: rest (if operation.asks then id + 1 else id)) :
    Heard frames root rest (perform operation rehearsal).2 := by
  have known : ∀ document, operation.document? = some document → Knows root document "" "" := by
    rw [bare]
    exact nofun
  rcases heard with ⟨front, next, kept, rfl⟩ | lost
  · rw [begins next]
    rcases kept.perform (framed next) known with ⟨more, -⟩ | ⟨lost, -⟩
    · exact .inl ⟨_, _, more, (List.append_assoc front [_] _).symm⟩
    · exact .inr (lost.mono (List.prefix_append _ _))
  · refine .inr (lost.perform ?_).1
    rintro context rfl
    cases framed 0

theorem Heard.follows (heard : Heard frames root (fun _ => []) rehearsal) :
    Follows frames rehearsal.turns ∧ rehearsal.OnlyReplies := by
  rcases heard with ⟨front, next, kept, rfl⟩ | lost
  · rw [List.append_nil]
    exact ⟨kept.follows, kept.only⟩
  · exact ⟨lost.follows, lost.only⟩

theorem close_of_heard (heard : Heard frames root farewell rehearsal) :
    ∃ shutdown exit,
      ((close client).run rehearsal).2.turns = rehearsal.turns ++ [shutdown, exit] ∧
      shutdown.operation = .shutdown ∧ exit.operation = .exit ∧
      Follows frames ((close client).run rehearsal).2.turns ∧
      ((close client).run rehearsal).2.OnlyReplies := by
  have closed : ((close client).run rehearsal).2 =
      (perform .exit (perform .shutdown rehearsal).2).2.elapse := rfl
  -- Each of the two takes its frame off the ending.
  have shut : Heard frames root (fun _ => [Rpc.notification "exit" none])
      (perform .shutdown rehearsal).2 := heard.perform .shutdown rfl (fun _ => rfl) fun _ => rfl
  have left : Heard frames root (fun _ => []) (perform .exit (perform .shutdown rehearsal).2).2 :=
    shut.perform .exit rfl (fun _ => rfl) fun _ => rfl
  obtain ⟨slot, stands⟩ := heard.stands
  obtain ⟨slot', stands'⟩ := shut.stands
  obtain ⟨shutdown, adds, shuts, -⟩ := Rehearsal.adds_perform stands .shutdown
  obtain ⟨exit, adds', leaves, -⟩ := Rehearsal.adds_perform stands' .exit
  obtain ⟨follows, only⟩ := left.follows
  rw [closed, turns_elapse]
  refine ⟨shutdown, exit, ?_, shuts, leaves, follows, onlyReplies_elapse only⟩
  rw [adds'.turns, adds.turns, List.append_assoc]
  rfl

end Closing

section Runs

variable {setup : Setup} {arguments : Arguments} {machine : Launch.Machine}

theorem run_of_settled {rehearsal after : Rehearsal} {verdict : Verdict}
    (conversed : (converse client setup.context (setup.storage.documentRoot arguments.identity)
      arguments.command).run rehearsal = (verdict, after))
    (settled : verdict ≠ .aborted) :
    (run client setup arguments).run rehearsal =
      (verdict, ((close client).run after).2.remove arguments.resource arguments.slug) := by
  rw [run, StateT.run_bind, conversed]
  cases verdict with
  | aborted => exact absurd rfl settled
  | value json => rfl
  | failed problem => rfl

theorem ready_opening (read? : Json → Question → Option Reply) (text? : Path → Option String)
    (part : List (UInt64 → List Happening)) {launch : Launch.Command} {rootUri : String}
    (launches : (Session.create arguments.identity (setup.storage.documentRoot arguments.identity)
      setup.options).prepareLaunch machine setup.context = .ok (launch, rootUri)) :
    Ready (opening setup arguments.identity machine read? text? part) setup.context
      (setup.storage.documentRoot arguments.identity) rootUri arguments.slug :=
  ⟨rfl, rfl, _, launch, rfl, rfl, rfl, rfl, launches⟩

/-- How a run went: through the course of its command as far as it came, then through
shutdown and exit, and all along the plan. -/
structure Conducted (context : Launch.Context) (command : Command) (greeting : Json)
    (uri languageId : String) (text? : Option String) (verdict : Verdict) (after : Rehearsal) :
    Prop where
  turns : ∃ first steps shutdown exit frames,
    after.turns = first :: steps ++ [shutdown, exit] ∧
    Goes (.handshake context :: .confirm :: command.course text?) (first :: steps) ∧
    shutdown.operation = .shutdown ∧ exit.operation = .exit ∧
    after.turns.flatMap Turn.queued = frames.map .frame ∧
    frames <+: plan greeting uri languageId command first.succeeded text? ∧
    Follows (plan greeting uri languageId command first.succeeded text?) after.turns ∧
    Settles verdict ((first :: steps).all Turn.succeeded = true ∧ text?.isSome = true)
  only : after.OnlyReplies

/-- For a root that can be told by name and a server that can be launched, in whatever way the
results of its requests are read. -/
theorem run_conducted (setup : Setup) (arguments : Arguments) (machine : Launch.Machine)
    (read? : Json → Question → Option Reply) (text? : Path → Option String)
    (part : List (UInt64 → List Happening)) {root : Path} {launch : Launch.Command}
    {rootUri : String} (placed : setup.storage.documentRoot arguments.identity = root)
    (readable : root.IsText)
    (launches : (Session.create arguments.identity root setup.options).prepareLaunch machine
      setup.context = .ok (launch, rootUri)) :
    ∃ uri verdict after,
      Workspace.documentUri? root arguments.command.document = some uri ∧
      (run client setup arguments).run
        (opening setup arguments.identity machine read? text? part) = (verdict, after) ∧
      Conducted setup.context arguments.command
        (Rpc.request 1 "initialize"
          (some (Rpc.handshakeParams machine.processId rootUri arguments.slug)))
        uri (Workspace.documentLanguage root arguments.command.document).id
        (text? (Workspace.documentPath root arguments.command.document)) verdict after ∧
      ((converse client setup.context root arguments.command).run
        (opening setup arguments.identity machine read? text? part)).1 = verdict ∧
      after.registry.get? arguments.resource arguments.slug = none := by
  subst placed
  obtain ⟨uri, told⟩ := Workspace.exists_documentUri
    (Workspace.isAbsolute_documentRoot setup.storage arguments.identity) arguments.command.document
  obtain ⟨first, steps, turns, goes, heard, settles⟩ :=
    comes_converse (ready_opening read? text? part launches) readable ⟨told, rfl⟩ rfl
  generalize conversed : (converse client setup.context _ arguments.command).run
    (opening setup arguments.identity machine read? text? part) = outcome at turns heard settles
  obtain ⟨verdict, between⟩ := outcome
  obtain ⟨shutdown, exit, closing, shuts, leaves, follows, only⟩ := close_of_heard heard
  obtain ⟨frames, queued, cut⟩ := follows.queued
  -- A settled run goes on to the shutdown, and then the session is removed by its key.
  refine ⟨uri, verdict, _, told, run_of_settled conversed settles.ne_aborted,
    ⟨⟨first, steps, shutdown, exit, frames, ?_, goes, shuts, leaves, queued, cut, follows, settles⟩,
      only⟩, ?_, ?_⟩
  · exact closing.trans (by rw [turns])
  · rfl
  · exact (Registry.find?_remove ..).trans (if_pos rfl)

end Runs

section Sample

def sampleSetup : Setup where
  storage := ⟨Path.ofString "/srv", "app", by decide⟩
  options := .default
  context :=
    .ofSettings [(.serverPath, some "lsp"), (.sdkPath, some "sdk"), (.target, some "x86")]

def sampleMachine : Launch.Machine := ⟨7, fun _ => some (.ofString "/bin/lsp"), fun _ => true⟩

def sampleArguments : Arguments :=
  ⟨"default", "host", "demo", none, none, none, none, none, .hover "main.swift" 0 4⟩

/-- The server answers the handshake and the query, and then it is gone. -/
def samplePart : List (UInt64 → List Happening) :=
  let answer (result : Json) (id : UInt64) : Happening :=
    .incident (.frame (.object [("id", .ofUInt64 id), ("result", result)]))
  [fun id => [answer (.object [("capabilities", .object [])]) id], fun _ => [], fun _ => [],
    fun id => [answer .null id, .processEnded]]

def sampleOpening : Rehearsal :=
  opening sampleSetup sampleArguments.identity sampleMachine Question.read?
    (fun _ => some "let x = 1") samplePart

theorem run_conducted_hover :
    ∃ root launch rootUri,
      sampleSetup.storage.documentRoot sampleArguments.identity = root ∧ root.IsText ∧
      (Session.create sampleArguments.identity root sampleSetup.options).prepareLaunch
        sampleMachine sampleSetup.context = .ok (launch, rootUri) ∧
      ∃ uri verdict after,
        Workspace.documentUri? root "main.swift" = some uri ∧
        (run client sampleSetup sampleArguments).run sampleOpening = (verdict, after) ∧
        Conducted sampleSetup.context sampleArguments.command
          (Rpc.request 1 "initialize" (some (Rpc.handshakeParams 7 rootUri "demo")))
          uri (Workspace.documentLanguage root "main.swift").id (some "let x = 1")
          verdict after ∧
        ((converse client sampleSetup.context root sampleArguments.command).run
          sampleOpening).1 = verdict ∧
        after.registry.get? "host" "demo" = none := by
  have readable : (sampleSetup.storage.documentRoot sampleArguments.identity).IsText := by
    unfold Path.IsText
    decide +kernel
  exact ⟨_, _, _, rfl, readable, rfl, run_conducted sampleSetup sampleArguments sampleMachine
    Question.read? (fun _ => some "let x = 1") samplePart rfl readable rfl⟩

/-- The shutdown comes too late, and the answer is printed. -/
example :
    let outcome := (run client sampleSetup sampleArguments).run sampleOpening
    outcome.2.turns.map Turn.opened = [true, true, true, true, false, false] ∧
      outcome.1.ending.output = "null\n" := by
  decide +kernel

end Sample

end WorkspaceServers.CommandLine
