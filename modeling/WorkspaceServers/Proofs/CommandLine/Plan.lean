import WorkspaceServers.Proofs.CommandLine.Rehearsing
import WorkspaceServers.Proofs.Workspace.Document

/-!
The plan of a run: the frames that are to be queued, in their order. The turns of a run
follow it frame by frame until frames are no longer taken, and from there on they are
silent.
-/

namespace WorkspaceServers.CommandLine

open Session (Operation)

def Command.question (uri : String) : Command → List Json
  | .openDocument _ => []
  | .symbols _ => [Rpc.request 2 "textDocument/documentSymbol" (some (Rpc.documentParams uri))]
  | .hover _ line character =>
    [Rpc.request 2 "textDocument/hover" (some (Rpc.positionParams uri line character))]
  | .definition _ line character =>
    [Rpc.request 2 "textDocument/definition" (some (Rpc.positionParams uri line character))]

def farewell (id : UInt64) : List Json :=
  [Rpc.request id "shutdown" none, Rpc.notification "exit" none]

/-- The frames of a run whose handshake was answered as it should be, or not, and whose
document could be read, or not. -/
def plan (greeting : Json) (uri languageId : String) (command : Command) (greeted : Bool)
    (text? : Option String) : List Json :=
  let confirmation := Rpc.notification "initialized" (some (.object []))
  match greeted, text? with
  | false, _ => greeting :: farewell 2
  | true, none => greeting :: confirmation :: farewell 2
  | true, some text =>
    greeting :: confirmation ::
      Rpc.notification "textDocument/didOpen" (some (Rpc.openParams uri languageId text)) ::
      (command.question uri ++ farewell (if (command.question uri).isEmpty then 2 else 3))

def Turn.speech (turn : Turn) : Bool × List Transport.Command := (turn.opened, turn.queued)

def spoken (frames : List Json) : List (Bool × List Transport.Command) :=
  frames.map fun json => (true, [.frame json])

def silence : Bool × List Transport.Command := (false, [])

/-- One frame of the plan at each turn, in order, up to the turns at which no frames are
taken; and the whole plan if there are none of these. -/
def Follows (frames : List Json) (turns : List Turn) : Prop :=
  ∃ front silent, turns.map Turn.speech = spoken front ++ List.replicate silent silence ∧
    front <+: frames ∧ (silent = 0 → front = frames)

theorem spoken_append (first second : List Json) :
    spoken (first ++ second) = spoken first ++ spoken second := List.map_append

theorem queued_of_speeches {front : List Json} {silent : Nat} {turns : List Turn}
    (speeches : turns.map Turn.speech = spoken front ++ List.replicate silent silence) :
    turns.flatMap Turn.queued = front.map .frame := by
  have queued : turns.flatMap Turn.queued = (turns.map Turn.speech).flatMap Prod.snd := by
    rw [List.flatMap_map]
    rfl
  have silence_queued : (List.replicate silent silence).flatMap Prod.snd = [] := by
    simp [silence]
  rw [queued, speeches, List.flatMap_append, silence_queued, List.append_nil, spoken,
    List.flatMap_map]
  exact List.map_eq_flatMap.symm

theorem Follows.queued {frames : List Json} {turns : List Turn} (follows : Follows frames turns) :
    ∃ front, turns.flatMap Turn.queued = front.map .frame ∧ front <+: frames := by
  obtain ⟨front, silent, speeches, cut, -⟩ := follows
  exact ⟨front, queued_of_speeches speeches, cut⟩

namespace Rehearsal

variable {rehearsal : Rehearsal} {root : Path} {frames : List Json} {next : UInt64}

/-- All frames so far have been queued, and a further one is queued under the id `next`
unless the end has come. -/
structure Kept (frames : List Json) (root : Path) (next : UInt64) (rehearsal : Rehearsal) :
    Prop where
  speeches : rehearsal.turns.map Turn.speech = spoken frames
  stands : rehearsal.Stands root none ∨ rehearsal.Stands root (some next)
  only : rehearsal.OnlyReplies

/-- Not all of the frames have been queued, and no more will be. -/
structure Lost (frames : List Json) (root : Path) (rehearsal : Rehearsal) : Prop where
  speeches : ∃ front silent, rehearsal.turns.map Turn.speech =
    spoken front ++ List.replicate (silent + 1) silence ∧ front <+: frames
  stands : rehearsal.Stands root none
  only : rehearsal.OnlyReplies

theorem Lost.mono (lost : Lost frames root rehearsal) {more : List Json}
    (longer : frames <+: more) : Lost more root rehearsal := by
  obtain ⟨⟨front, silent, speeches, cut⟩, stands, only⟩ := lost
  exact ⟨⟨front, silent, speeches, cut.trans longer⟩, stands, only⟩

theorem Kept.follows (kept : Kept frames root next rehearsal) : Follows frames rehearsal.turns :=
  ⟨frames, 0, kept.speeches.trans (List.append_nil _).symm, List.prefix_refl _, fun _ => rfl⟩

theorem Lost.follows (lost : Lost frames root rehearsal) : Follows frames rehearsal.turns := by
  obtain ⟨⟨front, silent, speeches, cut⟩, -, -⟩ := lost
  exact ⟨front, silent + 1, speeches, cut, nofun⟩

section Turns

variable {operation : Operation} {json : Json} {uri languageId : String}

theorem Stands.hushed (stands : rehearsal.Stands root none)
    (later : ∀ context, operation ≠ .handshake context) :
    Adds rehearsal (perform operation rehearsal).2
        ⟨operation, false, [], (perform operation rehearsal).1⟩ ∧
      (perform operation rehearsal).2.Stands root none ∧
      (operation.ends = false → (perform operation rehearsal).1.isOk = false) := by
  obtain ⟨session, stands, rfl, shut⟩ := stands
  obtain ⟨hushed, result, finished, fails⟩ :=
    Session.start_hushed rehearsal.machine shut operation later
  refine ⟨adds_of_hushed stands hushed, ?_, ?_⟩
  · have after := stands_perform stands operation
    rw [hushed.slot, hushed.root, or_self] at after
    exact after
  · rw [perform_eq stands, act_finished finished]
    exact fails

theorem Stands.speaks {id : UInt64} (stands : rehearsal.Stands root (some id))
    (framed : operation.frame? id uri languageId = some json)
    (known : ∀ document, operation.document? = some document →
      Workspace.documentUri? root document = some uri ∧
        (Workspace.documentLanguage root document).id = languageId) :
    Adds rehearsal (perform operation rehearsal).2
        ⟨operation, true, [.frame json], (perform operation rehearsal).1⟩ ∧
      ((perform operation rehearsal).2.Stands root none ∨
        (perform operation rehearsal).2.Stands root
          (some (if operation.asks then id + 1 else id))) ∧
      (operation.asks = false → (perform operation rehearsal).1 = .ok .done) := by
  obtain ⟨session, stands, rfl, free⟩ := stands
  obtain ⟨speaks, finished⟩ :=
    Session.start_speaks rehearsal.machine free operation framed known
  refine ⟨adds_of_speaks stands speaks, ?_, ?_⟩
  · have after := stands_perform stands operation
    rwa [speaks.slot, speaks.root] at after
  · intro tells
    rw [perform_eq stands, act_finished (finished tells)]

/-- A turn goes on with the plan by its frame, or it is the first silent one; then it fails
unless it ends the session. -/
theorem Kept.perform (kept : Kept frames root next rehearsal)
    (framed : operation.frame? next uri languageId = some json)
    (known : ∀ document, operation.document? = some document →
      Workspace.documentUri? root document = some uri ∧
        (Workspace.documentLanguage root document).id = languageId) :
    (Kept (frames ++ [json]) root (if operation.asks then next + 1 else next)
        (perform operation rehearsal).2 ∧
      (operation.asks = false → (perform operation rehearsal).1 = .ok .done)) ∨
    (Lost frames root (perform operation rehearsal).2 ∧
      (operation.ends = false → (perform operation rehearsal).1.isOk = false)) := by
  have later : ∀ context, operation ≠ .handshake context := by
    rintro context rfl
    cases framed
  -- Frames may be taken no longer although none has been lost yet.
  rcases kept.stands with shut | free
  · right
    obtain ⟨adds, stands, fails⟩ := shut.hushed later
    refine ⟨⟨⟨frames, 0, ?_, List.prefix_refl _⟩, stands, adds.onlyReplies kept.only⟩, fails⟩
    rw [adds.turns, List.map_append, kept.speeches]
    rfl
  · left
    obtain ⟨adds, stands, succeeds⟩ := free.speaks framed known
    refine ⟨⟨?_, stands, adds.onlyReplies kept.only⟩, succeeds⟩
    rw [adds.turns, List.map_append, kept.speeches, spoken_append]
    rfl

theorem Lost.perform (lost : Lost frames root rehearsal)
    (later : ∀ context, operation ≠ .handshake context) :
    Lost frames root (perform operation rehearsal).2 ∧
      (operation.ends = false → (perform operation rehearsal).1.isOk = false) := by
  obtain ⟨⟨front, silent, speeches, cut⟩, shut, only⟩ := lost
  obtain ⟨adds, stands, fails⟩ := shut.hushed later
  refine ⟨⟨⟨front, silent + 1, ?_, cut⟩, stands, adds.onlyReplies only⟩, fails⟩
  rw [adds.turns, List.map_append, speeches, List.append_assoc]
  exact congrArg (spoken front ++ ·) List.replicate_succ'.symm

end Turns

end Rehearsal

end WorkspaceServers.CommandLine
