import WorkspaceServers.Proofs.Rpc.Members
import WorkspaceServers.Proofs.Session.Lifecycle
import WorkspaceServers.Proofs.Session.Speaking
import WorkspaceServers.Proofs.Workspace.Document
import WorkspaceServers.Session.Journal

/-!
What the operations of a launched session utter. Every one of them adds its one frame, under
the next id if it is a request, as long as frames are taken, and nothing when it fails.
-/

namespace WorkspaceServers.Session

def uriOf? (json : Json) : Option Json :=
  ((json.field? "params").bind (Json.field? "textDocument")).bind (Json.field? "uri")

def ids (commands : List Transport.Command) : List Json :=
  commands.filterMap fun
    | .frame json => json.field? "id"
    | .close => none

theorem ids_append (first second : List Transport.Command) :
    ids (first ++ second) = ids first ++ ids second :=
  List.filterMap_append

theorem ids_frame (json : Json) : ids [.frame json] = (json.field? "id").toList := by
  cases given : json.field? "id" <;> simp [ids, given]

def IsGreeting (command : Transport.Command) : Prop :=
  ∃ json, command = .frame json ∧ json.field? "method" = some (.str "initialize")

def Operation.IsLater (operation : Operation) : Prop := ∀ context, operation ≠ .handshake context

variable {session : Session} {root : Path} {count : Nat} {operation : Operation}

section Frames

variable {id : UInt64} {uri languageId : String} {json : Json}

theorem exists_frame (later : operation.IsLater) (id : UInt64) (uri languageId : String) :
    ∃ json, operation.frame? id uri languageId = some json := by
  cases operation with
  | handshake context => exact absurd rfl (later context)
  | confirm | openDocument _ _ | symbols _ | hover _ _ _ | definition _ _ _ | shutdown | exit =>
    exact ⟨_, rfl⟩

theorem method_of_frame (framed : operation.frame? id uri languageId = some json) :
    ¬ IsGreeting (.frame json) := by
  rintro ⟨_, ⟨⟩, method⟩
  cases operation with
  | handshake context => cases framed
  | confirm | openDocument _ _ | exit =>
    cases framed
    simp [Rpc.field?_notification] at method
  | symbols _ | hover _ _ _ | definition _ _ _ | shutdown =>
    cases framed
    simp [Rpc.field?_request] at method

theorem id_of_frame (framed : operation.frame? id uri languageId = some json) :
    json.field? "id" = if operation.asks then some (.ofUInt64 id) else none := by
  cases operation with
  | handshake context => cases framed
  | confirm | openDocument _ _ | exit =>
    cases framed
    simp [Rpc.field?_notification, Operation.asks]
  | symbols _ | hover _ _ _ | definition _ _ _ | shutdown =>
    cases framed
    simp [Rpc.field?_request, Operation.asks]

theorem uri_of_frame (framed : operation.frame? id uri languageId = some json) {document : String}
    (named : operation.document? = some document) : uriOf? json = some (.str uri) := by
  cases operation with
  | handshake _ | confirm | shutdown | exit => cases named
  | openDocument _ _ =>
    cases framed
    simp [uriOf?, Rpc.field?_notification, Rpc.openParams, Json.field?_object, Keyed.find?]
  | symbols _ =>
    cases framed
    simp [uriOf?, Rpc.field?_request, Rpc.documentParams, Json.field?_object, Keyed.find?]
  | hover _ _ _ | definition _ _ _ =>
    cases framed
    simp [uriOf?, Rpc.field?_request, Rpc.positionParams, Json.field?_object, Keyed.find?]

end Frames

namespace Entry

variable {machine : Launch.Machine} {entry : Entry} {more : List Transport.Command}

/-- What one operation has to do with the frames of the session. -/
structure Orderly (machine : Launch.Machine) (root : Path) (entry : Entry) : Prop where
  in_place : (entry.started machine).session.queue = entry.before.queue ++ entry.queued machine
  heard : ∀ id, entry.before.slot? = some id → entry.operation.IsLater →
    ∃ uri languageId json, entry.queued machine = [.frame json] ∧
      entry.operation.frame? id uri languageId = some json ∧
      json.field? "id" = if entry.operation.asks then some (.ofUInt64 id) else none
  unheard : entry.before.slot? = none → entry.operation.IsLater → entry.queued machine = []
  failed : ∀ failure, (entry.started machine).progress = .finished (.error failure) →
    entry.queued machine = []
  repeated : entry.before.stage ≠ .uninitialized →
    ∀ context, entry.operation = .handshake context → entry.queued machine = []
  about : ∀ document json, entry.operation.document? = some document →
    .frame json ∈ entry.queued machine →
      ∃ uri, Workspace.documentUri? root document = some uri ∧ uriOf? json = some (.str uri)

theorem queued_eq (added : (entry.started machine).session.queue = entry.before.queue ++ more) :
    entry.queued machine = more := by
  rw [queued, added, List.drop_left]

theorem queued_same (same : (entry.started machine).session.queue = entry.before.queue) :
    entry.queued machine = [] :=
  queued_eq (by rw [same, List.append_nil])

theorem orderly_of_same (same : (entry.started machine).session.queue = entry.before.queue)
    (deaf : entry.before.slot? = none ∨ ∃ context, entry.operation = .handshake context) :
    entry.Orderly machine root := by
  have nothing := queued_same same
  refine ⟨by rw [nothing, same, List.append_nil], ?_, fun _ _ => nothing, fun _ _ => nothing,
    fun _ _ _ => nothing, ?_⟩
  · intro id slot later
    rcases deaf with shut | ⟨context, handshake⟩
    · rw [shut] at slot
      cases slot
    · exact absurd handshake (later context)
  · intro document json _ added
    rw [nothing] at added
    cases added

end Entry

section Launched

variable (machine : Launch.Machine)

/-- The server has been launched, and the next request takes the number behind `count`. -/
structure Launched (root : Path) (count : Nat) (session : Session) : Prop where
  rooted : session.root = root
  absolute : root.isAbsolute = true
  begun : session.stage ≠ .uninitialized
  next : ∀ id, session.slot? = some id → id = UInt64.ofNat (count + 1)

theorem begun_turn (begun : session.stage ≠ .uninitialized) (turn : Turn) :
    (session.turn machine turn).stage ≠ .uninitialized := by
  cases turn with
  | event event =>
    have forward := (continues_step machine session event).forward
    intro fresh
    have first : (session.step machine event).1.stage = .uninitialized := fresh
    -- No stage comes before the first one.
    rw [first] at forward
    exact begun (Stage.rank_inj (Nat.le_antisymm forward (Nat.zero_le _)))
  | shutSink =>
    simp only [turn, withTransport]
    cases session.server? with
    | none => exact begun
    | some server =>
      have kept := Lifecycle.stage_onServer (fun _ => { server with
        transport := server.transport.shutSink }) session.lifecycle
      exact fun fresh => begun (kept.symm.trans fresh)

theorem fades_turn (session : Session) {turn : Turn} (still : turn.operation? = none) :
    Fades session (session.turn machine turn) := by
  cases turn with
  | event event =>
    cases event with
    | start operation => cases still
    | incident incident =>
      exact fades_withTransport (fun transport => transport.slot?_suffer incident) session
    | processEnded => exact fades_processEnded session
  | shutSink => exact fades_withTransport (fun _ => .inl rfl) session

theorem Launched.turn (launched : Launched root count session) {turn : Turn}
    (still : turn.operation? = none) : Launched root count (session.turn machine turn) := by
  have fades := fades_turn machine session still
  refine ⟨fades.root.trans launched.rooted, launched.absolute,
    begun_turn machine launched.begun turn, ?_⟩
  intro id slot
  rcases fades.slot with kept | lost
  · exact launched.next id (kept ▸ slot)
  · rw [lost] at slot
    cases slot

theorem greet_of_begun (begun : session.stage ≠ .uninitialized) (context : Launch.Context) :
    ∃ result, session.greet machine context = session.finished result := by
  unfold greet
  cases stands : session.lifecycle with
  | uninitialized =>
    rw [stage, stands] at begun
    exact absurd rfl begun
  | initialized _ | shuttingDown _ | exited _ => exact ⟨_, rfl⟩

theorem exists_uri (absolute : root.isAbsolute = true) (operation : Operation) :
    ∃ uri languageId, ∀ document, operation.document? = some document →
      Workspace.documentUri? root document = some uri ∧
        (Workspace.documentLanguage root document).id = languageId := by
  cases named : operation.document? with
  | none => exact ⟨"", "", nofun⟩
  | some document =>
    obtain ⟨uri, found⟩ := Workspace.exists_documentUri absolute document
    refine ⟨uri, (Workspace.documentLanguage root document).id, fun other same => ?_⟩
    cases same
    exact ⟨found, rfl⟩

theorem start_waits {id : UInt64} {uri : String} (slot : session.slot? = some id)
    (later : operation.IsLater) (asks : operation.asks = true)
    (known : ∀ document, operation.document? = some document →
      Workspace.documentUri? session.root document = some uri) :
    ∃ question, (session.start machine operation).progress = .waiting id question := by
  obtain ⟨server, running, free⟩ := running_of_slot slot
  cases operation with
  | handshake context => exact absurd rfl (later context)
  | confirm | openDocument _ _ | exit => cases asks
  | symbols document | hover document _ _ | definition document _ _ =>
    rw [start, withServer_of_running running (documentUri_ok (known document rfl))]
    exact ⟨_, (ask_speaks running free _ _).2⟩
  | shutdown =>
    rw [start, beginShutdown_of_running running]
    exact ⟨_, (ask_speaks (running_shuttingDown session server) free .shutdown none).2⟩

end Launched

section Utterances

variable {machine : Launch.Machine}

def numbered (first asked : Nat) : List Json :=
  (List.range' first asked).map fun number => .ofUInt64 (.ofNat number)

theorem numbered_append (first asked asked' : Nat) :
    numbered first (asked + asked') = numbered first asked ++ numbered (first + asked) asked' := by
  rw [numbered, numbered, numbered, ← List.map_append, List.range'_append_1]

/-- What the operations of a launched session utter: requests under the `asked` numbers behind
`count`, and no second greeting. -/
structure Utters (machine : Launch.Machine) (root : Path) (count asked : Nat)
    (entries : List Entry) : Prop where
  orderly : ∀ entry ∈ entries, entry.Orderly machine root
  ids : ids (spoken machine entries) = numbered (count + 1) asked
  later : ∀ command ∈ spoken machine entries, ¬ IsGreeting command

theorem spoken_append (first second : List Entry) :
    spoken machine (first ++ second) = spoken machine first ++ spoken machine second :=
  List.flatMap_append

theorem spoken_one {more : List Transport.Command}
    (added : (session.start machine operation).session.queue = session.queue ++ more) :
    spoken machine [⟨session, operation⟩] = more := by
  rw [spoken, List.flatMap_singleton]
  exact Entry.queued_eq added

theorem utters_nil : Utters machine root count 0 [] :=
  ⟨List.forall_mem_nil _, rfl, List.forall_mem_nil _⟩

theorem Utters.append {asked asked' : Nat} {first second : List Entry}
    (utters : Utters machine root count asked first)
    (utters' : Utters machine root (count + asked) asked' second) :
    Utters machine root count (asked + asked') (first ++ second) where
  orderly entry member := (List.mem_append.mp member).elim (utters.orderly entry)
    (utters'.orderly entry)
  ids := by
    rw [spoken_append, ids_append, utters.ids, utters'.ids, numbered_append, Nat.add_right_comm]
  later command member := by
    rw [spoken_append] at member
    exact (List.mem_append.mp member).elim (utters.later command) (utters'.later command)

theorem utters_of_same (same : (session.start machine operation).session.queue = session.queue)
    (deaf : session.slot? = none ∨ ∃ context, operation = .handshake context) :
    Utters machine root count 0 [⟨session, operation⟩] := by
  have nothing : spoken machine [⟨session, operation⟩] = [] :=
    spoken_one (by rw [same, List.append_nil])
  refine ⟨List.forall_mem_singleton.mpr (Entry.orderly_of_same same deaf), ?_, ?_⟩
  · rw [nothing]
    rfl
  · rw [nothing]
    exact nofun

theorem turn_operation {turn : Turn} (operates : turn.operation? = some operation) :
    session.turn machine turn = (session.start machine operation).session := by
  cases turn with
  | event event =>
    cases event with
    | start other =>
      cases operates
      rfl
    | incident _ | processEnded => cases operates
  | shutSink => cases operates

theorem orderly_of_speaks (machine : Launch.Machine) {id : UInt64} {uri languageId : String}
    {json : Json} (slot : session.slot? = some id) (later : operation.IsLater)
    (framed : operation.frame? id uri languageId = some json)
    (known : ∀ document, operation.document? = some document →
      Workspace.documentUri? session.root document = some uri ∧
        (Workspace.documentLanguage session.root document).id = languageId) :
    Entry.Orderly machine session.root ⟨session, operation⟩ := by
  obtain ⟨speaks, done⟩ := start_speaks machine slot operation framed known
  have queued : Entry.queued machine ⟨session, operation⟩ = [.frame json] :=
    Entry.queued_eq speaks.queue
  refine ⟨queued ▸ speaks.queue, ?_, ?_, ?_, ?_, ?_⟩
  · intro other free _
    cases slot.symm.trans free
    exact ⟨uri, languageId, json, queued, framed, id_of_frame framed⟩
  · intro shut
    cases slot.symm.trans shut
  · -- An operation that has been heard is done or waits, so it has not failed.
    intro failure failed
    rw [Entry.started] at failed
    cases asks : operation.asks with
    | false => cases (done asks).symm.trans failed
    | true =>
      obtain ⟨question, waits⟩ := start_waits machine slot later asks
        fun document named => (known document named).1
      cases waits.symm.trans failed
  · intro _ context handshake
    exact absurd handshake (later context)
  · intro document other named added
    rw [queued, List.mem_singleton, Transport.Command.frame.injEq] at added
    subst added
    exact ⟨uri, (known document named).1, uri_of_frame framed named⟩

theorem Launched.start_heard (launched : Launched root count session) {id : UInt64}
    (slot : session.slot? = some id) (later : operation.IsLater) :
    ∃ asked, Utters machine root count asked [⟨session, operation⟩] ∧
      Launched root (count + asked) (session.start machine operation).session := by
  obtain ⟨rooted, absolute, begun, next⟩ := launched
  subst rooted
  obtain ⟨uri, languageId, known⟩ := exists_uri absolute operation
  obtain ⟨json, framed⟩ := exists_frame later id uri languageId
  obtain ⟨speaks, -⟩ := start_speaks machine slot operation framed known
  have said := spoken_one speaks.queue
  have orderly := List.forall_mem_singleton.mpr
    (orderly_of_speaks machine slot later framed known)
  have unlike : ∀ command ∈ spoken machine [⟨session, operation⟩], ¬ IsGreeting command := by
    rw [said]
    exact List.forall_mem_singleton.mpr (method_of_frame framed)
  have begun' := begun_turn machine begun (.event (.start operation))
  have given := id_of_frame framed
  have number := next id slot
  -- Only a request takes a number, and then the next one is free.
  cases asks : operation.asks with
  | true =>
    rw [asks, if_pos rfl] at given
    refine ⟨1, ⟨orderly, ?_, unlike⟩, speaks.root, absolute, begun', fun other free => ?_⟩
    · rw [said, ids_frame, given, number]
      rfl
    · rw [speaks.slot, asks] at free
      cases free
      rw [number, UInt64.ofNat_add (count + 1) 1]
      rfl
  | false =>
    rw [asks, if_neg Bool.false_ne_true] at given
    refine ⟨0, ⟨orderly, ?_, unlike⟩, speaks.root, absolute, begun', fun other free => ?_⟩
    · rw [said, ids_frame, given]
      rfl
    · rw [speaks.slot, asks] at free
      cases free
      exact number

theorem Launched.start (machine : Launch.Machine) (launched : Launched root count session)
    (operation : Operation) :
    ∃ asked, Utters machine root count asked [⟨session, operation⟩] ∧
      Launched root (count + asked) (session.start machine operation).session := by
  have begun : (session.start machine operation).session.stage ≠ .uninitialized :=
    begun_turn machine launched.begun (.event (.start operation))
  -- A repeated greeting says nothing, and neither does anything once no frames are taken.
  by_cases handshake : ∃ context, operation = .handshake context
  · obtain ⟨context, rfl⟩ := handshake
    obtain ⟨result, greeted⟩ := greet_of_begun machine launched.begun context
    have same : (session.start machine (.handshake context)).session = session := by
      rw [Session.start, greeted]
      rfl
    refine ⟨0, utters_of_same (by rw [same]) (.inr ⟨context, rfl⟩), ?_⟩
    rw [same]
    exact launched
  · have later : operation.IsLater := not_exists.mp handshake
    cases slot : session.slot? with
    | some id => exact launched.start_heard slot later
    | none =>
      have hushed := (start_hushed machine slot operation later).1
      refine ⟨0, utters_of_same hushed.queue (.inl slot), ?_⟩
      refine ⟨hushed.root.trans launched.rooted, launched.absolute, begun, fun id free => ?_⟩
      rw [hushed.slot] at free
      cases free

theorem Launched.run (launched : Launched root count session) (turns : List Turn) :
    ∃ asked, Utters machine root count asked (journal machine session turns) := by
  -- The numbers go on where the turn before has left them.
  induction turns generalizing count session with
  | nil => exact ⟨0, utters_nil⟩
  | cons turn rest ih =>
    cases operates : turn.operation? with
    | none =>
      obtain ⟨asked, utters⟩ := ih (launched.turn machine operates)
      refine ⟨asked, ?_⟩
      rw [journal, operates]
      exact utters
    | some operation =>
      obtain ⟨asked, here, next⟩ := launched.start machine operation
      rw [← turn_operation operates] at next
      obtain ⟨asked', there⟩ := ih next
      refine ⟨asked + asked', ?_⟩
      rw [journal, operates]
      exact here.append there

end Utterances

end WorkspaceServers.Session
