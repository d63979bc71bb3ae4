import WorkspaceServers.Proofs.Registry.Runs
import WorkspaceServers.Proofs.Registry.Trails
import WorkspaceServers.Proofs.Session.Waiting

/-!
The sweep over all sessions. As long as every request that it waits for stops waiting at some
time, it comes to its end, and then the registry is empty and every session that was in it is
stopped, whatever became of the others and whichever came first.
-/

namespace WorkspaceServers.Registry

variable {machine : Launch.Machine} {registry : Registry} {numbers : List Nat}

def HasWaiting (registry : Registry) (awaited : Awaited) : Prop :=
  ∃ session, registry.session? awaited.number = some session ∧ session.Waits awaited.id

namespace Sweep

variable {sweep : Sweep}

section Waiting

def Attended (sweep : Sweep) : Prop :=
  ∀ awaited, sweep.awaited = some awaited → sweep.registry.HasWaiting awaited

theorem attended_ofNumbers (numbers : List Nat) (registry : Registry) :
    (ofNumbers numbers registry).Attended := by
  intro awaited waits
  cases waits

theorem hasWaiting_begin {number : Nat} {operation : Session.Operation} {id : UInt64}
    {question : Session.Question}
    (waits : (registry.begin machine number operation).2 = .waiting id question) :
    (registry.begin machine number operation).1.HasWaiting ⟨number, id, question⟩ := by
  cases found : registry.session? number with
  | none =>
    rw [begin, found] at waits
    cases waits
  | some session =>
    rw [begin, found] at waits
    refine ⟨session.turn machine (.event (.start operation)), ?_, ?_⟩
    · rw [session?_begin, found]
      simp
    · exact Session.truthful_start machine session operation id question waits

theorem attended_proceed (attended : sweep.Attended) : (sweep.proceed machine).Attended := by
  obtain ⟨registry, plan, awaited⟩ := sweep
  cases awaited with
  | some awaited => exact attended
  | none =>
    cases plan with
    | nil => exact attended
    | cons first rest =>
      obtain ⟨number, operation⟩ := first
      intro awaited waits
      cases progress : (registry.begin machine number operation).2 with
      | finished result => simp [proceed, progress, Awaited.ofProgress?] at waits
      | waiting id question =>
        have same : ⟨number, id, question⟩ = awaited := by
          simpa [proceed, progress, Awaited.ofProgress?] using waits
        subst same
        exact hasWaiting_begin progress

theorem isMet_of_mem {awaited : Awaited} {resolved : List Transport.Resolution}
    {outcome : Except Failure Json} (member : ⟨awaited.id, outcome⟩ ∈ resolved) :
    awaited.isMet awaited.number resolved = true := by
  simp only [Awaited.isMet, decide_true, Bool.true_and, List.any_eq_true, decide_eq_true_eq]
  exact ⟨_, member, rfl⟩

theorem awaited_happen {number : Nat} {turn : Session.Turn} {awaited : Awaited}
    (waits : (sweep.happen machine number turn).awaited = some awaited) :
    sweep.awaited = some awaited ∧ ∀ session, sweep.registry.session? number = some session →
      awaited.isMet number (session.resolvedBy machine turn) = false := by
  unfold happen at waits
  cases found : sweep.registry.session? number with
  | none =>
    simp only [found] at waits
    refine ⟨waits, ?_⟩
    intro session stands
    cases stands
  | some session =>
    simp only [found, Option.filter_eq_some_iff, Bool.not_eq_true'] at waits
    refine ⟨waits.1, ?_⟩
    rintro _ ⟨⟩
    exact waits.2

theorem attended_happen {number : Nat} {turn : Session.Turn} (attended : sweep.Attended)
    (unprompted : turn.isUnprompted = true) : (sweep.happen machine number turn).Attended := by
  intro awaited waits
  obtain ⟨waited, unmet⟩ := awaited_happen waits
  obtain ⟨session, found, waiting⟩ := attended awaited waited
  unfold HasWaiting
  rw [session?_happen, found]
  -- What happens to another session leaves the request where it is.
  by_cases own : number = awaited.number
  · subst own
    rcases Session.waits_turn machine unprompted waiting with kept | ⟨outcome, member⟩
    · exact ⟨session.turn machine turn, by simp, kept⟩
    · have met := isMet_of_mem member
      rw [unmet session found] at met
      cases met
  · exact ⟨session, by simp [own], waiting⟩

theorem attended_run (attended : sweep.Attended) (events : List Event) :
    (sweep.run machine events).Attended := by
  induction events generalizing sweep with
  | nil => exact attended
  | cons event rest ih =>
    apply ih
    cases event with
    | proceed => exact attended_proceed attended
    | happens number turn unprompted => exact attended_happen attended unprompted

end Waiting

section Progress

/-- What a sweep still has before it. An operation weighs more than the wait it may lead to. -/
def todo (sweep : Sweep) : Nat := 2 * sweep.plan.length + sweep.awaited.toList.length

def Holds (before after : Sweep) : Prop :=
  (after.plan = before.plan ∧ after.awaited = before.awaited) ∨ after.todo < before.todo

theorem todo_proceed (machine : Launch.Machine) (idle : sweep.awaited = none)
    (left : sweep.plan ≠ []) :
    (sweep.proceed machine).todo < sweep.todo := by
  obtain ⟨registry, plan, awaited⟩ := sweep
  cases idle
  cases plan with
  | nil => exact absurd rfl left
  | cons first rest =>
    obtain ⟨number, operation⟩ := first
    have few : ((Awaited.ofProgress? number
        (registry.begin machine number operation).2).toList).length ≤ 1 :=
      Option.length_toList_le
    simp only [todo, proceed, List.length_cons, Option.toList_none, List.length_nil]
    omega

theorem holds_proceed (machine : Launch.Machine) (sweep : Sweep) :
    Holds sweep (sweep.proceed machine) := by
  cases awaited : sweep.awaited with
  | some request =>
    left
    simp [proceed, awaited]
  | none =>
    by_cases done : sweep.plan = []
    · left
      simp [proceed, awaited, done]
    · exact .inr (todo_proceed machine awaited done)

theorem holds_happen (machine : Launch.Machine) (number : Nat) (turn : Session.Turn)
    (sweep : Sweep) : Holds sweep (sweep.happen machine number turn) := by
  unfold happen
  cases sweep.registry.session? number with
  | none => exact .inl ⟨rfl, rfl⟩
  | some session =>
    unfold Holds todo
    cases awaited : sweep.awaited with
    | none => exact .inl ⟨rfl, rfl⟩
    | some request =>
      cases met : request.isMet number (session.resolvedBy machine turn) with
      | true => simp [met]
      | false => simp [met]

theorem holds_step (machine : Launch.Machine) (sweep : Sweep) (event : Event) :
    Holds sweep (sweep.step machine event) := by
  cases event with
  | proceed => exact holds_proceed machine sweep
  | happens number turn unprompted => exact holds_happen machine number turn sweep

theorem Holds.trans {before between after : Sweep} (first : Holds before between)
    (second : Holds between after) : Holds before after := by
  rcases first with ⟨plan, awaited⟩ | less
  · unfold Holds todo at second ⊢
    rwa [plan, awaited] at second
  · right
    rcases second with ⟨plan', awaited'⟩ | less'
    · unfold todo at less ⊢
      rwa [plan', awaited']
    · exact Nat.lt_trans less' less

def reach (machine : Launch.Machine) (sweep : Sweep) (course : Nat → Event) (time : Nat) : Sweep :=
  sweep.run machine ((List.range time).map course)

/-- The caller gets its turn again and again, and every request that is waited for is answered
or refused, runs out of time or is cut off: at some time it waits no longer. -/
structure Fair (machine : Launch.Machine) (sweep : Sweep) (course : Nat → Event) : Prop where
  proceeds : ∀ time, ∃ later, time ≤ later ∧ course later = .proceed
  ends : ∀ time awaited, (sweep.reach machine course time).awaited = some awaited →
    ∃ later, time ≤ later ∧ ¬ (sweep.reach machine course later).registry.HasWaiting awaited

variable {course : Nat → Event}

theorem reach_succ (machine : Launch.Machine) (sweep : Sweep) (course : Nat → Event)
    (time : Nat) :
    sweep.reach machine course (time + 1) =
      (sweep.reach machine course time).step machine (course time) := by
  unfold reach run
  rw [List.range_succ, List.map_append, List.foldl_append]
  rfl

theorem holds_reach (machine : Launch.Machine) (sweep : Sweep) (course : Nat → Event)
    {time later : Nat} (behind : time ≤ later) :
    Holds (sweep.reach machine course time) (sweep.reach machine course later) := by
  induction behind with
  | refl => exact .inl ⟨rfl, rfl⟩
  | step _ ih =>
    rw [reach_succ]
    exact ih.trans (holds_step machine _ _)

/-- The caller proceeds, and by turns the streams of all sessions are closed. -/
def closing (count time : Nat) : Event :=
  if time % 2 = 0 then .proceed else .happens (time / 2 % count) (.event (.incident .close)) rfl

theorem closing_of_lt {number count : Nat} (known : number < count) (time : Nat) :
    closing count (2 * (number + time * count) + 1) =
      .happens number (.event (.incident .close)) rfl := by
  have half : (2 * (number + time * count) + 1) / 2 = number + time * count := by omega
  have whose : (2 * (number + time * count) + 1) / 2 % count = number := by
    rw [half, Nat.add_mul_mod_self_right, Nat.mod_eq_of_lt known]
  unfold closing
  rw [if_neg (by omega)]
  simp only [whose]

theorem fair_closing (machine : Launch.Machine) (attended : sweep.Attended) :
    Fair machine sweep (closing sweep.registry.sessions.length) := by
  constructor
  · intro time
    exact ⟨2 * time, by omega, if_pos (by omega)⟩
  · intro time awaited waits
    obtain ⟨session, found, -⟩ := attended_run attended _ awaited waits
    obtain ⟨first, stood, -⟩ := Option.map_eq_some_iff.mp ((session?_run ..).symm.trans found)
    have known : awaited.number < sweep.registry.sessions.length :=
      (List.getElem?_eq_some_iff.mp stood).1
    generalize sweep.registry.sessions.length = count at known ⊢
    have far : time ≤ time * count := Nat.le_mul_of_pos_right time (by omega)
    refine ⟨2 * (awaited.number + time * count) + 1 + 1, by omega, ?_⟩
    -- Right behind the close of its session the request waits no longer.
    rintro ⟨later, stands, waiting⟩
    rw [reach_succ, closing_of_lt known] at stands
    obtain ⟨before, -, same⟩ :=
      Option.map_eq_some_iff.mp ((session?_happen _ _ _).symm.trans stands)
    rw [if_pos rfl] at same
    subst same
    exact Session.not_waits_close machine before awaited.id waiting

theorem exists_less (attended : sweep.Attended) (fair : Fair machine sweep course) {time : Nat}
    (unfinished : ¬ (sweep.reach machine course time).Returned) :
    ∃ later, (sweep.reach machine course later).todo < (sweep.reach machine course time).todo := by
  cases awaited : (sweep.reach machine course time).awaited with
  | some request =>
    obtain ⟨later, behind, gone⟩ := fair.ends time request awaited
    rcases holds_reach machine sweep course behind with ⟨-, same⟩ | less
    · -- Whoever is waited for still waits, so the wait is over.
      exact absurd (attended_run attended _ request (same.trans awaited)) gone
    · exact ⟨later, less⟩
  | none =>
    -- Nobody is waited for, so the next turn of the caller starts an operation.
    obtain ⟨later, behind, turn⟩ := fair.proceeds time
    rcases holds_reach machine sweep course behind with ⟨plan, same⟩ | less
    · refine ⟨later + 1, ?_⟩
      have left : (sweep.reach machine course later).plan ≠ [] := by
        rw [plan]
        exact fun done => unfinished ⟨done, awaited⟩
      have less := todo_proceed machine (same.trans awaited) left
      rw [reach_succ, turn]
      unfold todo at less ⊢
      rwa [plan, same] at less
    · exact ⟨later, less⟩

theorem exists_returned (attended : sweep.Attended) (fair : Fair machine sweep course) :
    ∃ time, (sweep.reach machine course time).Returned := by
  suffices ∀ size time, (sweep.reach machine course time).todo = size →
      ∃ later, (sweep.reach machine course later).Returned from this _ 0 rfl
  intro size
  -- What is left to do grows less as long as the sweep has not returned.
  induction size using Nat.strongRecOn with
  | _ size ih =>
    intro time same
    by_cases finished : (sweep.reach machine course time).Returned
    · exact ⟨time, finished⟩
    · obtain ⟨later, less⟩ := exists_less attended fair finished
      exact ih _ (same ▸ less) later rfl

end Progress

theorem entries_begin (machine : Launch.Machine) (number : Nat) (operation : Session.Operation)
    (registry : Registry) :
    (registry.begin machine number operation).1.entries = registry.entries := by
  unfold begin
  split <;> rfl

theorem entries_step (sweep : Sweep) (event : Event) :
    (sweep.step machine event).registry.entries = sweep.registry.entries := by
  cases event with
  | happens number turn unprompted =>
    show (sweep.happen machine number turn).registry.entries = _
    unfold happen
    split <;> rfl
  | proceed =>
    show (sweep.proceed machine).registry.entries = _
    unfold proceed
    split
    · exact entries_begin machine _ _ sweep.registry
    · rfl
    · rfl

theorem entries_run (sweep : Sweep) (events : List Event) :
    (sweep.run machine events).registry.entries = sweep.registry.entries := by
  induction events generalizing sweep with
  | nil => rfl
  | cons event rest ih => exact (ih _).trans (entries_step sweep event)

end Sweep

section Stored

theorem mem_iff_lookup {entries : List (Workspace.Key × Nat)}
    (single : (entries.map Prod.fst).Nodup) {key : Workspace.Key} {number : Nat} :
    (key, number) ∈ entries ↔ entries.lookup key = some number := by
  induction entries with
  | nil => simp
  | cons entry rest ih =>
    obtain ⟨new, single'⟩ := List.nodup_cons.mp single
    rw [lookup_cons_ite, List.mem_cons]
    split
    · rename_i same
      subst same
      constructor
      · rintro (here | there)
        · rw [← here]
        · exact absurd (List.mem_map_of_mem there) new
      · intro found
        left
        rw [← Option.some.inj found]
    · rename_i other
      rw [← ih single']
      constructor
      · intro member
        apply member.resolve_left
        rintro rfl
        exact other rfl
      · exact .inr

theorem Sound.mem_entries_iff (sound : Sound registry) {key : Workspace.Key} {number : Nat} :
    (key, number) ∈ registry.entries ↔ registry.find? key = some number :=
  mem_iff_lookup sound.single

theorem Sound.nodup_numbers (sound : Sound registry) :
    (registry.entries.map Prod.snd).Nodup := by
  refine List.pairwise_map.mpr (List.Pairwise.imp_of_mem ?_ (List.pairwise_map.mp sound.single))
  intro first second member member' apart same
  have stored := sound.mem_entries_iff.mp member
  have stored' := sound.mem_entries_iff.mp member'
  rw [← same] at stored'
  exact apart (sound.key_unique stored stored')

end Stored

section Main

/-- What a sweep has come to that is done, with what happened in its course. -/
structure Cleared (machine : Launch.Machine) (registry : Registry) (events : List Sweep.Event)
    (after : Registry) : Prop where
  empty : after.size = 0
  unfound : ∀ key, after.find? key = none
  /-- What became of the others makes no difference to a session that was in the registry. -/
  stored : ∀ key number, registry.find? key = some number →
    ∃ found before between behind left, registry.session? number = some found ∧
      after.session? number = some left ∧
      Sweep.happenings number events = before ++ (between ++ behind) ∧
      Session.Stopped machine found before between behind left
  unstored : ∀ number, (∀ key, registry.find? key ≠ some number) →
    after.session? number = (registry.session? number).map
      (·.turns machine (Sweep.happenings number events))

structure StopsAll (machine : Launch.Machine) (registry : Registry) (numbers : List Nat) :
    Prop where
  cleared : ∀ events, ((Sweep.ofNumbers numbers registry).run machine events).Returned →
    Cleared machine registry events
      ((Sweep.ofNumbers numbers registry).run machine events).registry
  returns : ∀ course, Sweep.Fair machine (.ofNumbers numbers registry) course →
    ∃ time, ((Sweep.ofNumbers numbers registry).reach machine course time).Returned
  /-- One such course is that all streams are closed. -/
  fair : ∃ course, Sweep.Fair machine (.ofNumbers numbers registry) course
  /-- In whichever order the sessions are visited and whatever becomes of the others, a session
  comes out the same from the same turns of its own. -/
  apart : ∀ numbers' events events' number,
    (Sweep.ofNumbers numbers registry).trail machine number events =
        (Sweep.ofNumbers numbers' registry).trail machine number events' →
      ((Sweep.ofNumbers numbers registry).run machine events).registry.session? number =
        ((Sweep.ofNumbers numbers' registry).run machine events').registry.session? number

theorem sweep_stops_all (machine : Launch.Machine) (sound : Sound registry)
    (visits : numbers.Perm (registry.entries.map Prod.snd)) :
    StopsAll machine registry numbers := by
  have distinct : numbers.Nodup := visits.nodup_iff.mpr sound.nodup_numbers
  have visited : ∀ number, number ∈ numbers ↔ ∃ key, registry.find? key = some number := by
    intro number
    simp only [visits.mem_iff, List.mem_map, Prod.exists, exists_eq_right,
      sound.mem_entries_iff]
  constructor
  · intro events returned
    have entries : ((Sweep.ofNumbers numbers registry).run machine events).registry.entries = [] :=
      Sweep.entries_run _ events
    constructor
    · rw [size, entries]
      rfl
    · intro key
      rw [find?, entries]
      rfl
    · intro key number stored
      have below := sound.number_lt stored
      have found : registry.session? number = some registry.sessions[number] :=
        List.getElem?_eq_getElem below
      obtain ⟨before, between, behind, left, happened, came, stopped⟩ :=
        Sweep.stopped_of_returned distinct ((visited number).mpr ⟨key, stored⟩) found returned
      exact ⟨_, before, between, behind, left, found, came, happened, stopped⟩
    · intro number unstored
      apply Sweep.session?_of_unvisited distinct
      intro member
      obtain ⟨key, stored⟩ := (visited number).mp member
      exact unstored key stored
  · intro course fair
    exact Sweep.exists_returned (Sweep.attended_ofNumbers numbers registry) fair
  · exact ⟨_, Sweep.fair_closing machine (Sweep.attended_ofNumbers numbers registry)⟩
  · intro numbers' events events' number same
    rw [Sweep.session?_run, Sweep.session?_run, same]
    rfl

end Main

section Sample

def sampleMachine : Launch.Machine := ⟨7, fun _ => some (.ofString "/bin/lsp"), fun _ => true⟩

def sampleCalls : List Event :=
  [.getOrCreate ⟨"default", "host", "one"⟩, .getOrCreate ⟨"default", "host", "two"⟩,
    .session 0 (.start (.handshake (.ofList
      [("serverPath", "lsp"), ("SDKPath", "sdk"), ("target", "x86")])))]

def sampleRegistry : Registry :=
  ((create ⟨Path.ofString "/srv", "app", rfl⟩ .default).run sampleMachine sampleCalls).1

/-- Instead of an answer to the shutdown comes the end of the stream. -/
def sampleCourse : List Sweep.Event :=
  [.proceed, .proceed, .proceed, .happens 0 (.event (.incident .endInbound)) rfl, .proceed]

theorem sweep_stops_all_cut_off :
    Sound sampleRegistry ∧ [1, 0].Perm (sampleRegistry.entries.map Prod.snd) ∧
      StopsAll sampleMachine sampleRegistry [1, 0] ∧
      ((Sweep.ofNumbers [1, 0] sampleRegistry).run sampleMachine sampleCourse).Returned := by
  have sound : Sound sampleRegistry := (sound_create _ _).run sampleMachine sampleCalls
  have order : sampleRegistry.entries.map Prod.snd = [0, 1] := by decide +kernel
  have visits : [1, 0].Perm (sampleRegistry.entries.map Prod.snd) := by
    rw [order]
    exact .swap 0 1 []
  refine ⟨sound, visits, sweep_stops_all sampleMachine sound visits, ?_, ?_⟩
  · exact List.isEmpty_iff.mp (by decide +kernel)
  · exact Option.isNone_iff_eq_none.mp (by decide +kernel)

/-- The server is told although its shutdown failed, and the other session was not touched. -/
example :
    (((Sweep.ofNumbers [1, 0] sampleRegistry).run sampleMachine sampleCourse).registry.sessions.map
      fun session => (session.stage, session.told)) =
        [(.shuttingDown, true), (.uninitialized, false)] := by
  decide +kernel

end Sample

end WorkspaceServers.Registry
