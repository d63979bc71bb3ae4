import WorkspaceServers.Proofs.Session.Stopping
import WorkspaceServers.Registry.Sweep

/-!
A sweep as each of the sessions sees it. The turns that are its own make its trail, and it comes
out as if it had gone through them alone: what the sweep does to the others, and what comes of
that, is no part of the trail.
-/

namespace WorkspaceServers.Registry

open Session (Operation Turn)

variable {machine : Launch.Machine} {registry : Registry} {number other : Nat}

section Sessions

theorem session?_setSession {session : Session} (found : registry.session? other = some session)
    (change : Session → Session) (number : Nat) :
    (registry.setSession other (change session)).session? number =
      (registry.session? number).map fun session =>
        if other = number then change session else session := by
  unfold session? at found ⊢
  unfold setSession
  rw [List.getElem?_set']
  by_cases same : other = number
  · subst same
    simp [found]
  · simp [same]

theorem session?_of_none (absent : registry.session? other = none)
    (change : Session → Session) (number : Nat) :
    registry.session? number = (registry.session? number).map fun session =>
      if other = number then change session else session := by
  by_cases same : other = number
  · subst same
    rw [absent]
    rfl
  · simp [same]

theorem session?_begin (registry : Registry) (operation : Operation) (number : Nat) :
    (registry.begin machine other operation).1.session? number =
      (registry.session? number).map fun session =>
        if other = number then session.turn machine (.event (.start operation)) else session := by
  unfold begin
  cases found : registry.session? other with
  | none => exact session?_of_none found _ number
  | some session =>
    exact session?_setSession found (·.turn machine (.event (.start operation))) number

end Sessions

namespace Sweep

variable {numbers : List Nat} {events : List Event}

theorem session?_happen (sweep : Sweep) (turn : Turn) (number : Nat) :
    (sweep.happen machine other turn).registry.session? number =
      (sweep.registry.session? number).map fun session =>
        if other = number then session.turn machine turn else session := by
  unfold happen
  cases found : sweep.registry.session? other with
  | none => exact session?_of_none found _ number
  | some session => exact session?_setSession found (·.turn machine turn) number

def turn? (number : Nat) (sweep : Sweep) : Event → Option Turn
  | .happens other turn _ => if other = number then some turn else none
  | .proceed =>
    match sweep.awaited, sweep.plan with
    | none, (other, operation) :: _ =>
      if other = number then some (.event (.start operation)) else none
    | none, [] | some _, _ => none

/-- The turns of the session in the course of a sweep. -/
def trail (machine : Launch.Machine) (number : Nat) (sweep : Sweep) : List Event → List Turn
  | [] => []
  | event :: rest =>
    (sweep.turn? number event).toList ++ trail machine number (sweep.step machine event) rest

theorem session?_step (sweep : Sweep) (event : Event) (number : Nat) :
    (sweep.step machine event).registry.session? number =
      (sweep.registry.session? number).map
        (·.turns machine (sweep.turn? number event).toList) := by
  cases event with
  | happens other turn unprompted =>
    rw [step, session?_happen, turn?]
    by_cases own : other = number
    · simp only [if_pos own]
      rfl
    · simp only [if_neg own]
      rfl
  | proceed =>
    obtain ⟨registry, plan, awaited⟩ := sweep
    cases awaited with
    | some awaited => exact Option.map_id'.symm
    | none =>
      -- The sweep itself acts on the session of the next operation only.
      cases plan with
      | nil => exact Option.map_id'.symm
      | cons first rest =>
        obtain ⟨other, operation⟩ := first
        refine (session?_begin registry operation number).trans ?_
        rw [turn?]
        by_cases own : other = number
        · simp only [if_pos own]
          rfl
        · simp only [if_neg own]
          rfl

/-- A session comes out of a sweep as from the turns of its own trail. -/
theorem session?_run (sweep : Sweep) (events : List Event) (number : Nat) :
    (sweep.run machine events).registry.session? number =
      (sweep.registry.session? number).map
        (·.turns machine (sweep.trail machine number events)) := by
  induction events generalizing sweep with
  | nil => exact Option.map_id'.symm
  | cons event rest ih =>
    have next := ih (sweep.step machine event)
    rw [session?_step, Option.map_map] at next
    refine next.trans (congrArg (Option.map · _) (funext fun session => ?_))
    exact (Session.turns_append machine session _ _).symm

section Plans

def planned (number : Nat) (plan : List (Nat × Operation)) : List Operation :=
  plan.filterMap fun entry => if entry.1 = number then some entry.2 else none

/-- What happens to the session in the course of a sweep, apart from the sweep itself. -/
def happenings (number : Nat) (events : List Event) : List Turn :=
  events.filterMap fun
    | .proceed => none
    | .happens other turn _ => if other = number then some turn else none

@[simp] theorem operation?_start (operation : Operation) :
    (Turn.event (.start operation)).operation? = some operation := rfl

theorem operation?_of_unprompted {turn : Turn} (unprompted : turn.isUnprompted = true) :
    turn.operation? = none := by
  cases turn with
  | event event =>
    cases event with
    | start operation => cases unprompted
    | incident incident => rfl
    | processEnded => rfl
  | shutSink => rfl

theorem planned_append (number : Nat) (first second : List (Nat × Operation)) :
    planned number (first ++ second) = planned number first ++ planned number second :=
  List.filterMap_append

theorem planned_step (sweep : Sweep) (event : Event) (number : Nat) :
    planned number sweep.plan =
      (sweep.turn? number event).toList.filterMap Turn.operation? ++
        planned number (sweep.step machine event).plan := by
  cases event with
  | happens other turn unprompted =>
    have same : (sweep.happen machine other turn).plan = sweep.plan := by
      unfold happen
      split <;> rfl
    rw [step, same, turn?]
    by_cases own : other = number
    · simp [own, operation?_of_unprompted unprompted]
    · simp [own]
  | proceed =>
    obtain ⟨registry, plan, awaited⟩ := sweep
    cases awaited with
    | some awaited => rfl
    | none =>
      cases plan with
      | nil => rfl
      | cons first rest =>
        obtain ⟨other, operation⟩ := first
        rw [turn?]
        by_cases own : other = number
        · simp [planned, own, step, proceed]
        · simp [planned, own, step, proceed]

theorem planned_run (machine : Launch.Machine) (sweep : Sweep) (events : List Event)
    (number : Nat) :
    planned number sweep.plan =
      (sweep.trail machine number events).filterMap Turn.operation? ++
        planned number (sweep.run machine events).plan := by
  induction events generalizing sweep with
  | nil => rfl
  | cons event rest ih =>
    rw [trail, List.filterMap_append, List.append_assoc, planned_step, ih]
    rfl

theorem filter_trail (sweep : Sweep) (events : List Event) (number : Nat) :
    (sweep.trail machine number events).filter (·.operation?.isNone) =
      happenings number events := by
  induction events generalizing sweep with
  | nil => rfl
  | cons event rest ih =>
    rw [trail, List.filter_append, ih]
    cases event with
    | happens other turn unprompted =>
      by_cases own : other = number
      · simp [happenings, turn?, own, operation?_of_unprompted unprompted]
      · simp [happenings, turn?, own]
    | proceed =>
      obtain ⟨registry, plan, awaited⟩ := sweep
      have started : (turn? number ⟨registry, plan, awaited⟩ .proceed).toList.filter
          (·.operation?.isNone) = [] := by
        cases awaited with
        | some awaited => rfl
        | none =>
          cases plan with
          | nil => rfl
          | cons first rest =>
            by_cases own : first.1 = number
            · simp [turn?, own]
            · simp [turn?, own]
      rw [started]
      rfl

theorem planned_stopPlan (distinct : numbers.Nodup) (number : Nat) :
    planned number (stopPlan numbers) = if number ∈ numbers then [.shutdown, .exit] else [] := by
  induction numbers with
  | nil => rfl
  | cons first rest ih =>
    obtain ⟨once, distinct'⟩ := List.nodup_cons.mp distinct
    have split : stopPlan (first :: rest) = [(first, .shutdown), (first, .exit)] ++ stopPlan rest :=
      List.flatMap_cons
    rw [split, planned_append, ih distinct']
    by_cases own : first = number
    · subst own
      simp [planned, once]
    · simp [planned, own, Ne.symm own]

theorem planned_ofNumbers (distinct : numbers.Nodup) (registry : Registry) (number : Nat) :
    planned number (ofNumbers numbers registry).plan =
      if number ∈ numbers then [.shutdown, .exit] else [] :=
  planned_stopPlan distinct number

end Plans

section Shape

variable {turns : List Turn}

theorem eq_of_operation? {turn : Turn} {operation : Operation}
    (starts : turn.operation? = some operation) : turn = .event (.start operation) := by
  cases turn with
  | event event =>
    cases event with
    | start other =>
      cases starts
      rfl
    | incident incident => cases starts
    | processEnded => cases starts
  | shutSink => cases starts

theorem filter_of_quiet (quiet : Session.Quiet turns) :
    turns.filter (·.operation?.isNone) = turns := by
  rw [List.filter_eq_self]
  intro turn member
  rw [quiet turn member]
  rfl

theorem quiet_of_filterMap (none : turns.filterMap Turn.operation? = []) : Session.Quiet turns :=
  List.filterMap_eq_nil_iff.mp none

theorem exists_stopping (operations : turns.filterMap Turn.operation? = [.shutdown, .exit]) :
    ∃ before between after, turns = Session.stopping before between after ∧
      Session.Quiet before ∧ Session.Quiet between ∧ Session.Quiet after := by
  obtain ⟨before, shutdown, rest, rfl, quiet, asks, operations⟩ :=
    List.filterMap_eq_cons_iff.mp operations
  obtain ⟨between, exit, after, rfl, quiet', leaves, operations⟩ :=
    List.filterMap_eq_cons_iff.mp operations
  refine ⟨before, between, after, ?_, quiet, quiet', quiet_of_filterMap operations⟩
  rw [eq_of_operation? asks, eq_of_operation? leaves]
  rfl

theorem filter_stopping {before between after : List Turn} (quiet : Session.Quiet before)
    (quiet' : Session.Quiet between) (quiet'' : Session.Quiet after) :
    (Session.stopping before between after).filter (·.operation?.isNone) =
      before ++ (between ++ after) := by
  simp [Session.stopping, filter_of_quiet quiet, filter_of_quiet quiet', filter_of_quiet quiet'']

end Shape

section Runs

theorem stopped_of_returned (distinct : numbers.Nodup) (visited : number ∈ numbers)
    {session : Session} (found : registry.session? number = some session)
    (returned : ((ofNumbers numbers registry).run machine events).Returned) :
    ∃ before between after left, happenings number events = before ++ (between ++ after) ∧
      ((ofNumbers numbers registry).run machine events).registry.session? number = some left ∧
      Session.Stopped machine session before between after left := by
  have operations : ((ofNumbers numbers registry).trail machine number events).filterMap
      Turn.operation? = [.shutdown, .exit] := by
    have done := planned_run machine (ofNumbers numbers registry) events number
    rw [returned.done, planned_ofNumbers distinct, if_pos visited] at done
    exact (List.append_nil _).symm.trans done.symm
  obtain ⟨before, between, after, shape, quiet, quiet', quiet''⟩ := exists_stopping operations
  refine ⟨before, between, after, _, ?_, ?_, Session.stopped machine session quiet quiet' quiet''⟩
  · rw [← filter_trail (ofNumbers numbers registry) events number, shape,
      filter_stopping quiet quiet' quiet'']
  · rw [session?_run, shape]
    exact congrArg (Option.map _) found

theorem session?_of_unvisited (distinct : numbers.Nodup) (unvisited : number ∉ numbers)
    (registry : Registry) (events : List Event) :
    ((ofNumbers numbers registry).run machine events).registry.session? number =
      (registry.session? number).map (·.turns machine (happenings number events)) := by
  have idle : ((ofNumbers numbers registry).trail machine number events).filterMap
      Turn.operation? = [] := by
    have done := planned_run machine (ofNumbers numbers registry) events number
    rw [planned_ofNumbers distinct, if_neg unvisited] at done
    exact (List.append_eq_nil_iff.mp done.symm).1
  rw [session?_run, ← filter_trail (ofNumbers numbers registry) events number,
    filter_of_quiet (quiet_of_filterMap idle)]
  rfl

end Runs

end Sweep

end WorkspaceServers.Registry
