import WorkspaceServers.Proofs.Session.Moves

/-!
Whole runs of a session. What a single move keeps adds up along a run: stages go one way,
launches and signals are counted by the session itself, the one transport only runs on, and
a session that is over has nobody waiting.
-/

namespace WorkspaceServers.Session

def launches (session : Session) : Nat := session.transport?.toList.length

def told (session : Session) : Bool := (session.server?.map Server.signalled).getD false

def Settled (session : Session) : Prop :=
  session.stage = .exited → ∃ transport, session.transport? = some transport ∧
    transport.isClosed = true

/-- How a session gets on, with what it has left in the record on the way. -/
structure Continues (before after : Session) (record : Record) : Prop where
  options : after.options = before.options
  forward : before.stage.rank ≤ after.stage.rank
  launches : before.launches + record.launched.length = after.launches
  signals : before.told.toNat + record.signals = after.told.toNat
  transport : ∀ {transport}, before.transport? = some transport →
    ∃ since, after.transport? = some (transport.run since).1
  first : before.transport? = none → after.transport? = none ∨
    ∃ since, after.transport? =
      some ((Transport.start before.options.requestTimeout).run since).1
  settled : before.Settled → after.Settled

variable {session before middle after : Session} {first second : Record}

theorem Stage.rank_le (stage : Stage) : stage.rank ≤ Stage.exited.rank := by
  cases stage <;> decide

theorem Stage.rank_inj {stage other : Stage} (same : stage.rank = other.rank) :
    stage = other := by
  cases stage <;> cases other <;> first | rfl | cases same

theorem stage_eq_uninitialized_iff :
    session.stage = .uninitialized ↔ session.transport? = none := by
  unfold stage transport? server?
  cases session.lifecycle <;> simp [Lifecycle.stage, Lifecycle.server?]

namespace Continues

theorem refl (session : Session) : Continues session session .empty where
  options := rfl
  forward := Nat.le_refl _
  launches := rfl
  signals := rfl
  transport found := ⟨[], found⟩
  first := .inl
  settled := id

theorem trans (onward : Continues before middle first) (further : Continues middle after second) :
    Continues before after (first.append second) where
  options := further.options.trans onward.options
  forward := Nat.le_trans onward.forward further.forward
  launches := by
    rw [← further.launches, ← onward.launches, Record.append, List.length_append, Nat.add_assoc]
  signals := by rw [← further.signals, ← onward.signals, Record.append, Nat.add_assoc]
  transport found := by
    obtain ⟨since, kept⟩ := onward.transport found
    obtain ⟨later, ran⟩ := further.transport kept
    exact ⟨since ++ later, by rw [ran, Transport.run_append]⟩
  first absent := by
    rcases onward.first absent with still | ⟨since, began⟩
    · rw [← onward.options]
      exact further.first still
    · obtain ⟨later, ran⟩ := further.transport began
      exact .inr ⟨since ++ later, by rw [ran, Transport.run_append]⟩
  settled := further.settled ∘ onward.settled

end Continues

theorem continues_of_moves {record : Record} (moves : Moves session after record) :
    Continues session after record := by
  obtain ⟨lifecycle, rfl, move⟩ := moves
  obtain ⟨identity, root, options, lifecycle⟩ := session
  cases move with
  | idle launched silent =>
    refine ⟨rfl, Nat.le_refl _, ?_, ?_, fun found => ⟨[], found⟩, .inl, id⟩
    · rw [launched]
      rfl
    · rw [silent]
      rfl
  | launch command events launched silent =>
    refine ⟨rfl, Nat.zero_le _, ?_, ?_, nofun, fun _ => .inr ⟨events, rfl⟩, fun _ => nofun⟩
    · rw [launched]
      rfl
    · rw [silent]
      rfl
  | serve events signalled old new forward ends launched told =>
    rename_i server
    have now : (⟨identity, root, options, lifecycle⟩ : Session).server? = some server := old
    refine ⟨rfl, forward, ?_, ?_, ?_, ?_, ?_⟩
    · simp [Session.launches, transport?, server?, old, new, launched]
    · simpa [Session.told, server?, old, new] using told
    · intro transport found
      simp only [transport?, now, Option.map_some, Option.some.injEq] at found
      subst found
      exact ⟨events, by simp [transport?, server?, new]⟩
    · simp [transport?, now]
    · intro settled gone
      refine ⟨(server.transport.run events).1, by simp [transport?, server?, new], ?_⟩
      -- Either the transport was closed before, or the one event is its close.
      rcases ends gone with already | ended
      · obtain ⟨transport, found, closed⟩ := settled already
        simp only [transport?, now, Option.map_some, Option.some.injEq] at found
        subst found
        exact Transport.isClosed_run_of_isClosed closed events
      · obtain ⟨queue, closes⟩ := Transport.close_queue server.transport
        rw [ended, Transport.run_cons, Transport.step_incident, Transport.suffer, closes]
        rfl

theorem continues_step (machine : Launch.Machine) (session : Session) (event : Event) :
    Continues session (session.step machine event).1 (session.step machine event).2 :=
  continues_of_moves (moves_step machine session event)

theorem continues_run (machine : Launch.Machine) (session : Session) (events : List Event) :
    Continues session (session.run machine events).1 (session.run machine events).2 := by
  induction events generalizing session with
  | nil => exact .refl session
  | cons event rest ih => exact (continues_step machine session event).trans (ih _)

theorem run_append (machine : Launch.Machine) (session : Session) (first second : List Event) :
    (session.run machine (first ++ second)).1 =
      ((session.run machine first).1.run machine second).1 := by
  induction first generalizing session with
  | nil => rfl
  | cons event rest ih => exact ih _

/-- What holds of a session behind any of its runs, from when it was created. -/
structure LivesOnce (machine : Launch.Machine) (created : Session) (events : List Event) :
    Prop where
  forward : ∀ past future, events = past ++ future →
    (created.run machine past).1.stage.rank ≤ (created.run machine events).1.stage.rank
  final : ∀ past future, events = past ++ future →
    (created.run machine past).1.stage = .exited →
      (created.run machine events).1.stage = .exited
  launched_once : (created.run machine events).2.launched.length ≤ 1
  uninitialized_iff : (created.run machine events).1.stage = .uninitialized ↔
    (created.run machine events).2.launched = []
  transport_iff : (∃ transport, (created.run machine events).1.transport? = some transport) ↔
    (created.run machine events).2.launched ≠ []
  one_transport : ∀ past future, events = past ++ future →
    ∀ transport, (created.run machine past).1.transport? = some transport →
      ∃ since, (created.run machine events).1.transport? = some (transport.run since).1
  first_transport : ∀ transport, (created.run machine events).1.transport? = some transport →
    ∃ since, transport = ((Transport.start created.options.requestTimeout).run since).1
  over_closed : (created.run machine events).1.stage = .exited →
    ∃ transport, (created.run machine events).1.transport? = some transport ∧
      transport.pending.closed = true ∧ transport.pending.waiting = []
  signalled_once : (created.run machine events).2.signals ≤ 1

section Parts

variable (machine : Launch.Machine) (identity : Workspace.Identity) (root : Path)
  (options : Options) (events : List Event)

theorem launched_run :
    (run machine (create identity root options) events).2.launched.length =
      (run machine (create identity root options) events).1.launches := by
  have counted := (continues_run machine (create identity root options) events).launches
  rwa [show (create identity root options).launches = 0 from rfl, Nat.zero_add] at counted

theorem signals_run :
    (run machine (create identity root options) events).2.signals =
      (run machine (create identity root options) events).1.told.toNat := by
  have counted := (continues_run machine (create identity root options) events).signals
  rwa [show (create identity root options).told = false from rfl, Bool.toNat_false,
    Nat.zero_add] at counted

theorem launched_eq_nil_iff :
    (run machine (create identity root options) events).2.launched = [] ↔
      (run machine (create identity root options) events).1.transport? = none := by
  rw [← List.length_eq_zero_iff, launched_run, launches, List.length_eq_zero_iff,
    Option.toList_eq_nil_iff]

end Parts

theorem lives_once (machine : Launch.Machine) (identity : Workspace.Identity) (root : Path)
    (options : Options) (events : List Event) :
    LivesOnce machine (create identity root options) events := by
  -- The rest of a run leads on from any earlier moment of it.
  have onward : ∀ past future, events = past ++ future →
      Continues (run machine (create identity root options) past).1
        (run machine (create identity root options) events).1
        (run machine (run machine (create identity root options) past).1 future).2 := by
    rintro past future rfl
    rw [run_append]
    exact continues_run machine _ future
  have continues := continues_run machine (create identity root options) events
  constructor
  · intro past future split
    exact (onward past future split).forward
  · intro past future split gone
    have forward := (onward past future split).forward
    rw [gone] at forward
    exact Stage.rank_inj (Nat.le_antisymm (Stage.rank_le _) forward)
  · rw [launched_run, launches]
    exact Option.length_toList_le
  · rw [launched_eq_nil_iff, stage_eq_uninitialized_iff]
  · rw [Ne, launched_eq_nil_iff, ← Ne, Option.ne_none_iff_exists']
  · intro past future split transport found
    exact (onward past future split).transport found
  · intro transport found
    rcases continues.first rfl with absent | ⟨since, ran⟩
    · rw [found] at absent
      cases absent
    · rw [found] at ran
      exact ⟨since, Option.some.inj ran⟩
  · intro gone
    obtain ⟨transport, found, closed⟩ := continues.settled nofun gone
    exact ⟨transport, found, closed, transport.pending.empty_of_closed closed⟩
  · rw [signals_run]
    exact Bool.toNat_le _

end WorkspaceServers.Session
