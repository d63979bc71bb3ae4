import WorkspaceServers.Proofs.Pending.Following

/-!
The map holds exactly the waiting requests. Its keys are the ids whose registration has met
neither an answer nor the drop of its guard nor a close, each operation touches the entries
that it is about and no others, and where every guard has been dropped nothing is left.
-/

namespace WorkspaceServers.Pending

/-- What holds behind a run, and of anything that is done next. -/
structure Exact (events : List Event) (desk : Desk) : Prop where
  keys : ∀ id, id ∈ desk.pending.waiting.map Prod.fst ↔ ∃ number, Holds events id number
  closed_iff : desk.pending.closed = true ↔ Event.close ∈ events
  empty_of_close : Event.close ∈ events → desk.pending.waiting = []
  refused : Event.close ∈ events → ∀ id, desk.register id = (desk, .error .terminated, [])
  accepted : Event.close ∉ events → ∀ id ∉ registered events,
    (desk.register id).2.1 = .ok (registered events).length
  complete_iff : ∀ id outcome,
    (desk.complete id outcome).2.1 = true ↔ ∃ number, Listens events id number
  completed : ∀ id outcome received, received ∈ (desk.complete id outcome).2.2 ↔
    ∃ number, Listens events id number ∧ received = (number, .outcome outcome)
  complete_removes : ∀ id outcome entry,
    entry ∈ (desk.complete id outcome).1.pending.waiting ↔
      entry ∈ desk.pending.waiting ∧ entry.1 ≠ id
  close_count : desk.close.2.1 = desk.pending.size
  close_fails : ∀ received, received ∈ desk.close.2.2 ↔
    ∃ id number, Listens events id number ∧ received = (number, .outcome (.error .terminated))
  close_again : Event.close ∈ events → desk.close.2.1 = 0
  /-- Whatever has happened since a waiter was made, its guard takes out its own entry. -/
  guard_removes : ∀ id number since, Made events id number since →
    ∀ entry, entry ∈ (desk.dropGuard number).1.pending.waiting ↔
      entry ∈ desk.pending.waiting ∧ entry.1 ≠ id
  nothing_leaks : (∀ id number since, Made events id number since →
    Event.dropGuard number ∈ since) → desk.pending.waiting = []

section Parts

variable {events : List Event} {desk : Desk} {id : UInt64} {number : Nat}

theorem made_getElem? {since : List Event} (made : Made events id number since) :
    (registered events)[number]? = some id := by
  obtain ⟨before, rfl, -, rfl⟩ := made
  rw [registered_append, List.getElem?_append_right (Nat.le_refl _), Nat.sub_self]
  rfl

theorem Follows.mem_waiting (follows : Follows events desk) :
    (id, number) ∈ desk.pending.waiting ↔ Holds events id number := by
  rw [← Keyed.find?_eq_some_iff_mem desk.pending.ascending, ← follows.found]
  rfl

theorem Follows.isListening_iff (follows : Follows events desk) (holds : Holds events id number) :
    desk.isListening number = true ↔ Listens events id number := by
  obtain ⟨listening, stands, heard⟩ := follows.waiter holds
  rw [Desk.isListening_eq stands, heard]

theorem Follows.completed (follows : Follows events desk) (id : UInt64) (outcome : Outcome)
    (received : Nat × Delivery) :
    received ∈ (desk.complete id outcome).2.2 ↔
      ∃ number, Listens events id number ∧ received = (number, .outcome outcome) := by
  simp only [Desk.complete, Pending.complete, Desk.mem_deliver, Option.mem_toList,
    follows.found]
  constructor
  · rintro ⟨holds, listening, same⟩
    exact ⟨received.1, (follows.isListening_iff holds).mp listening, Prod.ext rfl same⟩
  · rintro ⟨number, listens, rfl⟩
    exact ⟨listens.holds, (follows.isListening_iff listens.holds).mpr listens, rfl⟩

theorem Follows.close_fails (follows : Follows events desk) (received : Nat × Delivery) :
    received ∈ desk.close.2.2 ↔
      ∃ id number, Listens events id number ∧
        received = (number, .outcome (.error .terminated)) := by
  simp only [Desk.close, Pending.close, Desk.mem_deliver, List.mem_map]
  constructor
  · rintro ⟨⟨entry, member, same⟩, listening, delivery⟩
    rw [← same] at listening
    have holds := follows.mem_waiting.mp member
    exact ⟨entry.1, entry.2, (follows.isListening_iff holds).mp listening,
      Prod.ext same.symm delivery⟩
  · rintro ⟨id, number, listens, rfl⟩
    exact ⟨⟨(id, number), follows.mem_waiting.mpr listens.holds, rfl⟩,
      (follows.isListening_iff listens.holds).mpr listens, rfl⟩

theorem Follows.guard_removes (follows : Follows events desk)
    (fresh : (registered events).Nodup) {since : List Event} (made : Made events id number since)
    (entry : UInt64 × Nat) :
    entry ∈ (desk.dropGuard number).1.pending.waiting ↔
      entry ∈ desk.pending.waiting ∧ entry.1 ≠ id := by
  -- Two waiters with one number, or with one id, are one.
  obtain ⟨other, place⟩ := entry
  rw [(follows.dropGuard number).mem_waiting, follows.mem_waiting, Holds, spared_append,
    or_iff_left (fun new => by cases new.1), ← Holds]
  refine and_congr_right fun holds => not_congr ?_
  obtain ⟨later, beside, -⟩ := holds
  have own := made_getElem? made
  have foreign := made_getElem? beside
  constructor
  · rintro rfl
    rw [own] at foreign
    exact (Option.some.inj foreign).symm
  · rintro rfl
    apply (List.getElem?_inj (List.getElem?_eq_some_iff.mp own).1 fresh).mp
    rw [own, foreign]

end Parts

theorem map_holds_waiting (events : List Event) (fresh : (registered events).Nodup) :
    Exact events (Desk.empty.run events) := by
  have follows : Follows events (Desk.empty.run events) := follows_empty.run events fresh
  generalize Desk.empty.run events = desk at follows
  have empty_of_close : Event.close ∈ events → desk.pending.waiting = [] := fun closed =>
    desk.pending.empty_of_closed (follows.closed.mpr closed)
  constructor
  · intro id
    simp [follows.mem_waiting]
  · exact follows.closed
  · exact empty_of_close
  · intro closed id
    exact Desk.register_of_closed (follows.closed.mpr closed) id
  · -- A new id has no entry, as every entry was registered once.
    intro opened id new
    have absent : desk.pending.find? id = none := by
      cases found : desk.pending.find? id with
      | none => rfl
      | some number =>
        exact absurd (mem_registered_of_holds ((follows.found id number).mp found)) new
    obtain ⟨pending, -, registers⟩ :=
      Desk.register_of_open (mt follows.closed.mp opened) absent
    rw [registers, ← follows.numbered opened, List.length_map]
  · intro id outcome
    have received : (desk.complete id outcome).2.1 = true ↔
        ∃ received, received ∈ (desk.complete id outcome).2.2 := by
      simp [Desk.complete, List.eq_nil_iff_forall_not_mem]
    simp only [received, follows.completed]
    constructor
    · rintro ⟨_, number, listens, -⟩
      exact ⟨number, listens⟩
    · rintro ⟨number, listens⟩
      exact ⟨_, number, listens, rfl⟩
  · exact follows.completed
  · intro id outcome entry
    exact mem_release
  · rfl
  · exact follows.close_fails
  · intro closed
    exact congrArg List.length (empty_of_close closed)
  · intro id number since made
    exact follows.guard_removes fresh made
  · intro dropped
    refine List.eq_nil_iff_forall_not_mem.mpr fun entry member => ?_
    obtain ⟨since, made, spared⟩ := follows.mem_waiting.mp member
    exact spared _ (dropped entry.1 entry.2 since made) rfl

/-- The first request is answered, and its guard dropped later; the second one's caller has
gone. -/
def mixed : List Event :=
  [.register 1, .register 2, .complete 1 (.ok .null), .dropReceiver 1, .dropGuard 0, .register 3]

theorem map_holds_waiting_mixed :
    (registered mixed).Nodup ∧ Exact mixed (Desk.empty.run mixed) :=
  ⟨by decide, map_holds_waiting mixed (by decide)⟩

end WorkspaceServers.Pending
