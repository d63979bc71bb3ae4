import WorkspaceServers.Proofs.Pending.Operations
import WorkspaceServers.Proofs.Pending.History

/-!
The desk follows its history. Ids are registered once, so a guard that is dropped finds no
entry but its own, and an entry of the map stands for one waiter with its guard in place.
-/

namespace WorkspaceServers.Pending

structure Follows (events : List Event) (desk : Desk) : Prop where
  closed : desk.pending.closed = true ↔ Event.close ∈ events
  numbered : Event.close ∉ events → desk.waiters.map Waiter.id = registered events
  distinct : (desk.waiters.map Waiter.id).Nodup
  known : desk.waiters.map Waiter.id ⊆ registered events
  found : ∀ id number, desk.pending.find? id = some number ↔ Holds events id number
  waiter : ∀ {id number}, Holds events id number → ∃ listening,
    desk.waiters[number]? = some ⟨id, listening, true⟩ ∧
      (listening = true ↔ Listens events id number)

variable {events : List Event} {desk : Desk}

theorem follows_empty : Follows [] Desk.empty where
  closed := ⟨nofun, nofun⟩
  numbered _ := rfl
  distinct := List.nodup_nil
  known := List.nil_subset _
  found id number := by
    constructor
    · intro found
      cases found
    · rintro ⟨since, ⟨before, split, -⟩, -⟩
      cases before <;> cases split
  waiter := by
    rintro id number ⟨since, ⟨before, split, -⟩, -⟩
    cases before <;> cases split

namespace Follows

theorem id_eq_iff (follows : Follows events desk) {id : UInt64} {number other : Nat}
    {waiter : Waiter} (holds : Holds events id number)
    (stands : desk.waiters[other]? = some waiter) : waiter.id = id ↔ other = number := by
  obtain ⟨listening, own, -⟩ := follows.waiter holds
  constructor
  · intro same
    have inside : other < (desk.waiters.map Waiter.id).length := by
      rw [List.length_map]
      exact (List.getElem?_eq_some_iff.mp stands).1
    apply (List.getElem?_inj inside follows.distinct).mp
    rw [List.getElem?_map, List.getElem?_map, stands, own]
    exact congrArg some same
  · rintro rfl
    rw [stands] at own
    exact congrArg Waiter.id (Option.some.inj own)

theorem quiet (follows : Follows events desk) {event : Event} {after : Desk}
    (silent : registered [event] = []) (opens : event ≠ .close)
    (closed : after.pending.closed = desk.pending.closed)
    (ids : after.waiters.map Waiter.id = desk.waiters.map Waiter.id)
    (found : ∀ id number, after.pending.find? id = some number ↔
      desk.pending.find? id = some number ∧ ¬ event.removes id number)
    (kept : ∀ id number listening, Holds events id number → ¬ event.removes id number →
      desk.waiters[number]? = some ⟨id, listening, true⟩ →
        ∃ listens, after.waiters[number]? = some ⟨id, listens, true⟩ ∧
          (listens = true ↔ listening = true ∧ event ≠ .dropReceiver number)) :
    Follows (events ++ [event]) after := by
  -- An event that neither registers nor closes: it is enough to look at the entries that were
  -- there before.
  have old : ∀ id, event ≠ .register id := by
    rintro id rfl
    cases silent
  have holds : ∀ id number, Holds (events ++ [event]) id number ↔
      Holds events id number ∧ ¬ event.removes id number := fun id number => by
    rw [Holds, spared_append, or_iff_left fun new => old id new.1, Holds]
  have listens : ∀ id number, Listens (events ++ [event]) id number ↔
      Listens events id number ∧ ¬ (event.removes id number ∨ event = .dropReceiver number) :=
    fun id number => by
      rw [Listens, spared_append, or_iff_left fun new => old id new.1, Listens]
  have registrations : registered (events ++ [event]) = registered events := by
    rw [registered_append, silent, List.append_nil]
  have closing : Event.close ∈ events ++ [event] ↔ Event.close ∈ events := by
    simp [Ne.symm opens]
  refine ⟨?_, ?_, ?_, ?_, ?_, ?_⟩
  · rw [closed, closing, follows.closed]
  · rw [closing, ids, registrations]
    exact follows.numbered
  · rw [ids]
    exact follows.distinct
  · rw [ids, registrations]
    exact follows.known
  · intro id number
    rw [found, holds, follows.found]
  · intro id number held
    obtain ⟨before, spared⟩ := (holds id number).mp held
    obtain ⟨listening, stands, heard⟩ := follows.waiter before
    obtain ⟨now, stays, hears⟩ := kept id number listening before spared stands
    refine ⟨now, stays, ?_⟩
    rw [hears, listens, heard, not_or, and_iff_right spared]

theorem complete (follows : Follows events desk) (id : UInt64) (outcome : Outcome) :
    Follows (events ++ [.complete id outcome]) (desk.complete id outcome).1 := by
  refine follows.quiet rfl nofun rfl ?_ ?_ ?_
  · exact Desk.ids_deliver { desk with pending := desk.pending.release id } (.outcome outcome) _
  · intro other number
    simp only [Desk.complete, Desk.pending_deliver, Pending.complete, find?_release,
      Event.removes]
    by_cases same : id = other <;> simp [same]
  · intro other number listening holds spared stands
    refine ⟨listening, ?_, by simp⟩
    -- The answer reaches the waiter of its own id alone.
    have unmeant : number ∉ (desk.pending.find? id).toList := by
      intro meant
      have entry := (follows.found id number).mp (Option.mem_toList.mp meant)
      obtain ⟨_, own, -⟩ := follows.waiter entry
      rw [stands] at own
      exact spared (congrArg Waiter.id (Option.some.inj own)).symm
    simp only [Desk.complete, Pending.complete, Desk.waiters_deliver, stands, if_neg unmeant,
      Option.map_some]

theorem idle (follows : Follows events desk) {event : Event} (silent : registered [event] = [])
    (opens : event ≠ .close)
    (spares : ∀ id number, Holds events id number →
      ¬ event.removes id number ∧ event ≠ .dropReceiver number) :
    Follows (events ++ [event]) desk := by
  refine follows.quiet silent opens rfl rfl ?_ ?_
  · intro id number
    constructor
    · intro found
      exact ⟨found, (spares id number ((follows.found id number).mp found)).1⟩
    · exact And.left
  · intro id number listening holds _ stands
    exact ⟨listening, stands, by simp [(spares id number holds).2]⟩

theorem dropGuard (follows : Follows events desk) (number : Nat) :
    Follows (events ++ [.dropGuard number]) (desk.dropGuard number).1 := by
  unfold Desk.dropGuard
  split
  · rename_i id listening stands
    have removes : ∀ {other place}, Holds events other place →
        ((Event.dropGuard number).removes other place ↔ id = other) := fun holds =>
      (follows.id_eq_iff holds stands).symm
    refine follows.quiet rfl nofun rfl ?_ ?_ ?_
    · rw [Desk.ids_deliver]
      exact Desk.ids_set stands rfl
    · intro other place
      simp only [Desk.pending_deliver, Pending.complete, find?_release]
      constructor
      · intro found
        by_cases same : id = other
        · simp [same] at found
        · rw [if_neg same] at found
          exact ⟨found, mt (removes ((follows.found other place).mp found)).mp same⟩
      · rintro ⟨found, spared⟩
        rwa [if_neg (mt (removes ((follows.found other place).mp found)).mpr spared)]
    · intro other place listens holds spared own
      have apart : number ≠ place := spared
      refine ⟨listens, ?_, by simp⟩
      have unmeant : place ∉ (desk.pending.find? id).toList := by
        intro meant
        have entry := (follows.found id place).mp (Option.mem_toList.mp meant)
        exact apart ((follows.id_eq_iff entry stands).mp rfl)
      simp only [Pending.complete, Desk.waiters_deliver, List.getElem?_set_ne apart, own,
        Option.map_some, if_neg unmeant]
  · rename_i absent
    refine follows.idle rfl nofun fun id place holds => ⟨?_, nofun⟩
    -- A waiter with an entry has its guard, and here there is none to drop.
    rintro rfl
    obtain ⟨listening, own, -⟩ := follows.waiter holds
    exact absent id listening own

theorem dropReceiver (follows : Follows events desk) (number : Nat) :
    Follows (events ++ [.dropReceiver number]) (desk.dropReceiver number) := by
  unfold Desk.dropReceiver
  split
  · rename_i waiter stands
    refine follows.quiet rfl nofun rfl (Desk.ids_set stands rfl) ?_ ?_
    · intro id place
      simp [Event.removes]
    · intro id place listening holds _ own
      by_cases here : number = place
      · subst here
        rw [own] at stands
        cases stands
        have inside := (List.getElem?_eq_some_iff.mp own).1
        exact ⟨false, by simp [inside], by simp⟩
      · exact ⟨listening, by rw [List.getElem?_set_ne here, own], by simp [here]⟩
  · rename_i absent
    refine follows.idle rfl nofun fun id place holds => ⟨fun wrong => wrong, ?_⟩
    rintro ⟨⟩
    obtain ⟨listening, own, -⟩ := follows.waiter holds
    rw [absent] at own
    cases own

theorem close (follows : Follows events desk) : Follows (events ++ [.close]) desk.close.1 := by
  have closing : Event.close ∈ events ++ [.close] := by simp
  have ids : desk.close.1.waiters.map Waiter.id = desk.waiters.map Waiter.id :=
    Desk.ids_deliver { desk with pending := desk.pending.close.2 }
      (.outcome (.error .terminated)) _
  refine ⟨?_, ?_, ?_, ?_, ?_, ?_⟩
  · exact ⟨fun _ => closing, fun _ => rfl⟩
  · exact fun opened => absurd closing opened
  · rw [ids]
    exact follows.distinct
  · rw [ids, registered_append]
    exact List.subset_append_of_subset_left _ follows.known
  · intro id number
    rw [iff_false_right (not_holds_of_close closing)]
    exact nofun
  · exact fun holds => absurd holds (not_holds_of_close closing)

theorem register_of_closed (follows : Follows events desk) (closed : Event.close ∈ events)
    (id : UInt64) : Follows (events ++ [.register id]) desk := by
  have closing : Event.close ∈ events ++ [.register id] := List.mem_append_left _ closed
  refine ⟨?_, ?_, follows.distinct, ?_, ?_, ?_⟩
  · exact ⟨fun _ => closing, fun _ => follows.closed.mpr closed⟩
  · exact fun opened => absurd closing opened
  · rw [registered_append]
    exact List.subset_append_of_subset_left _ follows.known
  · intro other number
    rw [follows.found, iff_false_left (not_holds_of_close closed)]
    exact not_holds_of_close closing
  · exact fun holds => absurd holds (not_holds_of_close closing)

theorem register_of_open (follows : Follows events desk) (opened : Event.close ∉ events)
    {id : UInt64} (fresh : id ∉ registered events) {pending : Pending Nat}
    (entered : desk.pending.register id desk.waiters.length = some pending) :
    Follows (events ++ [.register id]) ⟨pending, desk.waiters ++ [⟨id, true, true⟩]⟩ := by
  have opening : Event.close ∉ events ++ [.register id] := by simp [opened]
  have ids := follows.numbered opened
  have length : desk.waiters.length = (registered events).length := by
    rw [← ids, List.length_map]
  have names : (desk.waiters ++ [(⟨id, true, true⟩ : Waiter)]).map Waiter.id =
      registered (events ++ [.register id]) := by
    rw [List.map_append, ids, registered_append]
    rfl
  have unused : ∀ number, ¬ Holds events id number := fun number holds =>
    fresh (mem_registered_of_holds holds)
  refine ⟨?_, fun _ => names, ?_, ?_, ?_, ?_⟩
  · simp [closed_register entered, opening]
  · rw [names, registered_append, List.nodup_append]
    refine ⟨ids ▸ follows.distinct, List.pairwise_singleton _ id, ?_⟩
    intro other member last inside same
    rw [List.mem_singleton.mp inside] at same
    exact fresh (same ▸ member)
  · rw [names]
    exact List.Subset.refl _
  · intro other number
    rw [find?_register entered, Holds, spared_append, ← Holds]
    by_cases same : id = other
    · subst same
      simp [unused number, opened, length, eq_comm]
    · simp [same, follows.found, Event.removes]
  · -- Whoever has an entry had it before, or is the new waiter.
    intro other number holds
    rcases spared_append.mp holds with ⟨before, -⟩ | ⟨new, -, rfl⟩
    · obtain ⟨listening, stands, heard⟩ := follows.waiter before
      have inside : number < desk.waiters.length := (List.getElem?_eq_some_iff.mp stands).1
      refine ⟨listening, by rw [List.getElem?_append_left inside, stands], ?_⟩
      have older : ¬ number = (registered events).length := by omega
      rw [heard, Listens, Listens, spared_append]
      simp [older, Event.removes]
    · cases new
      refine ⟨true, by simp [← length], ?_⟩
      rw [Listens, spared_append]
      simp [opened]

theorem step (follows : Follows events desk) (event : Event)
    (fresh : (registered (events ++ [event])).Nodup) :
    Follows (events ++ [event]) (desk.step event) := by
  cases event with
  | register id =>
    have unused : id ∉ registered events := by
      rw [registered_append, List.nodup_append] at fresh
      exact fun member => fresh.2.2 id member id List.mem_cons_self rfl
    rw [Desk.step]
    -- A desk that has been closed takes nobody in, an open one takes in the new waiter.
    by_cases closed : Event.close ∈ events
    · rw [Desk.register_of_closed (follows.closed.mpr closed)]
      exact follows.register_of_closed closed id
    · have absent : desk.pending.find? id = none := by
        cases found : desk.pending.find? id with
        | none => rfl
        | some number =>
          exact absurd (mem_registered_of_holds ((follows.found id number).mp found)) unused
      obtain ⟨pending, entered, registers⟩ :=
        Desk.register_of_open (mt follows.closed.mp closed) absent
      rw [registers]
      exact follows.register_of_open closed unused entered
  | complete id outcome => exact follows.complete id outcome
  | close => exact follows.close
  | dropGuard number => exact follows.dropGuard number
  | dropReceiver number => exact follows.dropReceiver number

theorem run {past : List Event} (follows : Follows past desk) (events : List Event)
    (fresh : (registered (past ++ events)).Nodup) :
    Follows (past ++ events) (desk.run events) := by
  induction events generalizing past desk with
  | nil => rwa [List.append_nil]
  | cons event rest ih =>
    have moved : past ++ event :: rest = past ++ [event] ++ rest := by simp
    rw [moved] at fresh ⊢
    have now : (registered (past ++ [event])).Nodup := by
      rw [registered_append] at fresh
      exact (List.nodup_append.mp fresh).1
    exact ih (follows.step event now) fresh

end Follows

end WorkspaceServers.Pending
