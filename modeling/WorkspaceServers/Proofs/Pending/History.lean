import WorkspaceServers.Pending.Lemmas
import WorkspaceServers.Pending.Run

/-!
Which waiters the map should hold, told from the events alone: those whose registration has
met no answer to their id, no drop of their guard and no close. The desk is shown to follow
this account event by event, as long as no id is registered twice.
-/

namespace WorkspaceServers.Pending

def registered (events : List Event) : List UInt64 :=
  events.filterMap fun
    | .register id => some id
    | _ => none

/-- Takes waiter `number` out of the map, where it stands under `id`. -/
def Event.removes (id : UInt64) (number : Nat) : Event → Prop
  | .complete other _ => other = id
  | .close => True
  | .dropGuard other => other = number
  | .register _ | .dropReceiver _ => False

/-- Waiter `number` was made for `id`, and `since` is all that has happened from then on. -/
def Made (events : List Event) (id : UInt64) (number : Nat) (since : List Event) : Prop :=
  ∃ before, events = before ++ .register id :: since ∧ Event.close ∉ before ∧
    number = (registered before).length

def Spared (ends : Event → Prop) (events : List Event) (id : UInt64) (number : Nat) : Prop :=
  ∃ since, Made events id number since ∧ ∀ event ∈ since, ¬ ends event

def Holds (events : List Event) (id : UInt64) (number : Nat) : Prop :=
  Spared (Event.removes id number) events id number

def Listens (events : List Event) (id : UInt64) (number : Nat) : Prop :=
  Spared (fun event => event.removes id number ∨ event = .dropReceiver number) events id number

section Histories

variable {events : List Event} {event : Event} {id : UInt64} {number : Nat}

theorem registered_append (first second : List Event) :
    registered (first ++ second) = registered first ++ registered second :=
  List.filterMap_append

theorem made_append {since : List Event} :
    Made (events ++ [event]) id number since ↔
      (∃ earlier, since = earlier ++ [event] ∧ Made events id number earlier) ∨
      since = [] ∧ event = .register id ∧ Event.close ∉ events ∧
        number = (registered events).length := by
  constructor
  · rintro ⟨before, split, opened, rfl⟩
    rcases List.eq_nil_or_concat since with rfl | ⟨earlier, last, rfl⟩
    · obtain ⟨rfl, same⟩ := List.append_inj' split rfl
      cases same
      exact .inr ⟨rfl, rfl, opened, rfl⟩
    · rw [List.concat_eq_append] at split ⊢
      have moved : events ++ [event] = (before ++ .register id :: earlier) ++ [last] := by
        rw [split, List.append_assoc, List.cons_append]
      obtain ⟨rfl, same⟩ := List.append_inj' moved rfl
      cases same
      exact .inl ⟨earlier, rfl, before, rfl, opened, rfl⟩
  · rintro (⟨earlier, rfl, before, rfl, opened, rfl⟩ | ⟨rfl, rfl, opened, rfl⟩)
    · exact ⟨before, by rw [List.append_assoc, List.cons_append], opened, rfl⟩
    · exact ⟨events, rfl, opened, rfl⟩

theorem spared_append {ends : Event → Prop} :
    Spared ends (events ++ [event]) id number ↔
      (Spared ends events id number ∧ ¬ ends event) ∨
      event = .register id ∧ Event.close ∉ events ∧ number = (registered events).length := by
  constructor
  · rintro ⟨since, made, spared⟩
    rcases made_append.mp made with ⟨earlier, rfl, before⟩ | ⟨-, new⟩
    · obtain ⟨old, last⟩ := List.forall_mem_append.mp spared
      exact .inl ⟨⟨earlier, before, old⟩, last event List.mem_cons_self⟩
    · exact .inr new
  · rintro (⟨⟨since, made, spared⟩, last⟩ | new)
    · refine ⟨since ++ [event], made_append.mpr (.inl ⟨since, rfl, made⟩), ?_⟩
      exact List.forall_mem_append.mpr ⟨spared, List.forall_mem_singleton.mpr last⟩
    · exact ⟨[], made_append.mpr (.inr ⟨rfl, new⟩), List.forall_mem_nil _⟩

theorem Listens.holds (listens : Listens events id number) : Holds events id number := by
  obtain ⟨since, made, spared⟩ := listens
  exact ⟨since, made, fun event member removes => spared event member (.inl removes)⟩

theorem mem_registered_of_holds (holds : Holds events id number) : id ∈ registered events := by
  obtain ⟨since, ⟨before, rfl, -, -⟩, -⟩ := holds
  rw [registered_append]
  exact List.mem_append_right _ List.mem_cons_self

theorem not_holds_of_close (closed : Event.close ∈ events) : ¬ Holds events id number := by
  rintro ⟨since, ⟨before, rfl, opened, -⟩, kept⟩
  rcases List.mem_append.mp closed with early | late
  · exact opened early
  · rcases List.mem_cons.mp late with wrong | later
    · cases wrong
    · exact kept .close later trivial

end Histories

end WorkspaceServers.Pending
