import WorkspaceServers.Pending.Desk
import WorkspaceServers.Pending.Lemmas

/-!
The operations of the desk. A delivery reaches the waiters that are meant and still listen,
and those that are meant do not listen any more after it; ids, guards and the map stay as
they are. A registration adds one waiter or finds the map closed.
-/

namespace WorkspaceServers.Pending.Desk

variable {desk : Desk} {delivery : Delivery} {numbers : List Nat} {number : Nat}

theorem isListening_eq {waiter : Waiter} (found : desk.waiters[number]? = some waiter) :
    desk.isListening number = waiter.listening := by
  simp only [isListening, found, Option.map_some, Option.getD_some]

theorem isListening_iff :
    desk.isListening number = true ↔
      ∃ waiter, desk.waiters[number]? = some waiter ∧ waiter.listening = true := by
  unfold isListening
  cases desk.waiters[number]? <;> simp

theorem pending_deliver : (desk.deliver delivery numbers).1.pending = desk.pending := rfl

theorem waiters_deliver (desk : Desk) (delivery : Delivery) (numbers : List Nat) (number : Nat) :
    (desk.deliver delivery numbers).1.waiters[number]? =
      desk.waiters[number]?.map fun waiter =>
        if number ∈ numbers then { waiter with listening := false } else waiter := by
  simp only [deliver, List.getElem?_mapIdx]
  cases found : desk.waiters[number]? with
  | none => rfl
  | some waiter =>
    have inside : number < desk.waiters.length := (List.getElem?_eq_some_iff.mp found).1
    have reached : ((List.range desk.waiters.length).filter fun number =>
        numbers.contains number && desk.isListening number).contains number =
          (numbers.contains number && waiter.listening) := by
      rw [Bool.eq_iff_iff, List.contains_iff_mem, List.mem_filter, isListening_eq found,
        List.mem_range]
      exact and_iff_right inside
    simp only [Option.map_some, reached]
    -- One that is meant and not reached did not listen before.
    obtain ⟨id, listening, guarded⟩ := waiter
    cases listening <;> simp

theorem waiters_deliver_nil (desk : Desk) (delivery : Delivery) :
    (desk.deliver delivery []).1.waiters = desk.waiters := by
  apply List.ext_getElem?
  intro number
  simp [waiters_deliver]

theorem ids_deliver (desk : Desk) (delivery : Delivery) (numbers : List Nat) :
    (desk.deliver delivery numbers).1.waiters.map Waiter.id = desk.waiters.map Waiter.id := by
  apply List.ext_getElem?
  intro number
  rw [List.getElem?_map, List.getElem?_map, waiters_deliver, Option.map_map]
  congr 1
  funext waiter
  simp only [Function.comp_apply]
  split <;> rfl

theorem ids_set {waiters : List Waiter} {waiter changed : Waiter}
    (stands : waiters[number]? = some waiter) (same : changed.id = waiter.id) :
    (waiters.set number changed).map Waiter.id = waiters.map Waiter.id := by
  apply List.ext_getElem?
  intro other
  rw [List.getElem?_map, List.getElem?_map, List.getElem?_set]
  by_cases here : number = other
  · subst here
    have inside : number < waiters.length := (List.getElem?_eq_some_iff.mp stands).1
    rw [if_pos rfl, if_pos inside, stands]
    exact congrArg some same
  · rw [if_neg here]

theorem mem_deliver {received : Nat × Delivery} :
    received ∈ (desk.deliver delivery numbers).2 ↔
      received.1 ∈ numbers ∧ desk.isListening received.1 = true ∧ received.2 = delivery := by
  simp only [deliver, List.mem_map, List.mem_filter, List.mem_range, Bool.and_eq_true,
    List.contains_iff_mem]
  constructor
  · rintro ⟨number, ⟨_, meant, listening⟩, rfl⟩
    exact ⟨meant, listening, rfl⟩
  · rintro ⟨meant, listening, rfl⟩
    obtain ⟨waiter, found, _⟩ := isListening_iff.mp listening
    exact ⟨received.1, ⟨(List.getElem?_eq_some_iff.mp found).1, meant, listening⟩, rfl⟩

theorem register_of_closed (closed : desk.pending.closed = true) (id : UInt64) :
    desk.register id = (desk, .error .terminated, []) := by
  have refused : desk.pending.register id desk.waiters.length = none :=
    register_eq_none_iff.mpr closed
  simp only [register, refused]

theorem register_of_open (opened : desk.pending.closed ≠ true) {id : UInt64}
    (absent : desk.pending.find? id = none) :
    ∃ pending, desk.pending.register id desk.waiters.length = some pending ∧
      desk.register id =
        (⟨pending, desk.waiters ++ [⟨id, true, true⟩]⟩, .ok desk.waiters.length, []) := by
  cases entered : desk.pending.register id desk.waiters.length with
  | none => exact absurd (register_eq_none_iff.mp entered) opened
  | some pending =>
    refine ⟨pending, rfl, ?_⟩
    have nobody : (desk.deliver .abandoned []).2 = [] := by
      apply List.eq_nil_iff_forall_not_mem.mpr
      intro received member
      exact List.not_mem_nil (mem_deliver.mp member).1
    simp only [register, entered, absent, Option.toList_none, waiters_deliver_nil, nobody]

end WorkspaceServers.Pending.Desk
