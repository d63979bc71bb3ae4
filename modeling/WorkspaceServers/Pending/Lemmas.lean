import WorkspaceServers.Keyed.Lemmas
import WorkspaceServers.Pending.Basic

/-!
What each operation does to the waiters that a map holds. Registering and releasing touch
one id, and closing lets all of them go and is final.
-/

namespace WorkspaceServers.Pending

variable {α : Type}

theorem find?_of_closed {pending : Pending α} (closed : pending.closed = true) (id : UInt64) :
    pending.find? id = none := by
  rw [find?, pending.empty_of_closed closed, Keyed.find?]

theorem register_eq_none_iff {id : UInt64} {waiter : α} {pending : Pending α} :
    pending.register id waiter = none ↔ pending.closed = true := by
  rw [register]
  split
  · rename_i closed
    exact ⟨fun _ => closed, fun _ => rfl⟩
  · rename_i notClosed
    exact ⟨nofun, fun closed => absurd closed notClosed⟩

theorem find?_register {id other : UInt64} {waiter : α} {pending next : Pending α}
    (registered : pending.register id waiter = some next) :
    next.find? other = if id = other then some waiter else pending.find? other := by
  rw [register] at registered
  split at registered
  · exact nomatch registered
  · rw [← Option.some.inj registered]
    exact Keyed.find?_insert id other waiter pending.waiting

theorem closed_register {id : UInt64} {waiter : α} {pending next : Pending α}
    (registered : pending.register id waiter = some next) : next.closed = false := by
  rw [register] at registered
  split at registered
  · exact nomatch registered
  · rw [← Option.some.inj registered]

theorem find?_release (id other : UInt64) (pending : Pending α) :
    (pending.release id).find? other = if id = other then none else pending.find? other :=
  Keyed.find?_erase pending.ascending id other

theorem mem_release {id : UInt64} {pending : Pending α} {entry : UInt64 × α} :
    entry ∈ (pending.release id).waiting ↔ entry ∈ pending.waiting ∧ entry.1 ≠ id := by
  have found := find?_release id entry.1 pending
  simp only [find?] at found
  rw [← Keyed.find?_eq_some_iff_mem (pending.release id).ascending,
    ← Keyed.find?_eq_some_iff_mem pending.ascending, found]
  by_cases same : id = entry.1
  · simp [same]
  · simp [same, Ne.symm same]

theorem closed_release (id : UInt64) (pending : Pending α) :
    (pending.release id).closed = pending.closed := rfl

theorem release_of_find?_eq_none {id : UInt64} {pending : Pending α}
    (absent : pending.find? id = none) : pending.release id = pending := by
  have kept := Keyed.erase_of_find?_eq_none absent
  cases pending
  simp only [release, kept]

theorem close_of_closed {pending : Pending α} (closed : pending.closed = true) :
    pending.close = ([], pending) := by
  have nobody := pending.empty_of_closed closed
  cases pending
  cases nobody
  cases closed
  rfl

theorem closed_close (pending : Pending α) : pending.close.2.closed = true := rfl

theorem find?_close (id : UInt64) (pending : Pending α) : pending.close.2.find? id = none := rfl

end WorkspaceServers.Pending
