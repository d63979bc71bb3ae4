import WorkspaceServers.Keyed.Basic

/-!
Requests that wait for an answer, by their id. A waiter leaves in one of three ways:
its answer comes, it is released because nobody waits any longer, or the map closes.
A closed map is empty and takes no waiter in again.
-/

namespace WorkspaceServers

structure Pending (α : Type) where
  closed : Bool
  waiting : Keyed UInt64 α
  ascending : Keyed.Ascending waiting
  empty_of_closed : closed = true → waiting = []

namespace Pending

variable {α : Type}

def empty : Pending α := ⟨false, [], List.Pairwise.nil, fun _ => rfl⟩

def size (pending : Pending α) : Nat := pending.waiting.length

def find? (id : UInt64) (pending : Pending α) : Option α := Keyed.find? id pending.waiting

/-- Takes a waiter in, over one that has the same id. -/
def register (id : UInt64) (waiter : α) (pending : Pending α) : Option (Pending α) :=
  if pending.closed then none
  else some ⟨false, Keyed.insert id waiter pending.waiting,
    Keyed.ascending_insert id waiter pending.ascending, nofun⟩

def release (id : UInt64) (pending : Pending α) : Pending α :=
  ⟨pending.closed, Keyed.erase id pending.waiting, Keyed.ascending_erase id pending.ascending,
    fun closed => by rw [pending.empty_of_closed closed, Keyed.erase]⟩

def complete (id : UInt64) (pending : Pending α) : Option α × Pending α :=
  (pending.find? id, pending.release id)

def close (pending : Pending α) : Keyed UInt64 α × Pending α :=
  (pending.waiting, ⟨true, [], List.Pairwise.nil, fun _ => rfl⟩)

end Pending

end WorkspaceServers
