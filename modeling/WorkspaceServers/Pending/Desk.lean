import WorkspaceServers.Failure
import WorkspaceServers.Json.Basic
import WorkspaceServers.Pending.Basic

/-!
The map of waiting requests seen from both ends. Every registration hands out a waiter
with two parts: a receiver that gets at most one outcome, and a guard that takes the
entry of its id out when it is dropped. A waiter whose entry goes without an outcome is
abandoned.
-/

namespace WorkspaceServers.Pending

abbrev Outcome := Except Failure Json

structure Waiter where
  id : UInt64
  listening : Bool
  guarded : Bool

/-- Waiters by their number, and the numbers of those that are in the map. -/
structure Desk where
  pending : Pending Nat
  waiters : List Waiter

inductive Delivery where
  | outcome (outcome : Outcome)
  | abandoned

namespace Desk

def empty : Desk := ⟨.empty, []⟩

def isListening (desk : Desk) (number : Nat) : Bool :=
  (desk.waiters[number]?.map Waiter.listening).getD false

def deliver (desk : Desk) (delivery : Delivery) (numbers : List Nat) :
    Desk × List (Nat × Delivery) :=
  let reached := (List.range desk.waiters.length).filter fun number =>
    numbers.contains number && desk.isListening number
  ({ desk with waiters := desk.waiters.mapIdx fun number waiter =>
      if reached.contains number then { waiter with listening := false } else waiter },
    reached.map (·, delivery))

def register (desk : Desk) (id : UInt64) : Desk × Except Failure Nat × List (Nat × Delivery) :=
  let number := desk.waiters.length
  match desk.pending.register id number with
  | none => (desk, .error .terminated, [])
  | some pending =>
    let (told, received) := desk.deliver .abandoned (desk.pending.find? id).toList
    ({ pending, waiters := told.waiters ++ [⟨id, true, true⟩] }, .ok number, received)

def complete (desk : Desk) (id : UInt64) (outcome : Outcome) :
    Desk × Bool × List (Nat × Delivery) :=
  let (number?, pending) := desk.pending.complete id
  let (desk, received) := { desk with pending }.deliver (.outcome outcome) number?.toList
  (desk, !received.isEmpty, received)

def close (desk : Desk) : Desk × Nat × List (Nat × Delivery) :=
  let (entries, pending) := desk.pending.close
  let (desk, received) :=
    { desk with pending }.deliver (.outcome (.error .terminated)) (entries.map Prod.snd)
  (desk, entries.length, received)

def dropGuard (desk : Desk) (number : Nat) : Desk × List (Nat × Delivery) :=
  match desk.waiters[number]? with
  | some ⟨id, listening, true⟩ =>
    let (number?, pending) := desk.pending.complete id
    let desk : Desk := ⟨pending, desk.waiters.set number ⟨id, listening, false⟩⟩
    desk.deliver .abandoned number?.toList
  | _ => (desk, [])

def dropReceiver (desk : Desk) (number : Nat) : Desk :=
  match desk.waiters[number]? with
  | some waiter =>
    { desk with waiters := desk.waiters.set number { waiter with listening := false } }
  | none => desk

end Desk

end WorkspaceServers.Pending
