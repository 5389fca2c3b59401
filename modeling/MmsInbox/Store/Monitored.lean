import MmsInbox.Store.Messages

namespace MmsInbox

/-!
# Monitored message store

An unbounded message store that counts the attempts to store, can be told to fail, and lets a caller
wait until it holds a number of messages.

A waiter registers for the next notice of a change before it looks at the number of messages, and a
writer gives notice after it has stored its message. So a waiter that found too few messages is woken
by whatever is stored afterwards.
-/

/-- A message store that is watched. -/
structure MonitoredStore where
  inner : MessageStore
  /-- Every attempt to store fails. -/
  failing : Bool
  attempts : Nat

namespace MonitoredStore

/-- A store without messages. -/
def empty : MonitoredStore :=
  ⟨.empty none, false, 0⟩

/-- The error of a store that was told to fail. -/
def injectedFailure : StoreError :=
  .internal "injected persist failure"

/-- Attempt to store a message under a fresh identifier. -/
def persist
    (store : MonitoredStore)
    (fresh : MessageId)
    (record : MessageRecord) :
    Except StoreError Unit × MonitoredStore :=
  let counted := { store with attempts := store.attempts + 1 }
  if store.failing then (.error injectedFailure, counted)
  else match store.inner.persist fresh record with
    | .error error => (.error error, counted)
    | .ok inner => (.ok (), { counted with inner := inner })

/-- Forget all messages. -/
def clear (store : MonitoredStore) : MonitoredStore :=
  { store with inner := store.inner.clear }

end MonitoredStore

/-- What a waiter is doing. -/
inductive WaiterPhase where
  /-- About to register for the next notice. -/
  | arriving
  /-- Registered, and about to look at the number of messages. -/
  | registered
  /-- Asleep until a notice is given. -/
  | parked
  | satisfied
  deriving Repr, DecidableEq

/-- Someone who waits for a number of messages. -/
structure Waiter where
  expected : Nat
  phase : WaiterPhase
  /-- A notice was given since the waiter registered. -/
  notified : Bool
  deriving Repr, DecidableEq

namespace Waiter

/-- A waiter who has done nothing yet. -/
def new (expected : Nat) : Waiter :=
  ⟨expected, .arriving, false⟩

/-- Register for the next notice. -/
def register (waiter : Waiter) : Waiter :=
  { waiter with phase := .registered, notified := false }

/-- A notice wakes whoever has registered. -/
def notice (waiter : Waiter) : Waiter :=
  { waiter with notified := waiter.phase != .arriving }

/-- One step of the waiter, who sees the number of stored messages; `none` if it has none to take. -/
def step?
    (waiter : Waiter)
    (stored : Nat) :
    Option Waiter :=
  match waiter.phase with
  | .arriving => some waiter.register
  | .registered =>
      if waiter.expected ≤ stored then some { waiter with phase := .satisfied }
      else some { waiter with phase := .parked }
  | .parked =>
      if waiter.notified then some { waiter with phase := .arriving } else none
  | .satisfied => none

/-- The error of a waiter whose time has run out. -/
def timedOut : StoreError :=
  .internal "Timeout waiting for messages: deadline has elapsed"

/-- Wait in a store in which nothing else happens until the time has run out. -/
def await
    (expected stored : Nat) :
    Except StoreError Unit :=
  match (new expected).step? stored >>= (·.step? stored) with
  | some waiter => if waiter.phase = .satisfied then .ok () else .error timedOut
  | none => .error timedOut

end Waiter

end MmsInbox
