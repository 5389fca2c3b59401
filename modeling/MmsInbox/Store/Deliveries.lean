import MmsInbox.Store.Monitored

namespace MmsInbox

/-!
# Callers of a message store

Callers store messages side by side. Each gives its message an identifier before it takes the lock of the
store, and behind the lock it looks at the capacity and inserts in one go. So between the two steps of one
caller any number of others may have come first.

A monitored store serves one call after the other; with it goes what was stored since it was last cleared.
-/

/-- A message on its way into a store, with the identifier it was given. -/
structure Delivery where
  id : MessageId
  record : MessageRecord
  deriving DecidableEq

/-- A delivery that is over, with what its caller was told. -/
structure Delivered where
  delivery : Delivery
  result : Except StoreError MessageId

namespace Delivered

/-- What the caller believes to be stored. -/
def entry? (delivered : Delivered) : Option (MessageId × MessageRecord) :=
  match delivered.result with
  | .ok id => some (id, delivered.delivery.record)
  | .error _ => none

end Delivered

/-- A message store among its callers. -/
structure Deliveries where
  store : MessageStore
  /-- The deliveries whose turn at the store is still to come. -/
  underWay : List Delivery
  /-- The deliveries that are over, in the order of their turns. -/
  finished : List Delivered

namespace Deliveries

/-- Nothing has been delivered to an empty store. -/
def new (capacity : Option Nat) : Deliveries :=
  ⟨.empty capacity, [], []⟩

/-- What callers believe to be stored, the oldest first. -/
def stored (deliveries : Deliveries) : List (MessageId × MessageRecord) :=
  deliveries.finished.filterMap Delivered.entry?

/-- A delivery has its turn at the store. -/
def turn
    (deliveries : Deliveries)
    (delivery : Delivery) :
    Deliveries :=
  match deliveries.store.persist delivery.id delivery.record with
  | .ok fuller =>
      { deliveries with
        store := fuller
        finished := deliveries.finished ++ [⟨delivery, .ok delivery.id⟩] }
  | .error error =>
      { deliveries with finished := deliveries.finished ++ [⟨delivery, .error error⟩] }

/-- Something that happens among callers. -/
inductive Move where
  /-- A caller gives a message its identifier. -/
  | begin (delivery : Delivery)
  /-- One of the deliveries under way has its turn. -/
  | turn (number : Nat)
  deriving DecidableEq

namespace Move

/-- The delivery that begins. -/
def begun? : Move → Option Delivery
  | .begin delivery => some delivery
  | .turn _ => none

end Move

/-- Let something happen, if it can. -/
def step?
    (deliveries : Deliveries) :
    Move → Option Deliveries
  | .begin delivery => some { deliveries with underWay := deliveries.underWay ++ [delivery] }
  | .turn number =>
      deliveries.underWay[number]?.map fun delivery =>
        { deliveries.turn delivery with underWay := deliveries.underWay.eraseIdx number }

/-- Let a sequence of things happen, if they can. -/
def run? : List Move → Deliveries → Option Deliveries
  | [], deliveries => some deliveries
  | move :: later, deliveries => (deliveries.step? move).bind (run? later)

end Deliveries

namespace MonitoredStore

/-- A call that a monitored store serves. -/
inductive Operation where
  | persist (fresh : MessageId) (record : MessageRecord)
  | failPersist (failing : Bool)
  | clear
  deriving DecidableEq

namespace Operation

/-- The identifier that a message is given. -/
def id? : Operation → Option MessageId
  | .persist fresh _ => some fresh
  | .failPersist _ => none
  | .clear => none

end Operation

/-- All messages in the order of their identifiers. -/
def messages (store : MonitoredStore) : List MessageRecord :=
  store.inner.toList.map (·.2)

/-- A monitored store, with what its callers believe to be stored since it was last cleared. -/
structure Observed where
  store : MonitoredStore
  stored : List (MessageId × MessageRecord)

namespace Observed

/-- Serve a call. -/
def serve
    (observed : Observed) :
    Operation → Observed
  | .persist fresh record =>
      let (result, store) := observed.store.persist fresh record
      match result with
      | .ok () => ⟨store, observed.stored ++ [(fresh, record)]⟩
      | .error _ => ⟨store, observed.stored⟩
  | .failPersist failing => { observed with store := { observed.store with failing := failing } }
  | .clear => ⟨observed.store.clear, []⟩

/-- A new store after a sequence of calls. -/
def after (operations : List Operation) : Observed :=
  operations.foldl serve ⟨.empty, []⟩

end Observed

end MonitoredStore

end MmsInbox
