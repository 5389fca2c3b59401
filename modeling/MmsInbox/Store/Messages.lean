import MmsInbox.MessageId.Basic
import MmsInbox.Pdu.Basic
import MmsInbox.Store.Error
import MmsInbox.Subscription

namespace MmsInbox

/-!
# Message store

Messages by identifier, with an optional capacity. A store that has reached its capacity refuses a
message and keeps its contents. Identifiers come from the caller; a message stored under an
identifier that is taken replaces the one before.
-/

/-- What is stored of one retrieved message. -/
structure MessageRecord where
  /-- The bytes as they were downloaded. -/
  raw : Bytes
  retrieval : Retrieval
  /-- The content location that the message was fetched from. -/
  location : String
  /-- The transaction id that the download named. -/
  transactionId : Option String
  subscription : Subscription
  deriving DecidableEq

/-- Messages by identifier. -/
structure MessageStore where
  messages : Std.ExtTreeMap MessageId MessageRecord
  /-- The greatest number of messages; without one the store is unbounded. -/
  capacity : Option Nat

namespace MessageStore

/-- A store without messages. -/
def empty (capacity : Option Nat) : MessageStore :=
  ⟨∅, capacity⟩

/-- The number of stored messages. -/
def size (store : MessageStore) : Nat :=
  store.messages.size

/-- The message stored under an identifier. -/
def get?
    (store : MessageStore)
    (id : MessageId) :
    Option MessageRecord :=
  store.messages[id]?

/-- All messages in the order of their identifiers. -/
def toList (store : MessageStore) : List (MessageId × MessageRecord) :=
  store.messages.toList

/-- The capacity that the store has reached, if it has one and has reached it. -/
def exhausted? (store : MessageStore) : Option Nat :=
  store.capacity.filter (· ≤ store.size)

/-- Store a message under a fresh identifier. -/
def persist
    (store : MessageStore)
    (fresh : MessageId)
    (record : MessageRecord) :
    Except StoreError MessageStore :=
  match store.exhausted? with
  | some capacity => .error (.capacityExceeded store.size capacity)
  | none => .ok { store with messages := store.messages.insert fresh record }

/-- Forget all messages. -/
def clear (store : MessageStore) : MessageStore :=
  { store with messages := ∅ }

end MessageStore

end MmsInbox
