import MmsInbox.Store.Messages

namespace MmsInbox

/-!
# Writing messages one after another

A message that is written is given its identifier at once, from the time and from random bits. Several
messages may be written within one millisecond.
-/

/-- A message that is written at a moment. -/
structure Writing where
  /-- Milliseconds since 1970. -/
  moment : Fin idTimes
  random : Fin idRandoms
  record : MessageRecord
  deriving DecidableEq

namespace Writing

/-- The identifier that the message is given. -/
def id (writing : Writing) : MessageId :=
  .ofParts writing.moment writing.random

/-- What is stored. -/
def entry (writing : Writing) : MessageId × MessageRecord :=
  (writing.id, writing.record)

end Writing

/-- Write messages into a store one after another. -/
def MessageStore.persistAll
    (store : MessageStore) :
    List Writing → Except StoreError MessageStore
  | [] => .ok store
  | writing :: later =>
      (store.persist writing.id writing.record).bind fun fuller => fuller.persistAll later

end MmsInbox
