import MmsInbox.FetchStatus
import MmsInbox.MessageId.Basic
import MmsInbox.Receive.Error
import MmsInbox.Subscription

namespace MmsInbox

/-!
# Downloads and outcomes

A run begins with a finished download, whose bytes wait in a transient file, and ends in one of four
ways.
-/

/-- A finished download. -/
structure Download where
  /-- The transient file with the downloaded bytes. -/
  path : String
  /-- The subscription; without one the configured one is used. -/
  subscription : Option Subscription
  /-- The content location that the bytes were fetched from. -/
  location : String
  transactionId : Option String
  triggerPush : Bool
  /-- The stored notification that the download answers. -/
  notificationUri : Option String
  /-- The HTTP status that the fetch reported. -/
  status : Option FetchStatus
  deriving Repr, DecidableEq

/-- How a run ended. -/
inductive Outcome where
  /-- The message is stored under this identifier. -/
  | received (id : MessageId)
  /-- Nothing was stored. -/
  | failed (error : ReceiveError)
  /-- The sender is blocked: nothing was stored or acknowledged. -/
  | blocked
  /-- The run ended before it could report. -/
  | aborted
  deriving Repr, DecidableEq

end MmsInbox
