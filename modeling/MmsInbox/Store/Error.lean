import MmsInbox.File.Error

namespace MmsInbox

/-!
# Store errors

What a message store or a notification store reports when it cannot do its work.
-/

/-- Why a store failed. -/
inductive StoreError where
  | file (cause : File.Error)
  | notificationNotFound (uri : String)
  | wrongKind (uri found : String)
  | capacityExceeded (used capacity : Nat)
  | internal (text : String)
  deriving Repr, DecidableEq

namespace StoreError

/-- A lock was left locked by a task that ended in a panic. -/
def poisoned : StoreError :=
  .internal "Lock poisoned: poisoned lock: another task failed inside"

/-- The error as it is reported. -/
def message : StoreError → String
  | .file cause => "I/O error: " ++ cause.message
  | .notificationNotFound uri => s!"Notification not found: {uri}"
  | .wrongKind uri found => s!"Record at {uri} is {found}, expected a notification"
  | .capacityExceeded used capacity =>
      s!"Store capacity exceeded: {used}/{capacity} messages"
  | .internal text => s!"Internal error: {text}"

/-- The messages of the errors behind this one, the nearest first. -/
def causes : StoreError → List String
  | .file cause => [cause.message]
  | _ => []

/-- The requested record does not exist. -/
def isNotFound : StoreError → Bool
  | .notificationNotFound _ => true
  | _ => false

end StoreError

end MmsInbox
