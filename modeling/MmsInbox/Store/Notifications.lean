import Std.Data.ExtTreeMap
import MmsInbox.Pdu.Basic
import MmsInbox.Store.Error

namespace MmsInbox

/-!
# Notification store

Rows by URI. A row is pending for a location if it is a notification whose content is there; rows of
another kind are kept but never taken for notifications. Deleting the pending rows of a location has
two phases: the URIs are collected first, and then the rows are removed one by one.
-/

/-- A row of the notification store. -/
structure NotificationRow where
  uri : String
  kind : MessageType
  notification : Notification
  /-- The last retrieve status recorded for this row. -/
  retrieveStatus : Option UInt8
  deriving Repr, DecidableEq

namespace NotificationRow

/-- The row is a notification for content at the location. -/
def isPendingFor
    (row : NotificationRow)
    (location : String) :
    Bool :=
  row.kind == .notification && row.notification.location == location

end NotificationRow

/-- Rows by their URI. -/
structure NotificationStore where
  rows : Std.ExtTreeMap String NotificationRow

namespace NotificationStore

/-- A store without rows. -/
def empty : NotificationStore :=
  ⟨∅⟩

/-- The number of rows. -/
def size (store : NotificationStore) : Nat :=
  store.rows.size

/-- The row at a URI. -/
def get?
    (store : NotificationStore)
    (uri : String) :
    Option NotificationRow :=
  store.rows[uri]?

/-- Insert a row under its URI, replacing the row that is there. -/
def insert
    (store : NotificationStore)
    (row : NotificationRow) :
    NotificationStore :=
  ⟨store.rows.insert row.uri row⟩

/-- The rows of any kind for content at a location, in the order of their URIs. -/
def rowsFor
    (store : NotificationStore)
    (location : String) :
    List NotificationRow :=
  store.rows.values.filter (·.notification.location == location)

/-- The notification at a URI. -/
def load
    (store : NotificationStore)
    (uri : String) :
    Except StoreError Notification :=
  match store.get? uri with
  | none => .error (.notificationNotFound uri)
  | some row =>
      if row.kind = .notification then .ok row.notification
      else .error (.wrongKind uri row.kind.name)

/-- The URIs of the rows that are pending for a location. -/
def pendingUris
    (store : NotificationStore)
    (location : String) :
    List String :=
  (store.rows.filter fun _ row => row.isPendingFor location).keys

/-- Remove the row at a URI, whatever it is. -/
def erase
    (store : NotificationStore)
    (uri : String) :
    NotificationStore :=
  ⟨store.rows.erase uri⟩

/-- Remove the rows at the given URIs one by one, counting those that were there. -/
def eraseAll
    (store : NotificationStore) :
    List String → Nat × NotificationStore
  | [] => (0, store)
  | uri :: rest =>
      let (removed, remaining) := (store.erase uri).eraseAll rest
      (if (store.get? uri).isSome then removed + 1 else removed, remaining)

/-- Delete the pending rows of a location and count them. -/
def deletePending
    (store : NotificationStore)
    (location : String) :
    Nat × NotificationStore :=
  store.eraseAll (store.pendingUris location)

/-- Record a retrieve status in the pending rows of a location and count them. -/
def updateRetrieveStatus
    (store : NotificationStore)
    (location : String)
    (status : UInt8) :
    Nat × NotificationStore :=
  ((store.pendingUris location).length,
    ⟨store.rows.map fun _ row =>
      if row.isPendingFor location then { row with retrieveStatus := some status } else row⟩)

end NotificationStore

end MmsInbox
