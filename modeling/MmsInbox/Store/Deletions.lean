import MmsInbox.Store.Notifications

namespace MmsInbox

/-!
# Deletions side by side

Each row of a notification store is looked at or changed in one go, but a deletion looks at many rows. It
first goes through the rows and collects the URIs of those that are pending for its location, and then
removes what is at these URIs, one after the other. In between other deletions go on, rows are inserted and
marked. Whatever concerns a deletion is written into a log.
-/

/-- Mark the row at a URI if it is pending for a location. -/
def NotificationStore.markAt
    (store : NotificationStore)
    (uri location : String)
    (status : UInt8) :
    NotificationStore :=
  ⟨store.rows.modify uri fun row =>
    if row.isPendingFor location then { row with retrieveStatus := some status } else row⟩

/-- A deletion on its way. -/
structure Deletion where
  location : String
  /-- The URIs that it has yet to look at. -/
  unseen : List String
  /-- The URIs that it has collected, without those where it has removed what was there. -/
  collected : List String
  /-- The number of rows that it has removed. -/
  removed : Nat
  deriving DecidableEq

/-- Something that happens to a row. -/
inductive Access where
  | inserted (row : NotificationRow)
  /-- A deletion has found the row at a URI to be pending for its location. -/
  | collected (number : Nat) (location uri : String) (row : NotificationRow)
  /-- A deletion has removed the row at a URI. -/
  | removed (number : Nat) (location uri : String) (row : NotificationRow)
  deriving DecidableEq

/-- A notification store with deletions that go on side by side. -/
structure Deletions where
  store : NotificationStore
  /-- The deletions that have begun, the first first. -/
  calls : List Deletion
  log : List Access

namespace Deletions

/-- No deletion has begun. -/
def new (store : NotificationStore) : Deletions :=
  ⟨store, [], []⟩

/-- Something that can happen to a store. -/
inductive Move where
  | insert (row : NotificationRow)
  /-- The row at a URI is marked, as part of a marking for a location. -/
  | mark (uri location : String) (status : UInt8)
  | begin (location : String)
  /-- A deletion comes upon a row that was inserted since it began. -/
  | notice (number : Nat) (uri : String)
  /-- A deletion looks at one of the rows that it has yet to look at. -/
  | look (number place : Nat)
  /-- A deletion that has looked at all rows removes what is at the next URI that it has collected. -/
  | remove (number : Nat)
  deriving DecidableEq

/-- Let a deletion look at one of the rows. -/
def look?
    (deletions : Deletions)
    (number place : Nat) :
    Option Deletions :=
  deletions.calls[number]?.bind fun call =>
    call.unseen[place]?.map fun uri =>
      let left := call.unseen.eraseIdx place
      match (deletions.store.get? uri).filter (·.isPendingFor call.location) with
      | none =>
          { deletions with calls := deletions.calls.set number { call with unseen := left } }
      | some row =>
          { deletions with
            calls := deletions.calls.set number
              { call with unseen := left, collected := call.collected ++ [uri] }
            log := deletions.log ++ [.collected number call.location uri row] }

/-- Let a deletion that has looked at all rows remove what is at the next URI. -/
def remove?
    (deletions : Deletions)
    (number : Nat) :
    Option Deletions :=
  deletions.calls[number]?.bind fun call =>
    match call.unseen, call.collected with
    | [], uri :: later =>
        match deletions.store.get? uri with
        | none =>
            some { deletions with
              calls := deletions.calls.set number { call with collected := later } }
        | some row =>
            some
              { store := deletions.store.erase uri
                calls := deletions.calls.set number
                  { call with collected := later, removed := call.removed + 1 }
                log := deletions.log ++ [.removed number call.location uri row] }
    | _, _ => none

/-- Let something happen, if it can. -/
def step?
    (deletions : Deletions) :
    Move → Option Deletions
  | .insert row =>
      some { deletions with
        store := deletions.store.insert row
        log := deletions.log ++ [.inserted row] }
  | .mark uri location status =>
      some { deletions with store := deletions.store.markAt uri location status }
  | .begin location =>
      some { deletions with
        calls := deletions.calls ++ [⟨location, deletions.store.rows.keys, [], 0⟩] }
  | .notice number uri =>
      deletions.calls[number]?.map fun call =>
        { deletions with
          calls := deletions.calls.set number { call with unseen := call.unseen ++ [uri] } }
  | .look number place => deletions.look? number place
  | .remove number => deletions.remove? number

/-- Let things happen one after another, if they can. -/
def run? : List Move → Deletions → Option Deletions
  | [], deletions => some deletions
  | move :: later, deletions => (deletions.step? move).bind (run? later)

end Deletions

end MmsInbox
