import MmsInbox.Program.Basic

namespace MmsInbox.Receive

/-!
# The steps of a run

The parts of a run that can be understood on their own: taking in the downloaded file, screening the
sender, looking up the notification that a download answers, and removing notifications that can no
longer be fetched. Trouble with the notification store is written into the journal and goes no
further.
-/

open Program

/-- Read the downloaded bytes and remove the file, whether or not it could be read. A file that is
not there need not be removed. -/
def takeIn (path : String) : Program (Except IntakeError Bytes) := do
  let content ← perform (.readFile path)
  match ← perform (.removeFile path) with
  | .ok () => pure ()
  | .error cause =>
    if cause = .absent then pure ()
    else note (.downloadNotRemoved path cause)
  return content.mapError fun cause => ⟨path, cause⟩

/-- Whether a message may come in. -/
inductive Verdict where
  | allowed
  | blocked
  deriving Repr, DecidableEq

/-- Ask whether the sender is blocked. A blocked sender also loses the pending notification; a
message without a sender is never blocked. -/
def screen
    (sender : Option String)
    (location : String) :
    Program Verdict := do
  match sender with
  | none => return .allowed
  | some address =>
    if ← call (.isAddressBlocked address) then
      audit (.senderBlocked address location)
      match ← call (.deletePending location) with
      | .ok removed => audit (.notificationRemoved location "blocked" removed)
      | .error error => note (.blockedNotRemoved location error)
      return .blocked
    else return .allowed

/-- Remove the pending notifications of a location if the fetch found them stale. The number of
removed rows is known unless the fetch reported no status or the store failed. -/
def removeStale
    (status : Option FetchStatus)
    (location : String) :
    Program (Option Nat) := do
  match status with
  | none => return none
  | some status =>
    if status.isStale then
      match ← call (.deletePending location) with
      | .ok removed =>
        audit (.notificationRemoved location status.text removed)
        return some removed
      | .error error =>
        note (.staleNotRemoved location error)
        return none
    else return some 0

/-- Record in the pending notifications of a location that the retrieval ended in an error. -/
def markFailed (location : String) : Program Unit := do
  match ← call (.updateRetrieveStatus location errorRetrieveStatus) with
  | .ok _ => pure ()
  | .error error => note (.failureNotMarked location error)

/-- The stored notification that a download answers, if it names one that can be loaded. -/
def loadNotification (uri : Option String) : Program (Option Notification) := do
  match uri with
  | none => return none
  | some uri =>
    match ← call (.load uri) with
    | .ok notification => return some notification
    | .error error =>
      note (.notificationNotLoaded uri error)
      return none

/-- The acknowledgments of a retrieval, with a notice if there should have been some. -/
def decideTasks (basis : AckBasis) : Program (List AckTask) := do
  match basis.tasks with
  | .ok tasks => return tasks
  | .error (.notARetrieval kind) =>
    note (.notARetrieval kind basis.location)
    return []
  | .error .notificationUnavailable =>
    note (.notificationUnavailable basis.location)
    return []
  | .error _ => return []

/-- Hand the acknowledgments of a retrieval to the lane. The notification is looked up only if there
are carrier settings, and the device's own number is asked for in any case. -/
def submitAcknowledgments
    (download : Download)
    (subscription : Subscription)
    (payload : Bytes)
    (pdu : Pdu) :
    Program Unit := do
  let credentials ← call (.relayCredentials subscription)
  let notification ←
    if credentials.isSome then loadNotification download.notificationUri
    else pure none
  let lineNumber ← call (.lineNumber subscription)
  let tasks ← decideTasks
    { subscription := subscription
      hasCredentials := credentials.isSome
      payload := payload
      pdu := pdu
      notification := notification
      location := download.location
      lineNumber := lineNumber }
  if tasks.isEmpty then pure ()
  else call (.submit tasks)

end MmsInbox.Receive
