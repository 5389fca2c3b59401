import MmsInbox.MessageId.Base32
import MmsInbox.Receive.Steps

namespace MmsInbox.Receive

/-!
# A run

A run takes in a finished download: it reads and removes the file, decodes the retrieval, screens the
sender, stores the message and hands its acknowledgments to the lane. Whatever came of that, it then
removes stale notifications, takes the location off the downloads in flight and reports the outcome.

A panic in the first part is caught, and the run goes on with the second part. A panic in the second
part ends the run; whoever waits for its completion then sees an aborted run.
-/

open Program

/-- The first part of a run: up to and including the hand-over of the acknowledgments. The
acknowledgments are handed over before the result of storing is looked at. -/
def receive
    (download : Download)
    (subscription : Subscription) :
    Program Outcome := do
  match ← takeIn download.path with
  | .error error => return .failed (.intake error)
  | .ok payload =>
    if payload.isEmpty then
      markFailed download.location
      return .failed (.decode .empty)
    else
      match ← call (.parse payload) with
      | .error error => return .failed (.decode (.malformed error))
      | .ok (.retrieval retrieval) =>
        match ← screen retrieval.sender? download.location with
        | .blocked => return .blocked
        | .allowed =>
          let stored ← call (.persist
            { raw := payload
              retrieval := retrieval
              location := download.location
              transactionId := download.transactionId
              subscription := subscription })
          submitAcknowledgments download subscription payload (.retrieval retrieval)
          match stored with
          | .ok id =>
            audit (.messageReceived id.text retrieval.sender? download.location payload.length)
            return .received id
          | .error error => return .failed (.persistence error)
      | .ok other => return .failed (.decode (.unexpectedKind other.messageType))

/-- Tell the application how a run ended. -/
def report
    (location : String) :
    Outcome → Program Unit
  | .received id => call (.onMessageReceived id)
  | .failed error => do
    note (.receiveFailed location error)
    call (.onError error)
  | .blocked => pure ()
  | .aborted => pure ()

/-- A run for a download, with the subscription that is used if the download names none. -/
def process
    (standard : Subscription)
    (download : Download) :
    Program Outcome := do
  let subscription := download.subscription.getD standard
  let outcome ← (receive download subscription).catching fun _ => do
    note (.runPanicked download.location)
    return .aborted
  let _ ← removeStale download.status download.location
  let _ ← perform (.finishDownload download.location)
  report download.location outcome
  return outcome

/-- What the completion of a run resolves to: a run that ended in a panic counts as aborted. -/
def completion : Except Panic Outcome → Outcome
  | .ok outcome => outcome
  | .error _ => .aborted

end MmsInbox.Receive
