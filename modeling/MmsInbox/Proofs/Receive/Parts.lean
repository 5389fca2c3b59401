import MmsInbox.Receive.Run

namespace MmsInbox.Receive

/-!
# The parts of a run

Names for the parts of a run that are long or that come back in several arguments: what follows the look-up
of the carrier settings (`lookUp`, `handOver`), what is done with a retrieval that may come in (`keep`), and
what a run does after it has received (`conclude`). A run is put together from them by `rfl` or nearly so.
-/

open Program

/-- Look up the notification that a download answers, if there are carrier settings. -/
def lookUp
    (download : Download)
    (configured : Bool) :
    Program (Option Notification) :=
  if configured then loadNotification download.notificationUri else pure none

/-- Decide on the acknowledgments of a retrieval, once the notification has been looked up, and hand them
over. -/
def handOver
    (download : Download)
    (subscription : Subscription)
    (payload : Bytes)
    (pdu : Pdu)
    (configured : Bool)
    (notification : Option Notification) :
    Program Unit := do
  let lineNumber ← call (.lineNumber subscription)
  let tasks ← decideTasks
    { subscription := subscription
      hasCredentials := configured
      payload := payload
      pdu := pdu
      notification := notification
      location := download.location
      lineNumber := lineNumber }
  if tasks.isEmpty then pure () else call (.submit tasks)

theorem submitAcknowledgments_eq
    (download : Download)
    (subscription : Subscription)
    (payload : Bytes)
    (pdu : Pdu) :
    submitAcknowledgments download subscription payload pdu =
      call (.relayCredentials subscription) >>= fun credentials =>
        lookUp download credentials.isSome >>=
          handOver download subscription payload pdu credentials.isSome := by
  refine congrArg (call (.relayCredentials subscription) >>= ·) (funext fun credentials => ?_)
  cases credentials <;> rfl

/-- What a run does with a retrieval that may come in. -/
def keep
    (download : Download)
    (subscription : Subscription)
    (payload : Bytes)
    (retrieval : Retrieval) :
    Program Outcome := do
  let stored ← Program.call (.persist
    { raw := payload
      retrieval := retrieval
      location := download.location
      transactionId := download.transactionId
      subscription := subscription })
  submitAcknowledgments download subscription payload (.retrieval retrieval)
  match stored with
  | .ok id =>
    audit (.messageReceived id.text retrieval.sender? download.location payload.length)
    return .received id
  | .error error => return .failed (.persistence error)

/-- What a run does after it has received. -/
def conclude
    (download : Download)
    (outcome : Outcome) :
    Program Outcome := do
  let _ ← removeStale download.status download.location
  let _ ← perform (.finishDownload download.location)
  report download.location outcome
  return outcome

theorem process_eq
    (standard : Subscription)
    (download : Download) :
    process standard download =
      ((receive download (download.subscription.getD standard)).catching fun _ => do
        note (.runPanicked download.location)
        return .aborted) >>= conclude download :=
  rfl

end MmsInbox.Receive
