import MmsInbox.Pdu.Basic
import MmsInbox.Subscription

namespace MmsInbox

/-!
# Acknowledgment tasks

A retrieval is answered by up to two units: the final acknowledgment, if the relay put a transaction
id on the retrieval, and then the response to the stored notification. Nothing is sent for an empty
payload, without carrier settings, for a unit that is no retrieval, or without the stored
notification; the first of these that applies is the reason.
-/

/-- One acknowledgment. -/
inductive AckAttempt where
  | finalAcknowledgment (transactionId : String) (lineNumber : Option String)
  | notificationResponse (transactionId : String)
  deriving Repr, DecidableEq

namespace AckAttempt

/-- The kind of the unit that is sent. -/
def kind : AckAttempt → MessageType
  | .finalAcknowledgment .. => .acknowledgment
  | .notificationResponse _ => .notificationResponse

/-- The transaction that is acknowledged. -/
def transactionId : AckAttempt → String
  | .finalAcknowledgment transactionId _ => transactionId
  | .notificationResponse transactionId => transactionId

/-- The unit that is sent. -/
def pdu : AckAttempt → OutboundPdu
  | .finalAcknowledgment transactionId lineNumber =>
      .acknowledge transactionId lineNumber
  | .notificationResponse transactionId => .retrieved transactionId

end AckAttempt

/-- An acknowledgment with the message and the subscription it belongs to. -/
structure AckTask where
  attempt : AckAttempt
  /-- The content location of the acknowledged message. -/
  location : String
  subscription : Subscription
  deriving Repr, DecidableEq

namespace AckTask

/-- The kind of the unit that is sent, as it is reported. -/
def kindName (task : AckTask) : String :=
  task.attempt.kind.name

end AckTask

/-- What a run knows when it decides on its acknowledgments. -/
structure AckBasis where
  subscription : Subscription
  /-- Carrier settings exist for the subscription. -/
  hasCredentials : Bool
  payload : Bytes
  pdu : Pdu
  /-- The stored notification that the retrieval answers. -/
  notification : Option Notification
  location : String
  /-- The device's own number. -/
  lineNumber : Option String
  deriving DecidableEq

/-- Why a retrieval is not acknowledged. -/
inductive AckRefusal where
  | emptyPayload
  | noCredentials
  | notARetrieval (kind : MessageType)
  | notificationUnavailable
  deriving Repr, DecidableEq

namespace AckBasis

/-- The acknowledgments of a retrieval, or why there are none. -/
def tasks (basis : AckBasis) : Except AckRefusal (List AckTask) :=
  if basis.payload.isEmpty then .error .emptyPayload
  else if !basis.hasCredentials then .error .noCredentials
  else match basis.pdu with
    | .retrieval retrieval =>
      match basis.notification with
      | none => .error .notificationUnavailable
      | some notification =>
        let task := fun attempt => AckTask.mk attempt basis.location basis.subscription
        let final := retrieval.transactionId?.map fun transactionId =>
          task (.finalAcknowledgment transactionId basis.lineNumber)
        .ok (final.toList ++ [task (.notificationResponse notification.transactionId)])
    | other => .error (.notARetrieval other.messageType)

end AckBasis

end MmsInbox
