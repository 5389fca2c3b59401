import MmsInbox.Ack.Error
import MmsInbox.Ack.Task
import MmsInbox.Audit
import MmsInbox.Journal.Level
import MmsInbox.Receive.Error
import MmsInbox.Signal

namespace MmsInbox.Journal

/-!
# Notices

What the engine writes into its journal. Each kind of notice has a level, a text and named fields;
an audit record is a notice as well.
-/

/-- The value of a field. -/
inductive FieldValue where
  | text (value : String)
  | number (value : Nat)
  | flag (value : Bool)
  deriving Repr, DecidableEq

/-- Something that the engine writes into its journal. -/
inductive Notice where
  | audited (event : AuditEvent)
  | relaySettingsMissing (subscription : Subscription)
  | acknowledgmentFailed (task : AckTask) (error : AckError)
  | laneClosed (task : AckTask)
  | droppedAtShutdown (task : AckTask)
  | laneLostSignals (loss : SignalLoss)
  | receptionLostSignals (loss : SignalLoss)
  | laneEndedAbnormally (reason : String)
  | notARetrieval (kind : MessageType) (location : String)
  | notificationUnavailable (location : String)
  | notificationNotLoaded (uri : String) (error : StoreError)
  | runPanicked (location : String)
  | receiveFailed (location : String) (error : ReceiveError)
  | failureNotMarked (location : String) (error : StoreError)
  | blockedNotRemoved (location : String) (error : StoreError)
  | staleNotRemoved (location : String) (error : StoreError)
  | downloadNotRemoved (path : String) (error : File.Error)
  deriving Repr, DecidableEq

/-- The level, the text and the fields under which an audit record is written. -/
def auditEntry : AuditEvent → Level × String × List (String × FieldValue)
  | .messageReceived messageId sender location size =>
      (.info, "Audit: Message received and persisted",
        [("event", .text "MessageReceived"), ("message_id", .text messageId),
          ("sender", .text (sender.getD "<unknown>")), ("location", .text location),
          ("size", .number size)])
  | .senderBlocked sender location =>
      (.info, "Audit: Message from blocked sender dropped",
        [("event", .text "SenderBlocked"), ("sender", .text sender),
          ("location", .text location)])
  | .notificationRemoved location reason removed =>
      (.info, "Audit: Pending notification removed",
        [("event", .text "PendingNotificationRemoved"), ("location", .text location),
          ("reason", .text reason), ("removed", .number removed)])
  | .acknowledgmentSent kind destination status direct =>
      (.info, "Audit: Acknowledgment sent",
        [("event", .text "AcknowledgmentSent"), ("kind", .text kind),
          ("destination", .text destination), ("status", .number status.toNat),
          ("direct", .flag direct)])
  | .acknowledgmentFailed kind location error =>
      (.warn, "Audit: Acknowledgment failed",
        [("event", .text "AcknowledgmentFailed"), ("kind", .text kind),
          ("location", .text location), ("error", .text error)])

/-- The fields that name a task. -/
def taskFields (task : AckTask) : List (String × FieldValue) :=
  [("kind", .text task.kindName), ("location", .text task.location)]

namespace Notice

/-- The level, the text and the fields under which a notice is written. -/
def entry : Notice → Level × String × List (String × FieldValue)
  | .audited event => auditEntry event
  | .relaySettingsMissing subscription =>
      (.info, "No relay settings, acknowledgment skipped",
        [("subscription", .text subscription.text)])
  | .acknowledgmentFailed task error =>
      (.warn, "Acknowledgment failed", taskFields task ++ [("error", .text error.message)])
  | .laneClosed task =>
      (.warn, "Acknowledgment lane closed, task dropped", taskFields task)
  | .droppedAtShutdown task =>
      (.warn, "Acknowledgment not sent before shutdown", taskFields task)
  | .laneLostSignals loss =>
      (.error, "Acknowledgment lane shutdown channel error: " ++ loss.message, [])
  | .receptionLostSignals loss =>
      (.error, "Receiver shutdown channel error: " ++ loss.message, [])
  | .laneEndedAbnormally reason =>
      (.error,
        "Acknowledgment lane ended abnormally: task panicked with message \"" ++ reason ++ "\"",
        [])
  | .notARetrieval kind location =>
      (.warn, "Not a retrieval, no acknowledgments",
        [("kind", .text kind.name), ("location", .text location)])
  | .notificationUnavailable location =>
      (.warn, "Stored notification unavailable, no acknowledgments",
        [("location", .text location)])
  | .notificationNotLoaded uri error =>
      (.warn, "Unable to load stored notification",
        [("uri", .text uri), ("error", .text error.message)])
  | .runPanicked location =>
      (.error, "Receive workflow panicked", [("location", .text location)])
  | .receiveFailed location error =>
      (.warn, "Receive failed",
        [("location", .text location), ("error", .text error.message)])
  | .failureNotMarked location error =>
      (.error, "Failed to mark notification as failed",
        [("location", .text location), ("error", .text error.message)])
  | .blockedNotRemoved location error =>
      (.error, "Failed to remove notification for blocked sender",
        [("location", .text location), ("error", .text error.message)])
  | .staleNotRemoved location error =>
      (.error, "Failed to remove stale notification",
        [("location", .text location), ("error", .text error.message)])
  | .downloadNotRemoved path error =>
      (.warn, "Failed to remove transient download",
        [("path", .text path), ("error", .text error.message)])

/-- The level of a notice. -/
def level (notice : Notice) : Level :=
  notice.entry.1

/-- The text of a notice. -/
def message (notice : Notice) : String :=
  notice.entry.2.1

/-- The fields of a notice. -/
def fields (notice : Notice) : List (String × FieldValue) :=
  notice.entry.2.2

end Notice

end MmsInbox.Journal
