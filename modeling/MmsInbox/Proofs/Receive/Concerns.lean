import MmsInbox.Program.Passage
import MmsInbox.Proofs.Receive.Parts

namespace MmsInbox

/-!
# What a run concerns itself with

All that a run does concerns its own download: the file, the location, and the notification that the
download names (`Receive.process_keepsTo`). Each part of a run forwards panics, so nothing of it happens
after one (`Receive.receive_plain`).
-/

/-- The question is about nothing but a download. -/
def Call.Concerns
    (download : Download) :
    Call → Prop
  | .load uri => download.notificationUri = some uri
  | .deletePending location => location = download.location
  | .updateRetrieveStatus location _ => location = download.location
  | _ => True

/-- The action is about nothing but a download. -/
def Action.Concerns
    (download : Download) :
    Action → Prop
  | .readFile path => path = download.path
  | .removeFile path => path = download.path
  | .finishDownload location => location = download.location
  | _ => True

/-- What happens is about nothing but a download. -/
def Event.Concerns
    (download : Download) :
    Event → Prop
  | .answered call _ => call.Concerns download
  | .panicked call _ => call.Concerns download
  | .acted action _ => action.Concerns download

namespace Receive

open Program

section Concerns

variable {download : Download}

/-- A question that concerns a download, and whatever comes of it. -/
theorem call_plain
    {call : Call}
    (concerns : call.Concerns download) :
    (Program.call call).Plain (Event.Concerns download) :=
  .call (fun _ => concerns) fun _ => concerns

/-- An action that concerns a download, whatever it yields. -/
theorem perform_plain
    {action : Action}
    (concerns : action.Concerns download) :
    (perform action).Plain (Event.Concerns download) :=
  .perform fun _ => concerns

theorem note_plain (notice : Journal.Notice) :
    (note notice).Plain (Event.Concerns download) :=
  perform_plain trivial

theorem audit_plain (event : AuditEvent) :
    (audit event).Plain (Event.Concerns download) :=
  perform_plain trivial

theorem takeIn_plain : (takeIn download.path).Plain (Event.Concerns download) := by
  refine Plain.bind (perform_plain rfl) ?_
  intro content
  refine Plain.bind (perform_plain rfl) ?_
  intro removal
  cases removal with
  | ok removed => exact .done _
  | error cause =>
      dsimp only
      split
      · exact .done _
      · exact .bind (note_plain _) fun _ => .done _

theorem screen_plain (sender : Option String) :
    (screen sender download.location).Plain (Event.Concerns download) := by
  cases sender with
  | none => exact .done _
  | some address =>
      refine Plain.bind (call_plain trivial) ?_
      intro blocked
      cases blocked with
      | false => exact .done _
      | true =>
          refine Plain.bind (audit_plain _) ?_
          intro _
          refine Plain.bind (call_plain rfl) ?_
          intro deleted
          cases deleted with
          | ok removed => exact .bind (audit_plain _) fun _ => .done _
          | error error => exact .bind (note_plain _) fun _ => .done _

theorem removeStale_plain (status : Option FetchStatus) :
    (removeStale status download.location).Plain (Event.Concerns download) := by
  cases status with
  | none => exact .done _
  | some reported =>
      dsimp only [removeStale]
      split
      · refine Plain.bind (call_plain rfl) ?_
        intro deleted
        cases deleted with
        | ok removed => exact .bind (audit_plain _) fun _ => .done _
        | error error => exact .bind (note_plain _) fun _ => .done _
      · exact .done _

theorem markFailed_plain :
    (markFailed download.location).Plain (Event.Concerns download) := by
  refine Plain.bind (call_plain rfl) ?_
  intro marked
  cases marked with
  | ok count => exact .done _
  | error error => exact note_plain _

theorem loadNotification_plain :
    (loadNotification download.notificationUri).Plain (Event.Concerns download) := by
  cases named : download.notificationUri with
  | none => exact .done _
  | some uri =>
      refine Plain.bind (call_plain named) ?_
      intro loaded
      cases loaded with
      | ok notification => exact .done _
      | error error => exact .bind (note_plain _) fun _ => .done _

theorem decideTasks_plain (basis : AckBasis) :
    (decideTasks basis).Plain (Event.Concerns download) := by
  unfold decideTasks
  split
  · exact .done _
  · exact .bind (note_plain _) fun _ => .done _
  · exact .bind (note_plain _) fun _ => .done _
  · exact .done _

theorem lookUp_plain (configured : Bool) :
    (lookUp download configured).Plain (Event.Concerns download) := by
  unfold lookUp
  split
  · exact loadNotification_plain
  · exact .done _

theorem handOver_plain
    (subscription : Subscription)
    (payload : Bytes)
    (pdu : Pdu)
    (configured : Bool)
    (notification : Option Notification) :
    (handOver download subscription payload pdu configured notification).Plain
      (Event.Concerns download) := by
  refine Plain.bind (call_plain trivial) ?_
  intro lineNumber
  refine Plain.bind (decideTasks_plain _) ?_
  intro tasks
  split
  · exact .done _
  · exact call_plain trivial

theorem submitAcknowledgments_plain
    (subscription : Subscription)
    (payload : Bytes)
    (pdu : Pdu) :
    (submitAcknowledgments download subscription payload pdu).Plain (Event.Concerns download) := by
  rw [submitAcknowledgments_eq]
  refine Plain.bind (call_plain trivial) ?_
  intro credentials
  exact .bind (lookUp_plain _) (handOver_plain _ _ _ _)

/-- The first part of a run forwards panics; that is why nothing of it happens after one. -/
theorem receive_plain
    (download : Download)
    (subscription : Subscription) :
    (receive download subscription).Plain (Event.Concerns download) := by
  refine Plain.bind takeIn_plain ?_
  intro taken
  cases taken with
  | error error => exact .done _
  | ok payload =>
      dsimp only
      split
      · exact .bind markFailed_plain fun _ => .done _
      · refine Plain.bind (call_plain trivial) ?_
        intro parsed
        split
        · exact .done _
        · refine Plain.bind (screen_plain _) ?_
          intro verdict
          cases verdict with
          | blocked => exact .done _
          | allowed =>
              refine Plain.bind (call_plain trivial) ?_
              intro stored
              refine Plain.bind (submitAcknowledgments_plain _ _ _) ?_
              intro _
              cases stored with
              | ok id => exact .bind (audit_plain _) fun _ => .done _
              | error error => exact .done _
        · exact .done _

theorem report_plain (outcome : Outcome) :
    (report download.location outcome).Plain (Event.Concerns download) := by
  cases outcome with
  | received id => exact call_plain trivial
  | failed error => exact .bind (note_plain _) fun _ => call_plain trivial
  | blocked => exact .done _
  | aborted => exact .done _

theorem conclude_plain
    (download : Download)
    (outcome : Outcome) :
    (conclude download outcome).Plain (Event.Concerns download) := by
  refine Plain.bind (removeStale_plain _) ?_
  intro removed
  refine Plain.bind (perform_plain rfl) ?_
  intro began
  exact .bind (report_plain _) fun _ => .done _

/-- All that a run does concerns its own download. -/
theorem process_keepsTo
    (standard : Subscription)
    (download : Download) :
    (process standard download).KeepsTo (Event.Concerns download) := by
  have received := receive_plain download (download.subscription.getD standard)
  have noted : Plain (Event.Concerns download) (do
      note (.runPanicked download.location)
      return Outcome.aborted) :=
    .bind (note_plain _) fun _ => .done _
  rw [process_eq]
  refine KeepsTo.bind (.catching received.keeps fun _ => noted.keeps) ?_
  intro outcome
  exact (conclude_plain download outcome).keeps

end Concerns

end Receive

end MmsInbox
