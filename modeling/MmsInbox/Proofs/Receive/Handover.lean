import MmsInbox.Program.Assurance
import MmsInbox.Proofs.Receive.Course

namespace MmsInbox.Receive

/-!
# What a run hands to the lane

Whatever is answered and whoever panics, a run hands tasks to the lane at most once, and what it hands over
is what was decided on (`process_asksAtMost`). So the final acknowledgment of a run is always before the
response to the notification (`inTurn_of_leads`).
-/

open Program

/-- There is nothing to acknowledge, or the response to the notification comes last, after the final
acknowledgment if there is one. -/
def inTurn : List AckTask → Bool
  | [] => true
  | [response] => response.attempt.kind = .notificationResponse
  | [final, response] =>
      final.attempt.kind = .acknowledgment && response.attempt.kind = .notificationResponse
  | _ => false

/-- What is decided on comes in turn. -/
theorem inTurn_of_tasks
    {basis : AckBasis}
    {tasks : List AckTask}
    (decided : basis.tasks = .ok tasks) :
    inTurn tasks = true := by
  obtain ⟨retrieval, notification, _, rfl⟩ := acknowledgments_of_tasks decided
  rw [acknowledgments_eq]
  cases retrieval.transactionId? <;> rfl

section Bounds

variable
  {counted : Call → Bool}
  (others : ∀ call, isSubmit call = false → counted call = false)

include others

theorem call_unsubmitted
    {call : Call}
    (other : isSubmit call = false) :
    (Program.call call).AsksAtMost counted 0 :=
  .call_other (others call other) 0

omit others in
theorem perform_unsubmitted (action : Action) : (perform action).AsksAtMost counted 0 :=
  fun _ => trivial

omit others in
theorem takeIn_unsubmitted (path : String) : (takeIn path).AsksAtMost counted 0 := by
  refine .aside (perform_unsubmitted _) fun content => ?_
  refine .aside (perform_unsubmitted _) fun removal => ?_
  cases removal with
  | ok done => trivial
  | error cause =>
      dsimp only
      split
      · trivial
      · exact .aside (perform_unsubmitted _) fun _ => trivial

theorem markFailed_unsubmitted (location : String) :
    (markFailed location).AsksAtMost counted 0 := by
  refine .aside (call_unsubmitted others rfl) fun marked => ?_
  cases marked with
  | ok rows => trivial
  | error error => exact perform_unsubmitted _

theorem screen_unsubmitted
    (sender : Option String)
    (location : String) :
    (screen sender location).AsksAtMost counted 0 := by
  cases sender with
  | none => trivial
  | some address =>
      refine .aside (call_unsubmitted others rfl) fun blocked => ?_
      cases blocked with
      | false => trivial
      | true =>
          refine .aside (perform_unsubmitted _) fun _ => ?_
          refine .aside (call_unsubmitted others rfl) fun deleted => ?_
          cases deleted with
          | ok removed => exact .aside (perform_unsubmitted _) fun _ => trivial
          | error error => exact .aside (perform_unsubmitted _) fun _ => trivial

theorem loadNotification_unsubmitted (uri : Option String) :
    (loadNotification uri).AsksAtMost counted 0 := by
  cases uri with
  | none => trivial
  | some uri =>
      refine .aside (call_unsubmitted others rfl) fun loaded => ?_
      cases loaded with
      | ok notification => trivial
      | error error => exact .aside (perform_unsubmitted _) fun _ => trivial

theorem lookUp_unsubmitted
    (download : Download)
    (configured : Bool) :
    (lookUp download configured).AsksAtMost counted 0 := by
  unfold lookUp
  split
  · exact loadNotification_unsubmitted others _
  · trivial

theorem removeStale_unsubmitted
    (status : Option FetchStatus)
    (location : String) :
    (removeStale status location).AsksAtMost counted 0 := by
  cases status with
  | none => trivial
  | some status =>
      dsimp only [removeStale]
      split
      · refine .aside (call_unsubmitted others rfl) fun deleted => ?_
        cases deleted with
        | ok removed => exact .aside (perform_unsubmitted _) fun _ => trivial
        | error error => exact .aside (perform_unsubmitted _) fun _ => trivial
      · trivial

theorem report_unsubmitted
    (location : String)
    (outcome : Outcome) :
    (report location outcome).AsksAtMost counted 0 := by
  cases outcome with
  | received id => exact call_unsubmitted others rfl
  | failed error =>
      exact .aside (perform_unsubmitted _) fun _ => call_unsubmitted others rfl
  | blocked => trivial
  | aborted => trivial

variable
  {bound : Nat}
  (decided :
    ∀ basis tasks, AckBasis.tasks basis = .ok tasks →
      (Program.call (.submit tasks)).AsksAtMost counted bound)

include decided

omit others in
/-- What was decided on is handed over, unless there is nothing. -/
theorem submits_decided (basis : AckBasis) :
    AsksAtMost counted bound (do
      let tasks ← decideTasks basis
      if tasks.isEmpty then pure () else Program.call (.submit tasks)) := by
  unfold decideTasks
  split
  · rename_i tasks shape
    by_cases empty : tasks.isEmpty = true
    · rw [pure_bind, if_pos empty]
      trivial
    · rw [pure_bind, if_neg empty]
      exact decided basis tasks shape
  · exact fun _ => trivial
  · exact fun _ => trivial
  · trivial

/-- What is handed to the lane is what was decided on. -/
theorem submitAcknowledgments_asksAtMost
    (download : Download)
    (subscription : Subscription)
    (payload : Bytes)
    (pdu : Pdu) :
    (submitAcknowledgments download subscription payload pdu).AsksAtMost counted bound := by
  rw [submitAcknowledgments_eq]
  refine .aside (call_unsubmitted others rfl) fun credentials => ?_
  refine .aside (lookUp_unsubmitted others _ _) fun notification => ?_
  exact .aside (call_unsubmitted others rfl) fun lineNumber => submits_decided decided _

theorem receive_asksAtMost
    (download : Download)
    (subscription : Subscription) :
    (receive download subscription).AsksAtMost counted bound := by
  refine .aside (takeIn_unsubmitted _) fun content => ?_
  cases content with
  | error error => trivial
  | ok payload =>
      dsimp only
      split
      · exact .aside (markFailed_unsubmitted others _) fun _ => trivial
      · refine .aside (call_unsubmitted others rfl) fun parsed => ?_
        rcases parsed with error | retrieval | notification | kind
        · trivial
        · refine .aside (screen_unsubmitted others _ _) fun verdict => ?_
          cases verdict with
          | blocked => trivial
          | allowed =>
              refine .aside (call_unsubmitted others rfl) fun stored => ?_
              have submits :=
                submitAcknowledgments_asksAtMost others decided download subscription payload
                  (.retrieval retrieval)
              refine .before submits fun _ => ?_
              cases stored with
              | ok id => exact .aside (perform_unsubmitted _) fun _ => trivial
              | error error => trivial
        · trivial
        · trivial

/-- A run hands over what was decided on, once at most. -/
theorem process_asksAtMost
    (standard : Subscription)
    (download : Download) :
    (process standard download).AsksAtMost counted bound := by
  have received := receive_asksAtMost others decided download (download.subscription.getD standard)
  refine .before (received.catching fun panic => ?_) fun outcome => ?_
  · exact .aside (perform_unsubmitted _) fun _ => trivial
  · refine .aside (removeStale_unsubmitted others _ _) fun _ => ?_
    refine .aside (perform_unsubmitted _) fun _ => ?_
    exact .aside (report_unsubmitted others _ _) fun _ => trivial

end Bounds

section Courses

variable
  {standard : Subscription}
  {download : Download}
  {history : History}
  {rest : Program Outcome}

/-- On no course does a run hand tasks over twice. -/
theorem countP_isSubmit_le_one
    (leads : Leads (process standard download) history rest) :
    history.calls.countP isSubmit ≤ 1 :=
  (process_asksAtMost (fun _ => id) (fun _ _ _ => .call_once _) standard download).countP_calls_le
    leads

/-- Tasks that do not come in turn are handed over. -/
def isOutOfTurn : Call → Bool
  | .submit tasks => !inTurn tasks
  | _ => false

/-- On every course the tasks that a run hands over come in turn. -/
theorem inTurn_of_leads
    {tasks : List AckTask}
    (leads : Leads (process standard download) history rest)
    (submits : .submit tasks ∈ history.calls) :
    inTurn tasks = true := by
  have others : ∀ call, isSubmit call = false → isOutOfTurn call = false := by
    intro call other
    cases call <;> first | rfl | cases other
  have decided :
      ∀ basis tasks, AckBasis.tasks basis = .ok tasks →
        (Program.call (.submit tasks)).AsksAtMost isOutOfTurn 0 :=
    fun basis tasks shape => .call_other (by simp [isOutOfTurn, inTurn_of_tasks shape]) 0
  have never := (process_asksAtMost others decided standard download).countP_calls_le leads
  have inTurn := List.countP_eq_zero.mp (Nat.le_zero.mp never) _ submits
  simpa [isOutOfTurn] using inTurn

end Courses

end MmsInbox.Receive
