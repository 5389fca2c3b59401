import MmsInbox.Proofs.Receive.Concerns
import MmsInbox.Proofs.Receive.Summary

namespace MmsInbox

/-!
# The course of a calm run

What happens in a run in which no collaborator panics, part by part: for each part of a run there is one
relation that lists what can happen in it, and one lemma that says that nothing else does. A whole run is
received, then cleaned up after, released and reported (`Receive.Runs`, `Receive.runs_of_leads`).
-/

open Program

/-- Something was written into the journal. -/
def Event.isNote : Event → Bool
  | .acted (.note _) _ => true
  | _ => false

/-- Nothing but the journal was written. -/
def History.JustNotes (history : History) : Prop :=
  ∀ event ∈ history, event.isNote = true

namespace History.JustNotes

variable {notes : History}

theorem nil : JustNotes [] := by
  simp [JustNotes]

theorem single (notice : Journal.Notice) : JustNotes [.acted (.note notice) ()] := by
  simp [JustNotes, Event.isNote]

/-- What is no note is not among notes. -/
theorem not_mem
    (justNotes : notes.JustNotes)
    {event : Event}
    (other : event.isNote = false) :
    event ∉ notes :=
  fun member => by simp [justNotes event member] at other

theorem calls_eq_nil (justNotes : notes.JustNotes) : notes.calls = [] := by
  refine List.filterMap_eq_nil_iff.mpr fun event member => ?_
  have isNote := justNotes event member
  cases event with
  | answered call answer => cases isNote
  | panicked call panic => cases isNote
  | acted action answer => rfl

end History.JustNotes

namespace Receive

/-- What happens while a file is taken in: it is read and removed. -/
def TakesIn
    (path : String)
    (content : Except File.Error Bytes)
    (history : History) :
    Prop :=
  ∃ (removal : Except File.Error Unit) (notes : History),
    notes.JustNotes ∧
      history = .acted (.readFile path) content :: .acted (.removeFile path) removal :: notes

/-- What happens while the pending notifications of a location are deleted for a reason. -/
inductive Deletes (location reason : String) : History → Prop where
  | removed (count : Nat) :
      Deletes location reason
        [.answered (.deletePending location) (.ok count),
          .acted (.audit (.notificationRemoved location reason count)) ()]
  | failed
      (error : StoreError)
      (notice : Journal.Notice) :
      Deletes location reason
        [.answered (.deletePending location) (.error error), .acted (.note notice) ()]

/-- What happens while a sender is screened. -/
inductive Screens
    (sender : Option String)
    (location : String) :
    Verdict → History → Prop where
  | anonymous (unknown : sender = none) :
      Screens sender location .allowed []
  | admitted
      {address : String}
      (known : sender = some address) :
      Screens sender location .allowed [.answered (.isAddressBlocked address) false]
  | blocked
      {address : String}
      {deleting : History}
      (known : sender = some address)
      (deletes : Deletes location "blocked" deleting) :
      Screens sender location .blocked
        (.answered (.isAddressBlocked address) true ::
          .acted (.audit (.senderBlocked address location)) () :: deleting)

/-- What happens while the notifications of an empty download are marked. -/
def Marks
    (location : String)
    (history : History) :
    Prop :=
  ∃ (result : Except StoreError Nat) (notes : History),
    notes.JustNotes ∧
      history = .answered (.updateRetrieveStatus location errorRetrieveStatus) result :: notes

/-- The acknowledgments of a retrieval that answers a notification: the final acknowledgment if the relay
has put a transaction id on the retrieval, and then the response to the notification. -/
def acknowledgments
    (location : String)
    (subscription : Subscription)
    (retrieval : Retrieval)
    (lineNumber : Option String)
    (notification : Notification) :
    List AckTask :=
  (match retrieval.transactionId with
    | some id =>
        if id = "" then []
        else [⟨.finalAcknowledgment id lineNumber, location, subscription⟩]
    | none => []) ++
    [⟨.notificationResponse notification.transactionId, location, subscription⟩]

/-- What happens while the acknowledgments of a retrieval are handed over. -/
inductive Acknowledges
    (location : String)
    (subscription : Subscription)
    (uri : Option String)
    (retrieval : Retrieval) :
    History → Prop where
  /-- There are no carrier settings. -/
  | unconfigured
      {notes : History}
      (lineNumber : Option String)
      (justNotes : notes.JustNotes) :
      Acknowledges location subscription uri retrieval
        (.answered (.relayCredentials subscription) none ::
          .answered (.lineNumber subscription) lineNumber :: notes)
  /-- The download names no notification. -/
  | unnamed
      {notes : History}
      (credentials : RelayCredentials)
      (lineNumber : Option String)
      (nameless : uri = none)
      (justNotes : notes.JustNotes) :
      Acknowledges location subscription uri retrieval
        (.answered (.relayCredentials subscription) (some credentials) ::
          .answered (.lineNumber subscription) lineNumber :: notes)
  /-- The notification cannot be loaded. -/
  | unavailable
      {named : String}
      {notes more : History}
      (credentials : RelayCredentials)
      (error : StoreError)
      (lineNumber : Option String)
      (name : uri = some named)
      (justNotes : notes.JustNotes)
      (justMore : more.JustNotes) :
      Acknowledges location subscription uri retrieval
        (.answered (.relayCredentials subscription) (some credentials) ::
          .answered (.load named) (.error error) ::
            (notes ++ .answered (.lineNumber subscription) lineNumber :: more))
  | submitted
      {named : String}
      (credentials : RelayCredentials)
      (notification : Notification)
      (lineNumber : Option String)
      (name : uri = some named) :
      Acknowledges location subscription uri retrieval
        [.answered (.relayCredentials subscription) (some credentials),
          .answered (.load named) (.ok notification),
          .answered (.lineNumber subscription) lineNumber,
          .answered
            (.submit (acknowledgments location subscription retrieval lineNumber notification)) ()]

/-- What happens in the first part of a run, and the outcome that it comes to. -/
inductive Receives
    (download : Download)
    (subscription : Subscription) :
    Outcome → History → Prop where
  | unread
      {cause : File.Error}
      {taking : History}
      (takes : TakesIn download.path (.error cause) taking) :
      Receives download subscription (.failed (.intake ⟨download.path, cause⟩)) taking
  | empty
      {taking marking : History}
      (takes : TakesIn download.path (.ok []) taking)
      (marks : Marks download.location marking) :
      Receives download subscription (.failed (.decode .empty)) (taking ++ marking)
  | malformed
      {payload : Bytes}
      {error : CodecError}
      {taking : History}
      (takes : TakesIn download.path (.ok payload) taking)
      (nonempty : payload ≠ []) :
      Receives download subscription (.failed (.decode (.malformed error)))
        (taking ++ [.answered (.parse payload) (.error error)])
  | unexpected
      {payload : Bytes}
      {pdu : Pdu}
      {taking : History}
      (takes : TakesIn download.path (.ok payload) taking)
      (nonempty : payload ≠ [])
      (other : ∀ retrieval, pdu ≠ .retrieval retrieval) :
      Receives download subscription (.failed (.decode (.unexpectedKind pdu.messageType)))
        (taking ++ [.answered (.parse payload) (.ok pdu)])
  | blocked
      {payload : Bytes}
      {retrieval : Retrieval}
      {taking screening : History}
      (takes : TakesIn download.path (.ok payload) taking)
      (nonempty : payload ≠ [])
      (screens : Screens retrieval.sender? download.location .blocked screening) :
      Receives download subscription .blocked
        (taking ++ .answered (.parse payload) (.ok (.retrieval retrieval)) :: screening)
  | unstored
      {payload : Bytes}
      {retrieval : Retrieval}
      {error : StoreError}
      {taking screening acknowledging : History}
      (takes : TakesIn download.path (.ok payload) taking)
      (nonempty : payload ≠ [])
      (screens : Screens retrieval.sender? download.location .allowed screening)
      (acknowledges :
        Acknowledges download.location subscription download.notificationUri retrieval
          acknowledging) :
      Receives download subscription (.failed (.persistence error))
        (taking ++ .answered (.parse payload) (.ok (.retrieval retrieval)) ::
          (screening ++
            .answered
              (.persist
                (recordOf download.location download.transactionId subscription payload retrieval))
              (.error error) :: acknowledging))
  | stored
      {payload : Bytes}
      {retrieval : Retrieval}
      {id : MessageId}
      {taking screening acknowledging : History}
      (takes : TakesIn download.path (.ok payload) taking)
      (nonempty : payload ≠ [])
      (screens : Screens retrieval.sender? download.location .allowed screening)
      (acknowledges :
        Acknowledges download.location subscription download.notificationUri retrieval
          acknowledging) :
      Receives download subscription (.received id)
        (taking ++ .answered (.parse payload) (.ok (.retrieval retrieval)) ::
          (screening ++
            .answered
              (.persist
                (recordOf download.location download.transactionId subscription payload retrieval))
              (.ok id) ::
              (acknowledging ++
                [.acted
                  (.audit
                    (.messageReceived id.text retrieval.sender? download.location payload.length))
                  ()])))

/-- What happens while stale notifications are removed. -/
inductive Cleans
    (status : Option FetchStatus)
    (location : String) :
    History → Prop where
  | spared (current : ∀ reported ∈ status, reported.isStale = false) :
      Cleans status location []
  | deleted
      {reported : FetchStatus}
      {deleting : History}
      (reports : status = some reported)
      (stale : reported.isStale = true)
      (deletes : Deletes location reported.text deleting) :
      Cleans status location deleting

/-- What happens while an outcome is reported. -/
inductive Reports (location : String) : Outcome → History → Prop where
  | received (id : MessageId) :
      Reports location (.received id) [.answered (.onMessageReceived id) ()]
  | failed (error : ReceiveError) :
      Reports location (.failed error)
        [.acted (.note (.receiveFailed location error)) (), .answered (.onError error) ()]
  | blocked : Reports location .blocked []
  | aborted : Reports location .aborted []

/-- What happens in a run, and the outcome that it comes to. -/
inductive Runs
    (download : Download)
    (subscription : Subscription) :
    Outcome → History → Prop where
  | ran
      {outcome : Outcome}
      {receiving cleaning reporting : History}
      (began : Option Nat)
      (receives : Receives download subscription outcome receiving)
      (cleans : Cleans download.status download.location cleaning)
      (reports : Reports download.location outcome reporting) :
      Runs download subscription outcome
        (receiving ++
          (cleaning ++ .acted (.finishDownload download.location) began :: reporting))

section Kinds

variable
  {location : String}
  {history : History}

/-- Something is done with a file. -/
def isIntake (event : Event) : Bool :=
  event.isNote ||
    match event with
    | .acted (.readFile _) _ => true
    | .acted (.removeFile _) _ => true
    | _ => false

/-- Pending notifications are deleted. -/
def isDeletion (event : Event) : Bool :=
  event.isNote ||
    match event with
    | .answered (.deletePending _) _ => true
    | .acted (.audit _) _ => true
    | _ => false

/-- Acknowledgments are prepared and handed over. -/
def isAcknowledging (event : Event) : Bool :=
  event.isNote ||
    match event with
    | .answered (.relayCredentials _) _ => true
    | .answered (.load _) _ => true
    | .answered (.lineNumber _) _ => true
    | .answered (.submit _) _ => true
    | _ => false

/-- The application is told. -/
def isReporting (event : Event) : Bool :=
  event.isNote ||
    match event with
    | .answered (.onMessageReceived _) _ => true
    | .answered (.onError _) _ => true
    | _ => false

theorem TakesIn.kind
    {path : String}
    {content : Except File.Error Bytes}
    (takes : TakesIn path content history) :
    ∀ event ∈ history, isIntake event = true := by
  obtain ⟨removal, notes, justNotes, rfl⟩ := takes
  simp only [List.forall_mem_cons]
  exact ⟨rfl, rfl, fun event member => by simp [isIntake, justNotes event member]⟩

theorem TakesIn.calls_eq_nil
    {path : String}
    {content : Except File.Error Bytes}
    (takes : TakesIn path content history) :
    history.calls = [] := by
  obtain ⟨removal, notes, justNotes, rfl⟩ := takes
  simp [justNotes.calls_eq_nil]

theorem Deletes.kind
    {reason : String}
    (deletes : Deletes location reason history) :
    ∀ event ∈ history, isDeletion event = true := by
  cases deletes <;> simp [isDeletion, Event.isNote]

theorem Cleans.kind
    {status : Option FetchStatus}
    (cleans : Cleans status location history) :
    ∀ event ∈ history, isDeletion event = true := by
  cases cleans with
  | spared current => simp
  | deleted reports stale deletes => exact deletes.kind

/-- Nothing is deleted unless the fetch was stale, and then it is. -/
theorem Cleans.spared_or_deleted
    {status : Option FetchStatus}
    (cleans : Cleans status location history) :
    ¬(status = some ⟨400⟩ ∨ status = some ⟨404⟩) ∧ history = [] ∨
      (status = some ⟨400⟩ ∨ status = some ⟨404⟩) ∧ ∃ reason, Deletes location reason history := by
  cases cleans with
  | spared current =>
      refine .inl ⟨?_, rfl⟩
      rintro (rfl | rfl)
      all_goals exact absurd (current _ rfl) (by decide)
  | deleted reports stale deletes =>
      refine .inr ⟨?_, _, deletes⟩
      simpa [reports] using FetchStatus.isStale_iff.mp stale

theorem Marks.kind (marks : Marks location history) :
    ∀ event ∈ history,
      event.isNote = true ∨
        ∃ result, event = .answered (.updateRetrieveStatus location errorRetrieveStatus) result := by
  obtain ⟨result, notes, justNotes, rfl⟩ := marks
  simp only [List.forall_mem_cons]
  exact ⟨.inr ⟨result, rfl⟩, fun event member => .inl (justNotes event member)⟩

theorem Acknowledges.kind
    {subscription : Subscription}
    {uri : Option String}
    {retrieval : Retrieval}
    (acknowledges : Acknowledges location subscription uri retrieval history) :
    ∀ event ∈ history, isAcknowledging event = true := by
  have notes : ∀ {notes : History}, notes.JustNotes → ∀ event ∈ notes, isAcknowledging event = true :=
    fun justNotes event member => by simp [isAcknowledging, justNotes event member]
  cases acknowledges with
  | unconfigured lineNumber justNotes =>
      simp only [List.forall_mem_cons]
      exact ⟨rfl, rfl, notes justNotes⟩
  | unnamed credentials lineNumber nameless justNotes =>
      simp only [List.forall_mem_cons]
      exact ⟨rfl, rfl, notes justNotes⟩
  | unavailable credentials error lineNumber name justNotes justMore =>
      simp only [List.forall_mem_cons, List.forall_mem_append]
      exact ⟨rfl, rfl, notes justNotes, rfl, notes justMore⟩
  | submitted credentials notification lineNumber name =>
      simp [isAcknowledging]

theorem Reports.kind
    {outcome : Outcome}
    (reports : Reports location outcome history) :
    ∀ event ∈ history, isReporting event = true := by
  cases reports <;> simp [isReporting, Event.isNote]

/-- What is of another kind than all of a history is not in it. -/
theorem not_mem_of_kind
    {kind : Event → Bool}
    (all : ∀ event ∈ history, kind event = true)
    {event : Event}
    (other : kind event = false) :
    event ∉ history :=
  fun member => by simp [all event member] at other

end Kinds

section Inversion

variable
  {location : String}
  {history : History}

theorem takesIn_of_leads
    {path : String}
    {taken : Except IntakeError Bytes}
    (leads : Leads (takeIn path) history (.done taken)) :
    ∃ content, taken = content.mapError (⟨path, ·⟩) ∧ TakesIn path content history := by
  obtain ⟨content, rest, rfl, afterReading⟩ := leads_perform_bind.mp leads
  obtain ⟨removal, notes, rfl, afterRemoving⟩ := leads_perform_bind.mp afterReading
  have journal : taken = content.mapError (⟨path, ·⟩) ∧ History.JustNotes notes := by
    cases removal with
    | ok done =>
        obtain ⟨rfl, same⟩ := leads_done_done.mp afterRemoving
        exact ⟨same, .nil⟩
    | error cause =>
        dsimp only at afterRemoving
        split at afterRemoving
        · obtain ⟨rfl, same⟩ := leads_done_done.mp afterRemoving
          exact ⟨same, .nil⟩
        · obtain ⟨_, rest, rfl, afterNoting⟩ := leads_perform_bind.mp afterRemoving
          obtain ⟨rfl, same⟩ := leads_done_done.mp afterNoting
          exact ⟨same, .single _⟩
  exact ⟨content, journal.1, removal, notes, journal.2, rfl⟩

theorem marks_of_leads (leads : Leads (markFailed location) history (.done ())) :
    Marks location history := by
  obtain ⟨result, notes, rfl, afterMarking⟩ := leads_call_bind.mp leads
  refine ⟨result, notes, ?_, rfl⟩
  cases result with
  | ok rows =>
      obtain ⟨rfl, _⟩ := leads_done.mp afterMarking
      exact .nil
  | error error =>
      obtain rfl := leads_perform_done.mp afterMarking
      exact .single _

theorem screens_of_leads
    {sender : Option String}
    {verdict : Verdict}
    (leads : Leads (screen sender location) history (.done verdict)) :
    Screens sender location verdict history := by
  cases sender with
  | none =>
      obtain ⟨rfl, rfl⟩ := leads_done_done.mp leads
      exact .anonymous rfl
  | some address =>
      obtain ⟨blocked, rest, rfl, afterAsking⟩ := leads_call_bind.mp leads
      cases blocked with
      | false =>
          obtain ⟨rfl, rfl⟩ := leads_done_done.mp afterAsking
          exact .admitted rfl
      | true =>
          obtain ⟨_, rest, rfl, afterAudit⟩ := leads_perform_bind.mp afterAsking
          obtain ⟨deleted, rest, rfl, afterDeleting⟩ := leads_call_bind.mp afterAudit
          cases deleted with
          | ok count =>
              obtain ⟨_, rest, rfl, afterTelling⟩ := leads_perform_bind.mp afterDeleting
              obtain ⟨rfl, rfl⟩ := leads_done_done.mp afterTelling
              exact .blocked rfl (.removed count)
          | error error =>
              obtain ⟨_, rest, rfl, afterNoting⟩ := leads_perform_bind.mp afterDeleting
              obtain ⟨rfl, rfl⟩ := leads_done_done.mp afterNoting
              exact .blocked rfl (.failed error _)

/-- What is decided on is handed over. -/
theorem handsOver_of_leads
    {basis : AckBasis}
    {tasks : List AckTask}
    (decided : basis.tasks = .ok tasks)
    (something : tasks ≠ [])
    (leads :
      Leads
        (do
          let tasks ← decideTasks basis
          if tasks.isEmpty then pure () else call (.submit tasks))
        history (.done ())) :
    history = [.answered (.submit tasks) ()] := by
  unfold decideTasks at leads
  rw [decided, pure_bind, if_neg (by simpa using something)] at leads
  exact leads_call_done.mp leads

/-- If nothing can be decided on, at most a note is made of it. -/
theorem justNotes_of_leads
    {basis : AckBasis}
    (refusal : AckRefusal)
    (refused : basis.tasks = .error refusal)
    (leads :
      Leads
        (do
          let tasks ← decideTasks basis
          if tasks.isEmpty then pure () else call (.submit tasks))
        history (.done ())) :
    history.JustNotes := by
  obtain ⟨tasks, notes, rest, rfl, decides, hands⟩ := leads_bind_done.mp leads
  have nothing : tasks = [] ∧ notes.JustNotes := by
    unfold decideTasks at decides
    rw [refused] at decides
    cases refusal with
    | emptyPayload | noCredentials =>
        obtain ⟨rfl, same⟩ := leads_done_done.mp decides
        exact ⟨same, .nil⟩
    | notARetrieval | notificationUnavailable =>
        obtain ⟨_, rest, rfl, afterNoting⟩ := leads_perform_bind.mp decides
        obtain ⟨rfl, same⟩ := leads_done_done.mp afterNoting
        exact ⟨same, .single _⟩
  obtain ⟨rfl, justNotes⟩ := nothing
  obtain ⟨rfl, _⟩ := leads_done.mp hands
  simpa using justNotes

theorem acknowledgments_eq
    (location : String)
    (subscription : Subscription)
    (retrieval : Retrieval)
    (lineNumber : Option String)
    (notification : Notification) :
    acknowledgments location subscription retrieval lineNumber notification =
      (retrieval.transactionId?.map fun id =>
        AckTask.mk (.finalAcknowledgment id lineNumber) location subscription).toList ++
        [⟨.notificationResponse notification.transactionId, location, subscription⟩] := by
  unfold acknowledgments Retrieval.transactionId?
  cases retrieval.transactionId with
  | none => rfl
  | some id => by_cases empty : id = "" <;> simp [nonEmpty?, Option.filter, empty]

/-- All acknowledgments of a retrieval are about one location. -/
theorem location_of_acknowledgments
    {location : String}
    {subscription : Subscription}
    {retrieval : Retrieval}
    {lineNumber : Option String}
    {notification : Notification}
    {task : AckTask}
    (member : task ∈ acknowledgments location subscription retrieval lineNumber notification) :
    task.location = location := by
  rw [acknowledgments_eq, List.mem_append, Option.mem_toList, Option.map_eq_some_iff,
    List.mem_singleton] at member
  rcases member with ⟨id, _, rfl⟩ | rfl
  · rfl
  · rfl

/-- The acknowledgments of a retrieval that answers a notification are decided on. -/
theorem tasks_eq_acknowledgments
    (subscription : Subscription)
    {payload : Bytes}
    (nonempty : payload ≠ [])
    (retrieval : Retrieval)
    (notification : Notification)
    (lineNumber : Option String) :
    AckBasis.tasks
        { subscription := subscription
          hasCredentials := true
          payload := payload
          pdu := .retrieval retrieval
          notification := some notification
          location := location
          lineNumber := lineNumber } =
      .ok (acknowledgments location subscription retrieval lineNumber notification) := by
  rw [acknowledgments_eq, AckBasis.tasks, if_neg (by simpa using nonempty)]
  rfl

/-- What is decided on are the acknowledgments of a retrieval that answers a notification. -/
theorem acknowledgments_of_tasks
    {basis : AckBasis}
    {tasks : List AckTask}
    (decided : basis.tasks = .ok tasks) :
    ∃ retrieval notification,
      basis.notification = some notification ∧
        tasks =
          acknowledgments basis.location basis.subscription retrieval basis.lineNumber
            notification := by
  unfold AckBasis.tasks at decided
  split at decided
  · cases decided
  · split at decided
    · cases decided
    · split at decided
      · rename_i retrieval _
        split at decided
        · cases decided
        · rename_i notification found
          cases Except.ok.inj decided
          exact ⟨retrieval, notification, found, (acknowledgments_eq ..).symm⟩
      · cases decided

theorem acknowledges_of_leads
    {download : Download}
    {subscription : Subscription}
    {payload : Bytes}
    {retrieval : Retrieval}
    (nonempty : payload ≠ [])
    (leads :
      Leads (submitAcknowledgments download subscription payload (.retrieval retrieval)) history
        (.done ())) :
    Acknowledges download.location subscription download.notificationUri retrieval history := by
  obtain ⟨credentials, rest, rfl, afterAsking⟩ := leads_call_bind.mp leads
  cases credentials with
  | none =>
      dsimp only at afterAsking
      rw [if_neg (by decide), pure_bind] at afterAsking
      obtain ⟨lineNumber, rest, rfl, hands⟩ := leads_call_bind.mp afterAsking
      exact .unconfigured lineNumber
        (justNotes_of_leads .noCredentials (by simp [AckBasis.tasks, nonempty]) hands)
  | some credentials =>
      dsimp only at afterAsking
      rw [if_pos (by rfl)] at afterAsking
      obtain ⟨notification, loading, rest, rfl, loads, afterLoading⟩ :=
        leads_bind_done.mp afterAsking
      obtain ⟨lineNumber, handing, rfl, hands⟩ := leads_call_bind.mp afterLoading
      cases named : download.notificationUri with
      | none =>
          rw [named] at loads
          obtain ⟨rfl, rfl⟩ := leads_done_done.mp loads
          exact .unnamed credentials lineNumber rfl
            (justNotes_of_leads .notificationUnavailable (by simp [AckBasis.tasks, nonempty]) hands)
      | some uri =>
          rw [named] at loads
          obtain ⟨loaded, noting, rfl, afterLooking⟩ := leads_call_bind.mp loads
          cases loaded with
          | ok loaded =>
              obtain ⟨rfl, rfl⟩ := leads_done_done.mp afterLooking
              obtain rfl :=
                handsOver_of_leads
                  (tasks_eq_acknowledgments subscription nonempty retrieval loaded lineNumber)
                  (by simp [acknowledgments]) hands
              exact .submitted credentials loaded lineNumber rfl
          | error error =>
              obtain ⟨_, rest, rfl, afterNoting⟩ := leads_perform_bind.mp afterLooking
              obtain ⟨rfl, rfl⟩ := leads_done_done.mp afterNoting
              have justMore :=
                justNotes_of_leads .notificationUnavailable (by simp [AckBasis.tasks, nonempty]) hands
              simpa using Acknowledges.unavailable credentials error lineNumber rfl
                (.single _) justMore

theorem cleans_of_leads
    {status : Option FetchStatus}
    {removed : Option Nat}
    (leads : Leads (removeStale status location) history (.done removed)) :
    Cleans status location history := by
  cases status with
  | none =>
      obtain ⟨rfl, _⟩ := leads_done.mp leads
      exact .spared (by simp)
  | some reported =>
      dsimp only [removeStale] at leads
      split at leads
      · rename_i stale
        obtain ⟨deleted, rest, rfl, afterDeleting⟩ := leads_call_bind.mp leads
        cases deleted with
        | ok count =>
            obtain ⟨_, rest, rfl, afterTelling⟩ := leads_perform_bind.mp afterDeleting
            obtain ⟨rfl, _⟩ := leads_done.mp afterTelling
            exact .deleted rfl stale (.removed count)
        | error error =>
            obtain ⟨_, rest, rfl, afterNoting⟩ := leads_perform_bind.mp afterDeleting
            obtain ⟨rfl, _⟩ := leads_done.mp afterNoting
            exact .deleted rfl stale (.failed error _)
      · rename_i current
        obtain ⟨rfl, _⟩ := leads_done.mp leads
        exact .spared (by simpa using current)

theorem reports_of_leads
    {outcome : Outcome}
    (leads : Leads (report location outcome) history (.done ())) :
    Reports location outcome history := by
  cases outcome with
  | received id =>
      obtain rfl := leads_call_done.mp leads
      exact .received id
  | failed error =>
      obtain ⟨_, rest, rfl, afterNoting⟩ := leads_perform_bind.mp leads
      obtain rfl := leads_call_done.mp afterNoting
      exact .failed error
  | blocked =>
      obtain ⟨rfl, _⟩ := leads_done.mp leads
      exact .blocked
  | aborted =>
      obtain ⟨rfl, _⟩ := leads_done.mp leads
      exact .aborted

theorem receives_of_leads
    {download : Download}
    {subscription : Subscription}
    {outcome : Outcome}
    (leads : Leads (receive download subscription) history (.done outcome)) :
    Receives download subscription outcome history := by
  obtain ⟨taken, taking, rest, rfl, reading, afterTaking⟩ := leads_bind_done.mp leads
  obtain ⟨content, rfl, takes⟩ := takesIn_of_leads reading
  rcases content with cause | payload
  · obtain ⟨rfl, rfl⟩ := leads_done_done.mp afterTaking
    simpa using Receives.unread takes
  dsimp only [Except.mapError] at afterTaking
  split at afterTaking
  · rename_i empty
    obtain rfl := List.isEmpty_iff.mp empty
    obtain ⟨_, marking, rest, rfl, marks, afterMarking⟩ := leads_bind_done.mp afterTaking
    obtain ⟨rfl, rfl⟩ := leads_done_done.mp afterMarking
    simpa using Receives.empty takes (marks_of_leads marks)
  rename_i nonempty
  have nonempty : payload ≠ [] := by simpa using nonempty
  obtain ⟨parsed, rest, rfl, afterParsing⟩ := leads_call_bind.mp afterTaking
  rcases parsed with error | retrieval | notification | kind
  · obtain ⟨rfl, rfl⟩ := leads_done_done.mp afterParsing
    exact .malformed takes nonempty
  · obtain ⟨verdict, screening, rest, rfl, screens, afterScreening⟩ :=
      leads_bind_done.mp afterParsing
    have screens := screens_of_leads screens
    cases verdict with
    | blocked =>
        obtain ⟨rfl, rfl⟩ := leads_done_done.mp afterScreening
        simpa using Receives.blocked takes nonempty screens
    | allowed =>
        obtain ⟨stored, rest, rfl, afterStoring⟩ := leads_call_bind.mp afterScreening
        obtain ⟨_, acknowledging, rest, rfl, acknowledges, afterAcknowledging⟩ :=
          leads_bind_done.mp afterStoring
        have acknowledges := acknowledges_of_leads nonempty acknowledges
        cases stored with
        | error error =>
            obtain ⟨rfl, rfl⟩ := leads_done_done.mp afterAcknowledging
            simpa [recordOf] using Receives.unstored takes nonempty screens acknowledges
        | ok id =>
            obtain ⟨_, rest, rfl, afterAudit⟩ := leads_perform_bind.mp afterAcknowledging
            obtain ⟨rfl, rfl⟩ := leads_done_done.mp afterAudit
            simpa [recordOf] using Receives.stored takes nonempty screens acknowledges
  · obtain ⟨rfl, rfl⟩ := leads_done_done.mp afterParsing
    exact .unexpected takes nonempty (by simp)
  · obtain ⟨rfl, rfl⟩ := leads_done_done.mp afterParsing
    exact .unexpected takes nonempty (by simp)

/-- A calm run is one of the runs listed. -/
theorem runs_of_leads
    {standard : Subscription}
    {download : Download}
    {outcome : Outcome}
    (leads : Leads (process standard download) history (.done outcome))
    (calm : history.Calm) :
    Runs download (download.subscription.getD standard) outcome history := by
  obtain ⟨decided, receiving, rest, rfl, receives, afterReceiving⟩ := leads_bind_done.mp leads
  have receives :=
    (receive_plain _ _).forwards.leads_of_catching receives ((History.calm_append _ _).mp calm).1
  obtain ⟨removed, cleaning, rest, rfl, cleans, afterCleaning⟩ := leads_bind_done.mp afterReceiving
  obtain ⟨began, rest, rfl, afterRelease⟩ := leads_perform_bind.mp afterCleaning
  obtain ⟨_, reporting, rest, rfl, reports, afterReport⟩ := leads_bind_done.mp afterRelease
  obtain ⟨rfl, rfl⟩ := leads_done_done.mp afterReport
  simpa using Runs.ran began (receives_of_leads receives) (cleans_of_leads cleans)
    (reports_of_leads reports)

/-- A calm run has an outcome, and is one of the runs listed. -/
theorem runs_of_calm
    {σ : Type}
    {environment : Environment σ}
    {standard : Subscription}
    {download : Download}
    {start : σ}
    (calm : ((process standard download).history environment start).Calm) :
    ∃ outcome,
      ((process standard download).run environment start).1 = .ok outcome ∧
        Runs download (download.subscription.getD standard) outcome
          ((process standard download).history environment start) := by
  have course := leads_run environment (process standard download) start
  obtain ⟨outcome, _, value, _, _⟩ :=
    (outlines_process_summary standard download).leads course calm
  rw [value] at course
  exact ⟨outcome, value, runs_of_leads course calm⟩

end Inversion

end Receive

end MmsInbox
