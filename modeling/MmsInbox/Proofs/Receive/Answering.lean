import MmsInbox.Proofs.Receive.Handover

namespace MmsInbox.Receive

/-!
# Which notification a run answers

Whatever is answered and whoever panics, a run hands tasks to the lane only once it has loaded the
notification that its download names, and they are the acknowledgments of a retrieval that answers this
notification (`answers_of_leads`). The transaction comes from the notification and the location from the
download. Nothing in a run looks at the location that the notification itself gives.
-/

open Program

/-- The notification that the download names has been loaded. -/
def HasLoaded
    (download : Download)
    (history : History)
    (notification : Notification) :
    Prop :=
  ∃ uri,
    download.notificationUri = some uri ∧
      .answered (.load uri) (.ok notification) ∈ history

/-- Tasks that answer a notification which has been loaded, at the location of the download. -/
inductive Answers
    (download : Download)
    (subscription : Subscription)
    (history : History) :
    Notification → List AckTask → Prop where
  | intro
      {notification : Notification}
      (retrieval : Retrieval)
      (lineNumber : Option String)
      (loaded : HasLoaded download history notification) :
      Answers download subscription history notification
        (acknowledgments download.location subscription retrieval lineNumber notification)

/-- If tasks are handed over, they answer a notification which has been loaded. -/
def HandsOverAnswers
    (download : Download)
    (subscription : Subscription)
    (history : History)
    (event : Event) :
    Prop :=
  ∀ tasks, event.call? = some (.submit tasks) →
    ∃ notification, Answers download subscription history notification tasks

section Parts

variable
  {download : Download}
  {subscription : Subscription}
  {history : History}

/-- Whoever is not asked to take tasks over is handed nothing. -/
theorem assures_of_unsubmitted
    {α : Type}
    {program : Program α}
    (never : program.AsksAtMost isSubmit 0) :
    program.Assures (· ∈ history) (HandsOverAnswers download subscription history)
      fun _ => True := by
  refine never.assures fun event other tasks submits => ?_
  cases other _ submits

theorem call_assures
    {call : Call}
    (other : isSubmit call = false) :
    (Program.call call).Assures (· ∈ history) (HandsOverAnswers download subscription history)
      fun _ => True :=
  assures_of_unsubmitted (call_unsubmitted (fun _ => id) other)

/-- A notification that comes back has been loaded. -/
theorem loadNotification_assures :
    (loadNotification download.notificationUri).Assures (· ∈ history)
      (HandsOverAnswers download subscription history)
      fun result => ∀ notification, result = .ok (some notification) →
        HasLoaded download history notification := by
  unfold loadNotification
  split
  · exact nofun
  · rename_i uri named
    refine assures_bind.mpr (assures_call.mpr
      ⟨fun loaded happened => ⟨nofun, ?_⟩, fun _ _ => ⟨nofun, nofun⟩⟩)
    cases loaded with
    | ok notification =>
        rintro _ ⟨⟩
        exact ⟨uri, named, happened⟩
    | error error => exact fun _ _ => ⟨nofun, nofun⟩

theorem lookUp_assures (configured : Bool) :
    (lookUp download configured).Assures (· ∈ history)
      (HandsOverAnswers download subscription history)
      fun result => ∀ notification, result = .ok (some notification) →
        HasLoaded download history notification := by
  unfold lookUp
  split
  · exact loadNotification_assures
  · exact nofun

/-- What is decided on is handed over as it is. -/
theorem handsOver_assures
    {basis : AckBasis}
    (answers :
      ∀ tasks, basis.tasks = .ok tasks →
        ∃ notification, Answers download subscription history notification tasks) :
    Assures (· ∈ history) (HandsOverAnswers download subscription history) (fun _ => True)
      (do
        let tasks ← decideTasks basis
        if tasks.isEmpty then pure () else call (.submit tasks)) := by
  unfold decideTasks
  split
  · rename_i tasks decided
    rw [pure_bind]
    split
    · trivial
    · have kept : ∀ {event : Event}, event.call? = some (.submit tasks) →
          HandsOverAnswers download subscription history event := by
        intro event submits others same
        cases submits.symm.trans same
        exact answers tasks decided
      exact ⟨fun _ _ => ⟨kept rfl, trivial⟩, fun _ _ => ⟨kept rfl, trivial⟩⟩
  · exact fun _ _ => ⟨nofun, trivial⟩
  · exact fun _ _ => ⟨nofun, trivial⟩
  · trivial

/-- Acknowledgments are handed over once the notification has been loaded. -/
theorem submitAcknowledgments_assures
    (payload : Bytes)
    (pdu : Pdu) :
    (submitAcknowledgments download subscription payload pdu).Assures (· ∈ history)
      (HandsOverAnswers download subscription history) fun _ => True := by
  rw [submitAcknowledgments_eq]
  refine .followedBy (call_assures rfl) fun credentials => ?_
  refine assures_bind.mpr ((lookUp_assures _).weaken ?_)
  rintro (panic | notification) looked
  · trivial
  · refine .followedBy (call_assures rfl) fun lineNumber => handsOver_assures fun tasks decided => ?_
    obtain ⟨retrieval, found, present, rfl⟩ := acknowledgments_of_tasks decided
    obtain rfl : notification = some found := present
    exact ⟨found, .intro retrieval lineNumber (looked found rfl)⟩

theorem keep_assures
    (payload : Bytes)
    (retrieval : Retrieval) :
    (keep download subscription payload retrieval).Assures (· ∈ history)
      (HandsOverAnswers download subscription history) fun _ => True := by
  refine .followedBy (call_assures rfl) fun stored => ?_
  refine .followedBy (submitAcknowledgments_assures payload _) fun _ => ?_
  cases stored with
  | ok id => exact fun _ _ => ⟨nofun, trivial⟩
  | error error => trivial

theorem receive_assures :
    (receive download subscription).Assures (· ∈ history)
      (HandsOverAnswers download subscription history) fun _ => True := by
  refine .followedBy (assures_of_unsubmitted (takeIn_unsubmitted _)) fun content => ?_
  cases content with
  | error error => trivial
  | ok payload =>
      dsimp only
      split
      · exact .followedBy (assures_of_unsubmitted (markFailed_unsubmitted (fun _ => id) _))
          fun _ => trivial
      · refine .followedBy (call_assures rfl) fun parsed => ?_
        rcases parsed with error | retrieval | notification | kind
        · trivial
        · refine .followedBy (assures_of_unsubmitted (screen_unsubmitted (fun _ => id) _ _))
            fun verdict => ?_
          cases verdict with
          | blocked => trivial
          | allowed => exact keep_assures payload retrieval
        · trivial
        · trivial

/-- Once the first part of a run is over, nothing is handed over. -/
theorem conclude_assures (outcome : Outcome) :
    (conclude download outcome).Assures (· ∈ history)
      (HandsOverAnswers download subscription history) fun _ => True := by
  refine .followedBy (assures_of_unsubmitted (removeStale_unsubmitted (fun _ => id) _ _))
    fun _ => ?_
  refine .followedBy (assures_of_unsubmitted (perform_unsubmitted _)) fun _ => ?_
  exact .followedBy (assures_of_unsubmitted (report_unsubmitted (fun _ => id) _ _))
    fun _ => trivial

end Parts

/-- On every course of a run, what is handed over answers the notification that the run has loaded. -/
theorem answers_of_leads
    {standard : Subscription}
    {download : Download}
    {history : History}
    {rest : Program Outcome}
    {tasks : List AckTask}
    (leads : Leads (process standard download) history rest)
    (submits : .submit tasks ∈ history.calls) :
    ∃ notification,
      Answers download (download.subscription.getD standard) history notification tasks := by
  have assures :
      (process standard download).Assures (· ∈ history)
        (HandsOverAnswers download (download.subscription.getD standard) history)
        fun _ => True := by
    rw [process_eq]
    refine .followedBy (receive_assures.caughtBy fun _ => ?_) conclude_assures
    exact fun _ _ => ⟨nofun, trivial⟩
  obtain ⟨kept, _⟩ := assures.of_leads leads fun _ happened => happened
  obtain ⟨event, happened, put⟩ := List.mem_filterMap.mp submits
  exact kept event happened tasks put

end MmsInbox.Receive
