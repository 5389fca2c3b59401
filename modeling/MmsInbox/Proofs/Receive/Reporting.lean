import MmsInbox.Proofs.Receive.Containment
import MmsInbox.Proofs.Receive.Unfolding

namespace MmsInbox.Receive

/-!
# Whether a stored message is reported

Once a message is stored a run has nothing left to do before it cleans up but to hand over the
acknowledgments. If that goes without a panic, the message is reported under its identifier, once. If it
does not, the run ends as aborted and the application hears nothing of the stored message
(`process_stored`).
-/

open Program

/-- What is asked for the acknowledgments of a stored message. -/
def isHandover : Call → Bool
  | .relayCredentials _ => true
  | .load _ => true
  | .lineNumber _ => true
  | .submit _ => true
  | _ => false

/-- If a history is cut behind an event, then what comes next at the cut comes after its first occurrence. -/
theorem mem_of_cut
    {done later before after : History}
    {event stored : Event}
    (split : done ++ event :: later = before ++ stored :: after)
    (behind : stored ∈ done)
    (first : stored ∉ before) :
    event ∈ after := by
  rcases List.append_eq_append_iff.mp split with ⟨between, rfl, _⟩ | ⟨between, rfl, rest⟩
  · exact absurd (List.mem_append_left _ behind) first
  · cases between with
    | nil => exact absurd (List.append_nil before ▸ behind) first
    | cons passed between =>
        obtain ⟨_, rfl⟩ := List.cons.inj rest
        simp

section Stored

variable
  {download : Download}
  {subscription : Subscription}
  {outcome : Outcome}
  {history : History}
  {record : MessageRecord}
  {id : MessageId}

theorem Acknowledges.handover
    {location : String}
    {uri : Option String}
    {retrieval : Retrieval}
    (acknowledges : Acknowledges location subscription uri retrieval history) :
    ∀ call ∈ history.calls, isHandover call = true := by
  cases acknowledges with
  | unconfigured lineNumber justNotes => simp [justNotes.calls_eq_nil, isHandover]
  | unnamed credentials lineNumber nameless justNotes =>
      simp [justNotes.calls_eq_nil, isHandover]
  | unavailable credentials error lineNumber name justNotes justMore =>
      simp [justNotes.calls_eq_nil, justMore.calls_eq_nil, isHandover]
  | submitted credentials notification lineNumber name => simp [isHandover]

theorem Screens.unstored
    {sender : Option String}
    {location : String}
    {verdict : Verdict}
    {stored : Except StoreError MessageId}
    (screens : Screens sender location verdict history) :
    .answered (.persist record) stored ∉ history := by
  obtain _ | _ | ⟨_, _ | _⟩ := screens
  all_goals simp

/-- A run that has stored a message comes to its identifier, and asks for nothing afterwards but for the
acknowledgments. -/
theorem Receives.stored_of_mem
    (receives : Receives download subscription outcome history)
    (stored : .answered (.persist record) (.ok id) ∈ history) :
    outcome = .received id ∧
      ∃ before after : History,
        history = before ++ .answered (.persist record) (.ok id) :: after ∧
          .answered (.persist record) (.ok id) ∉ before ∧
          ∀ call ∈ after.calls, isHandover call = true := by
  have untaken :
      ∀ {content taking}, TakesIn download.path content taking →
        .answered (.persist record) (.ok id) ∉ taking :=
    fun takes => not_mem_of_kind takes.kind rfl
  cases receives with
  | unread takes => exact absurd stored (untaken takes)
  | empty takes marks =>
      obtain ⟨result, notes, justNotes, rfl⟩ := marks
      have unnoted : .answered (.persist record) (.ok id) ∉ notes := justNotes.not_mem rfl
      simp [untaken takes, unnoted] at stored
  | malformed takes nonempty => simp [untaken takes] at stored
  | unexpected takes nonempty other => simp [untaken takes] at stored
  | blocked takes nonempty screens => simp [untaken takes, screens.unstored] at stored
  | @unstored _ _ _ _ _ acknowledging takes nonempty screens acknowledges =>
      have unacknowledged : .answered (.persist record) (.ok id) ∉ acknowledging :=
        not_mem_of_kind acknowledges.kind rfl
      simp [untaken takes, screens.unstored, unacknowledged] at stored
  | @stored payload retrieval given taking screening acknowledging takes nonempty screens
      acknowledges =>
      have unacknowledged : .answered (.persist record) (.ok id) ∉ acknowledging :=
        not_mem_of_kind acknowledges.kind rfl
      simp only [List.mem_append, List.mem_cons, untaken takes, screens.unstored, unacknowledged,
        Event.answered.injEq, false_or, or_false, reduceCtorEq, false_and, List.not_mem_nil]
        at stored
      obtain ⟨asked, answered⟩ := stored
      obtain rfl := Call.persist.inj asked
      obtain rfl := Except.ok.inj (eq_of_heq answered)
      refine ⟨rfl, taking ++ .answered (.parse payload) (.ok (.retrieval retrieval)) :: screening, _,
        (List.append_assoc taking (_ :: screening) _).symm, ?_, ?_⟩
      · simp [untaken takes, screens.unstored]
      · simpa using acknowledges.handover

/-- A run that has stored a message has said nothing yet. It comes to the identifier of the message, unless
somebody panics over the acknowledgments. -/
theorem Attempts.stored_of_mem
    (attempts : Attempts download subscription outcome history)
    (stored : .answered (.persist record) (.ok id) ∈ history) :
    history.calls.filter isCallback = [] ∧
      (outcome = .received id ∧ history.Calm ∨
        outcome = .aborted ∧
          ∃ call panic, isHandover call = true ∧ .panicked call panic ∈ history) := by
  cases attempts with
  | received calm receives =>
      obtain ⟨same, _⟩ := receives.stored_of_mem stored
      exact ⟨receives.untold, .inl ⟨same, calm⟩⟩
  | @brokenOff _ done later call answer panic receives =>
      have reached : .answered (.persist record) (.ok id) ∈ done := by simpa using stored
      obtain ⟨_, before, after, split, first, handover⟩ :=
        receives.stored_of_mem (List.mem_append_left _ reached)
      have put : call ∈ after.calls :=
        History.mem_calls_of_answered (mem_of_cut split reached first)
      refine ⟨?_, .inr ⟨rfl, call, panic, handover call put, by simp⟩⟩
      have untold := receives.untold
      simp only [History.calls_append, History.calls_answered, List.filter_append,
        List.append_eq_nil_iff, List.filter_cons] at untold
      have other : isCallback call = false := by
        have handed := handover call put
        cases call <;> first | rfl | cases handed
      simp [untold.1, other]

/-- A run that has stored a message either reports it, and nobody has panicked over the acknowledgments, or
is aborted without a word, and somebody has; unless a panic ends the run later on. -/
theorem Unfolds.told_or_lost
    {result : Except Panic Outcome}
    (unfolds : Unfolds download subscription result history)
    (stored : .answered (.persist record) (.ok id) ∈ history)
    (cleaned : ∀ location panic, .panicked (.deletePending location) panic ∉ history)
    (heard : ∀ other panic, .panicked (.onMessageReceived other) panic ∉ history) :
    (result = .ok (.received id) ∧
        history.calls.filter isCallback = [.onMessageReceived id] ∧
        ∀ call panic, isHandover call = true → .panicked call panic ∉ history) ∨
      result = .ok .aborted ∧
        history.calls.filter isCallback = [] ∧
        ∃ call panic, isHandover call = true ∧ .panicked call panic ∈ history := by
  cases unfolds with
  | @reported _ attempting cleaning reporting began attempts cleans reports =>
      have unclean : .answered (.persist record) (.ok id) ∉ cleaning :=
        not_mem_of_kind cleans.kind rfl
      have unsaid : .answered (.persist record) (.ok id) ∉ reporting :=
        not_mem_of_kind reports.kind rfl
      have reached : .answered (.persist record) (.ok id) ∈ attempting := by
        simpa [unclean, unsaid] using stored
      obtain ⟨untold, ⟨rfl, calm⟩ | ⟨rfl, call, panic, handover, panicked⟩⟩ :=
        attempts.stored_of_mem reached
      · refine .inl ⟨rfl, ?_, ?_⟩
        · cases reports
          simp [untold, cleans.untold, isCallback]
        · intro call panic _
          have calmAttempt : .panicked call panic ∉ attempting :=
            fun member => Bool.noConfusion (calm _ member)
          have calmCleaning : .panicked call panic ∉ cleaning := not_mem_of_kind cleans.kind rfl
          have calmReport : .panicked call panic ∉ reporting := not_mem_of_kind reports.kind rfl
          simp [calmAttempt, calmCleaning, calmReport]
      · refine .inr ⟨rfl, ?_, call, panic, handover, List.mem_append_left _ panicked⟩
        cases reports
        simp [untold, cleans.untold]
  | @unreported _ attempting cleaning done later call answer began panic attempts cleans reports =>
      have unclean : .answered (.persist record) (.ok id) ∉ cleaning :=
        not_mem_of_kind cleans.kind rfl
      have unsaid : .answered (.persist record) (.ok id) ∉ done :=
        fun member => not_mem_of_kind reports.kind rfl (List.mem_append_left _ member)
      have reached : .answered (.persist record) (.ok id) ∈ attempting := by
        simpa [unclean, unsaid] using stored
      generalize split : done ++ .answered call answer :: later = reporting at reports
      obtain ⟨_, ⟨rfl, _⟩ | ⟨rfl, _⟩⟩ := attempts.stored_of_mem reached
      · cases reports
        obtain ⟨rfl, rfl⟩ := cut_at_first rfl split.symm
        exact absurd (by simp) (heard id panic)
      · cases reports
        simp at split
  | uncleaned panic attempts stale => exact absurd (by simp) (cleaned download.location panic)

end Stored

/-- Once a message is stored, and unless the removal of stale notifications or the application panics: if
its acknowledgments are handed over without a panic, it is reported once and the run comes to its
identifier; and if they are not, nobody is told and the run is aborted. -/
theorem process_stored
    {σ : Type}
    (environment : Environment σ)
    (standard : Subscription)
    (download : Download)
    (start : σ)
    {record : MessageRecord}
    {id : MessageId}
    (stored :
      .answered (.persist record) (.ok id) ∈ (process standard download).history environment start)
    (cleaned :
      ∀ location panic,
        .panicked (.deletePending location) panic ∉
          (process standard download).history environment start)
    (heard :
      ∀ other panic,
        .panicked (.onMessageReceived other) panic ∉
          (process standard download).history environment start) :
    ((∀ call panic,
        isHandover call = true →
          .panicked call panic ∉ (process standard download).history environment start) →
      ((process standard download).run environment start).1 = .ok (.received id) ∧
        ((process standard download).history environment start).calls.filter isCallback =
          [.onMessageReceived id]) ∧
    ((∃ call panic,
        isHandover call = true ∧
          .panicked call panic ∈ (process standard download).history environment start) →
      ((process standard download).run environment start).1 = .ok .aborted ∧
        ((process standard download).history environment start).calls.filter isCallback = []) := by
  have unfolds := unfolds_of_leads (leads_run environment (process standard download) start)
  rcases unfolds.told_or_lost stored cleaned heard with ⟨ends, told, handed⟩ |
    ⟨ends, untold, call, panic, handover, panicked⟩
  · refine ⟨fun _ => ⟨ends, told⟩, ?_⟩
    rintro ⟨call, panic, handover, panicked⟩
    exact absurd panicked (handed call panic handover)
  · refine ⟨fun calm => ?_, fun _ => ⟨ends, untold⟩⟩
    exact absurd panicked (calm call panic handover)

/-- The carrier settings are asked for fourth, and the look-up panics. -/
def faultySettings : Disturbance Unit where
  number := 3
  panic := ⟨"out of order"⟩
  harm _ _ := ()

/-- What is stored of a greeting. -/
def storedGreeting : MessageRecord :=
  recordOf staleGreeting.location staleGreeting.transactionId .standard [1, 2]
    { greeting with transactionId := some "R7" }

/-- A greeting whose fetch was stale is stored, and the look-up of the carrier settings panics. -/
theorem faultySettings_stored :
    .answered (.persist storedGreeting) (.ok (.ofNat 7)) ∈
        (process .standard staleGreeting).history (smoothWorld.disturbed faultySettings) ((), 0) ∧
      (∀ location panic,
        .panicked (.deletePending location) panic ∉
          (process .standard staleGreeting).history
            (smoothWorld.disturbed faultySettings) ((), 0)) ∧
      ∀ other panic,
        .panicked (.onMessageReceived other) panic ∉
          (process .standard staleGreeting).history
            (smoothWorld.disturbed faultySettings) ((), 0) := by
  have panicked :
      ∀ call panic,
        .panicked call panic ∈
            (process .standard staleGreeting).history
              (smoothWorld.disturbed faultySettings) ((), 0) →
          call = .relayCredentials .standard := by
    intro call panic member
    have asked :
        call ∈ History.calls
          (((process .standard staleGreeting).history
            (smoothWorld.disturbed faultySettings) ((), 0)).filter Event.isPanic) :=
      List.mem_filterMap.mpr ⟨_, List.mem_filter.mpr ⟨member, rfl⟩, rfl⟩
    have only :
        History.calls
          (((process .standard staleGreeting).history
            (smoothWorld.disturbed faultySettings) ((), 0)).filter Event.isPanic) =
          [.relayCredentials .standard] := by
      decide
    simpa [only] using asked
  refine ⟨List.mem_of_getElem? (i := 4) rfl, ?_, ?_⟩
  · intro location panic member
    cases panicked _ panic member
  · intro other panic member
    cases panicked _ panic member

/-- A greeting whose fetch was stale is stored, and it is lost to the application as the look-up of the
carrier settings panics. -/
theorem process_stored_staleGreeting :
    .answered (.persist storedGreeting) (.ok (.ofNat 7)) ∈
        (process .standard staleGreeting).history (smoothWorld.disturbed faultySettings) ((), 0) ∧
      (∀ location panic,
        .panicked (.deletePending location) panic ∉
          (process .standard staleGreeting).history
            (smoothWorld.disturbed faultySettings) ((), 0)) ∧
      (∀ other panic,
        .panicked (.onMessageReceived other) panic ∉
          (process .standard staleGreeting).history
            (smoothWorld.disturbed faultySettings) ((), 0)) ∧
      ((process .standard staleGreeting).run (smoothWorld.disturbed faultySettings) ((), 0)).1 =
          .ok .aborted ∧
        ((process .standard staleGreeting).history
          (smoothWorld.disturbed faultySettings) ((), 0)).calls.filter isCallback = [] := by
  obtain ⟨stored, cleaned, heard⟩ := faultySettings_stored
  refine ⟨stored, cleaned, heard, ?_⟩
  have panicked :
      .panicked (.relayCredentials .standard) faultySettings.panic ∈
        (process .standard staleGreeting).history
          (smoothWorld.disturbed faultySettings) ((), 0) :=
    List.mem_of_getElem? (i := 5) rfl
  exact
    (process_stored (smoothWorld.disturbed faultySettings) .standard staleGreeting ((), 0)
      stored cleaned heard).2 ⟨_, _, rfl, panicked⟩

/-- Not every stored message is reported, even if neither the removal of stale notifications nor the
application panics. -/
theorem not_forall_stored_reported :
    ¬ ∀ (σ : Type) (environment : Environment σ) (standard : Subscription) (download : Download)
        (start : σ) (record : MessageRecord) (id : MessageId),
      .answered (.persist record) (.ok id) ∈
          (process standard download).history environment start →
        (∀ location panic,
          .panicked (.deletePending location) panic ∉
            (process standard download).history environment start) →
        (∀ other panic,
          .panicked (.onMessageReceived other) panic ∉
            (process standard download).history environment start) →
        ((process standard download).run environment start).1 = .ok (.received id) ∧
          ((process standard download).history environment start).calls.filter isCallback =
            [.onMessageReceived id] := by
  intro reported
  obtain ⟨stored, cleaned, heard⟩ := faultySettings_stored
  have ended :
      ((process .standard staleGreeting).run (smoothWorld.disturbed faultySettings) ((), 0)).1 =
        .ok .aborted :=
    rfl
  have received :=
    (reported _ (smoothWorld.disturbed faultySettings) .standard staleGreeting ((), 0) storedGreeting
      (.ofNat 7) stored cleaned heard).1
  cases ended.symm.trans received

end MmsInbox.Receive
