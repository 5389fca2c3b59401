import MmsInbox.Proofs.Receive.Handover
import MmsInbox.Proofs.Receive.Rows
import MmsInbox.Proofs.Receive.Sources

namespace MmsInbox.Receive

/-!
# When a run hands over acknowledgments, and which

A calm run hands acknowledgments to the lane exactly if the file, the codec, the blocklist, the carrier
settings and the notification store together give reason to (`Due`), and what it hands over is decided by
the retrieval, the notification and the device's own number alone (`acknowledgments`). What the message
store says of the message, what transaction the download names and what the fetch reported is not part of
it (`process_acknowledges`).
-/

open Program

/-- The sender of a retrieval is absent, empty or not blocked. -/
def Admitted
    (sources : Sources)
    (retrieval : Retrieval) :
    Prop :=
  retrieval.sender = none ∨ retrieval.sender = some "" ∨
    ∃ address, retrieval.sender = some address ∧ sources.blocks address = false

/-- A retrieval is to be acknowledged, and it answers a notification in the store. -/
structure Due
    (sources : Sources)
    (path : String)
    (subscription : Subscription)
    (uri : Option String)
    (store : NotificationStore)
    (retrieval : Retrieval)
    (notification : Notification) :
    Prop where
  /-- The file was read, is not empty and holds the retrieval. -/
  retrieved :
    ∃ payload,
      sources.read path = .ok payload ∧ payload ≠ [] ∧
        sources.parse payload = .ok (.retrieval retrieval)
  admitted : Admitted sources retrieval
  configured : (sources.credentials subscription).isSome = true
  /-- The row at the URI that the download names is a notification. -/
  notified :
    ∃ named row,
      uri = some named ∧ store.get? named = some row ∧ row.kind = .notification ∧
        row.notification = notification

/-- A notification is loaded. -/
def isLoad : Call → Bool
  | .load _ => true
  | _ => false

section Parts

variable
  {location : String}
  {subscription : Subscription}
  {history : History}
  {sources : Sources}
  {store : NotificationStore}
  {tasks : List AckTask}

theorem nonEmpty?_eq_some_iff
    {field : Option String}
    {text : String} :
    nonEmpty? field = some text ↔ field = some text ∧ text ≠ "" := by
  simp only [nonEmpty?, Option.filter_eq_some_iff, Bool.not_eq_true', String.isEmpty_eq_false_iff]

theorem TakesIn.read_eq
    {path : String}
    {content : Except File.Error Bytes}
    (takes : TakesIn path content history)
    (agree : ∀ event ∈ history, sources.Agree event) :
    sources.read path = content :=
  (agree _ (takes.read_iff.mpr rfl)).symm

/-- A sender is let in if there is none, or one that is not blocked. -/
theorem Screens.admitted_iff
    {retrieval : Retrieval}
    {verdict : Verdict}
    (screens : Screens retrieval.sender? location verdict history)
    (agree : ∀ event ∈ history, sources.Agree event) :
    Admitted sources retrieval ↔ verdict = .allowed := by
  cases screens with
  | anonymous unknown =>
      refine iff_of_true ?_ rfl
      cases named : retrieval.sender with
      | none => exact .inl named
      | some address =>
          refine .inr (.inl ?_)
          by_contra present
          have known : retrieval.sender? = some address :=
            nonEmpty?_eq_some_iff.mpr ⟨named, fun empty => present (empty ▸ named)⟩
          cases unknown.symm.trans known
  | @admitted address known =>
      have unblocked : false = sources.blocks address := agree _ List.mem_cons_self
      exact iff_of_true
        (.inr (.inr ⟨address, (nonEmpty?_eq_some_iff.mp known).1, unblocked.symm⟩)) rfl
  | @blocked address deleting known deletes =>
      have blocked : true = sources.blocks address := agree _ List.mem_cons_self
      obtain ⟨named, nonempty⟩ := nonEmpty?_eq_some_iff.mp known
      refine iff_of_false ?_ (by simp)
      rintro (absent | empty | ⟨other, there, unblocked⟩)
      · cases named.symm.trans absent
      · exact nonempty (Option.some.inj (named.symm.trans empty))
      · cases Option.some.inj (named.symm.trans there)
        cases blocked.trans unblocked

theorem Screens.unsubmitted
    {sender : Option String}
    {verdict : Verdict}
    (screens : Screens sender location verdict history) :
    .submit tasks ∉ history.calls := by
  cases screens with
  | blocked known deletes => cases deletes <;> simp
  | _ => simp

/-- The acknowledgments of an admitted retrieval are handed over if there are carrier settings and the
download names a notification that can be loaded. -/
theorem Acknowledges.submit_mem_iff
    {uri : Option String}
    {retrieval : Retrieval}
    (acknowledges : Acknowledges location subscription uri retrieval history)
    (agree : ∀ event ∈ history, sources.Agree event)
    (loads : ∀ named loaded, .answered (.load named) loaded ∈ history → loaded = store.load named) :
    .submit tasks ∈ history.calls ↔
      (sources.credentials subscription).isSome = true ∧
        ∃ named notification,
          uri = some named ∧ store.load named = .ok notification ∧
            tasks =
              acknowledgments location subscription retrieval (sources.lineNumber subscription)
                notification := by
  cases acknowledges with
  | unconfigured lineNumber justNotes =>
      have missing : none = sources.credentials subscription := agree _ List.mem_cons_self
      simp [justNotes.calls_eq_nil, ← missing]
  | unnamed credentials lineNumber nameless justNotes =>
      simp [justNotes.calls_eq_nil, nameless]
  | unavailable credentials error lineNumber name justNotes justMore =>
      have failed := loads _ _ (List.mem_cons_of_mem _ List.mem_cons_self)
      simp [justNotes.calls_eq_nil, justMore.calls_eq_nil, name, ← failed]
  | submitted credentials notification lineNumber name =>
      have found : some credentials = sources.credentials subscription :=
        agree _ List.mem_cons_self
      have loaded := loads _ _ (List.mem_cons_of_mem _ List.mem_cons_self)
      have known : lineNumber = sources.lineNumber subscription :=
        agree _ (List.mem_cons_of_mem _ (List.mem_cons_of_mem _ List.mem_cons_self))
      simp [name, ← found, ← loaded, known]

section Receiving

variable
  {download : Download}
  {payload : Bytes}
  {parsed : Except CodecError Pdu}
  {retrieval : Retrieval}

/-- What a file was parsed to is all that can be due. -/
theorem Due.parsed_eq
    {path : String}
    {uri : Option String}
    {notification : Notification}
    (due : Due sources path subscription uri store retrieval notification)
    (read : sources.read path = .ok payload)
    (decoded : sources.parse payload = parsed) :
    payload ≠ [] ∧ parsed = .ok (.retrieval retrieval) ∧ Admitted sources retrieval := by
  obtain ⟨other, otherRead, nonempty, otherDecoded⟩ := due.retrieved
  obtain rfl := Except.ok.inj (read.symm.trans otherRead)
  exact ⟨nonempty, decoded.symm.trans otherDecoded, due.admitted⟩

/-- Once a retrieval is admitted, it depends on the carrier settings and the notification whether it is
to be acknowledged. -/
theorem exists_due_iff
    (read : sources.read download.path = .ok payload)
    (nonempty : payload ≠ [])
    (decoded : sources.parse payload = .ok (.retrieval retrieval))
    (admitted : Admitted sources retrieval) :
    (∃ other notification,
      Due sources download.path subscription download.notificationUri store other notification ∧
        tasks =
          acknowledgments download.location subscription other (sources.lineNumber subscription)
            notification) ↔
      (sources.credentials subscription).isSome = true ∧
        ∃ named notification,
          download.notificationUri = some named ∧ store.load named = .ok notification ∧
            tasks =
              acknowledgments download.location subscription retrieval
                (sources.lineNumber subscription) notification := by
  simp only [NotificationStore.load_eq_ok_iff]
  constructor
  · rintro ⟨other, notification, due, rfl⟩
    obtain ⟨_, same, _⟩ := due.parsed_eq read decoded
    cases same
    obtain ⟨named, row, name, held⟩ := due.notified
    exact ⟨due.configured, named, notification, name, ⟨row, held⟩, rfl⟩
  · rintro ⟨configured, named, notification, name, ⟨row, held⟩, rfl⟩
    exact ⟨retrieval, notification,
      ⟨⟨payload, read, nonempty, decoded⟩, admitted, configured, ⟨named, row, name, held⟩⟩, rfl⟩

/-- Whatever the message store says of it, an admitted retrieval is acknowledged if that is due. -/
theorem submit_mem_of_allowed
    {record : MessageRecord}
    {stored : Except StoreError MessageId}
    {taking screening acknowledging : History}
    (more : History)
    (takes : TakesIn download.path (.ok payload) taking)
    (nonempty : payload ≠ [])
    (screens : Screens retrieval.sender? download.location .allowed screening)
    (acknowledges :
      Acknowledges download.location subscription download.notificationUri retrieval acknowledging)
    (unasked : more.calls = [])
    (happens :
      history =
        taking ++ .answered (.parse payload) (.ok (.retrieval retrieval)) ::
          (screening ++ .answered (.persist record) stored :: (acknowledging ++ more)))
    (agree : ∀ event ∈ history, sources.Agree event)
    (loads : ∀ named loaded, .answered (.load named) loaded ∈ history → loaded = store.load named) :
    .submit tasks ∈ history.calls ↔
      ∃ retrieval notification,
        Due sources download.path subscription download.notificationUri store retrieval notification ∧
          tasks =
            acknowledgments download.location subscription retrieval
              (sources.lineNumber subscription) notification := by
  subst happens
  simp only [List.forall_mem_append, List.forall_mem_cons] at agree
  obtain ⟨agreeTaking, decoded, agreeScreening, _, agreeAcknowledging, _⟩ := agree
  have acknowledged :
      .submit tasks ∈ acknowledging.calls ↔ _ :=
    acknowledges.submit_mem_iff agreeAcknowledging fun named loaded member =>
      loads named loaded (by simp [member])
  rw [exists_due_iff (takes.read_eq agreeTaking) nonempty decoded.symm
    ((screens.admitted_iff agreeScreening).mpr rfl), ← acknowledged]
  simp [takes.calls_eq_nil, screens.unsubmitted, unasked]

variable
  {outcome : Outcome}
  (agree : ∀ event ∈ history, sources.Agree event)
  (loads : ∀ named loaded, .answered (.load named) loaded ∈ history → loaded = store.load named)

include agree loads

/-- Before it cleans up, a run hands over the acknowledgments that are due and no others. -/
theorem Receives.submit_mem_iff (receives : Receives download subscription outcome history) :
    .submit tasks ∈ history.calls ↔
      ∃ retrieval notification,
        Due sources download.path subscription download.notificationUri store retrieval notification ∧
          tasks =
            acknowledgments download.location subscription retrieval
              (sources.lineNumber subscription) notification := by
  have undue : ∀ {payload parsed},
      sources.read download.path = .ok payload → sources.parse payload = parsed →
      (∀ retrieval, payload ≠ [] → Admitted sources retrieval → parsed ≠ .ok (.retrieval retrieval)) →
      ¬∃ retrieval notification,
        Due sources download.path subscription download.notificationUri store retrieval notification ∧
          tasks =
            acknowledgments download.location subscription retrieval
              (sources.lineNumber subscription) notification := by
    rintro payload parsed read decoded other ⟨retrieval, notification, due, _⟩
    obtain ⟨nonempty, same, admitted⟩ := due.parsed_eq read decoded
    exact other retrieval nonempty admitted same
  cases receives with
  | unread takes =>
      have read := takes.read_eq agree
      refine iff_of_false (by simp [takes.calls_eq_nil]) ?_
      rintro ⟨retrieval, notification, due, _⟩
      obtain ⟨payload, found, _⟩ := due.retrieved
      cases read.symm.trans found
  | empty takes marks =>
      obtain ⟨result, notes, justNotes, rfl⟩ := marks
      have read := takes.read_eq fun event member => agree event (List.mem_append_left _ member)
      refine iff_of_false (by simp [takes.calls_eq_nil, justNotes.calls_eq_nil]) ?_
      exact undue read rfl fun _ nonempty => absurd rfl nonempty
  | malformed takes nonempty =>
      simp only [List.forall_mem_append, List.forall_mem_cons] at agree
      refine iff_of_false (by simp [takes.calls_eq_nil]) ?_
      exact undue (takes.read_eq agree.1) agree.2.1.symm (by simp)
  | unexpected takes nonempty other =>
      simp only [List.forall_mem_append, List.forall_mem_cons] at agree
      refine iff_of_false (by simp [takes.calls_eq_nil]) ?_
      exact undue (takes.read_eq agree.1) agree.2.1.symm (by simpa using fun _ _ _ => other _)
  | blocked takes nonempty screens =>
      simp only [List.forall_mem_append, List.forall_mem_cons] at agree
      obtain ⟨agreeTaking, decoded, agreeScreening⟩ := agree
      refine iff_of_false (by simp [takes.calls_eq_nil, screens.unsubmitted]) ?_
      refine undue (takes.read_eq agreeTaking) decoded.symm ?_
      intro other _ admitted same
      cases same
      cases (screens.admitted_iff agreeScreening).mp admitted
  | unstored takes nonempty screens acknowledges =>
      exact submit_mem_of_allowed [] takes nonempty screens acknowledges rfl
        (by rw [List.append_nil]) agree loads
  | stored takes nonempty screens acknowledges =>
      exact submit_mem_of_allowed _ takes nonempty screens acknowledges rfl rfl agree loads

end Receiving

end Parts

section Order

variable
  {download : Download}
  {subscription : Subscription}
  {outcome : Outcome}
  {history before acknowledging after : History}

/-- What is asked before the acknowledgments are prepared. -/
def isOpening : Call → Bool
  | .parse _ => true
  | .isAddressBlocked _ => true
  | .persist _ => true
  | _ => false

/-- What is asked after the acknowledgments. -/
def isClosing : Call → Bool
  | .deletePending _ => true
  | call => isCallback call

theorem isOpening_aside
    {call : Call}
    (opening : isOpening call = true) :
    isLoad call = false ∧ isClosing call = false := by
  cases call <;> first | exact ⟨rfl, rfl⟩ | cases opening

theorem isClosing_idle
    {call : Call}
    (closing : isClosing call = true) :
    isLoad call = false ∧ isSubmit call = false := by
  cases call <;> first | exact ⟨rfl, rfl⟩ | cases closing

/-- What comes before the acknowledgments are prepared: the message was to be stored. -/
structure Opens (history : History) : Prop where
  persisted : ∃ record, .persist record ∈ history.calls
  opening : ∀ call ∈ history.calls, isOpening call = true
  unreleased : ∀ location began, .acted (.finishDownload location) began ∉ history

/-- What comes after the acknowledgments: stale notifications are removed, the download is released and
the application is told, and nothing else is asked. -/
structure Closes
    (location : String)
    (history : History) :
    Prop where
  closing : ∀ call ∈ history.calls, isClosing call = true
  released : ∃ began, .acted (.finishDownload location) began ∈ history

theorem opens_of_allowed
    {path location : String}
    {payload : Bytes}
    {sender : Option String}
    {taking screening : History}
    (takes : TakesIn path (.ok payload) taking)
    (screens : Screens sender location .allowed screening)
    (retrieval : Retrieval)
    (record : MessageRecord)
    (stored : Except StoreError MessageId) :
    Opens
      (taking ++ .answered (.parse payload) (.ok (.retrieval retrieval)) ::
        (screening ++ [.answered (.persist record) stored])) where
  persisted := ⟨record, by simp⟩
  opening := by
    cases screens <;> simp [takes.calls_eq_nil, isOpening]
  unreleased location began := by
    have untaken : .acted (.finishDownload location) began ∉ taking :=
      not_mem_of_kind takes.kind rfl
    cases screens <;> simp [untaken]

theorem closes_of_cleans
    {status : Option FetchStatus}
    {location : String}
    {cleaning reporting : History}
    (more : History)
    (unasked : more.calls = [])
    (began : Option Nat)
    (cleans : Cleans status location cleaning)
    (reports : Reports location outcome reporting) :
    Closes location
      (more ++ (cleaning ++ .acted (.finishDownload location) began :: reporting)) where
  closing := by
    obtain _ | ⟨_, _, _ | _⟩ := cleans
    all_goals cases reports <;> simp [unasked, isClosing, isCallback]
  released := ⟨began, by simp⟩

/-- Nothing is loaded and nothing handed over. -/
def Idle (history : History) : Prop :=
  ∀ call ∈ history.calls, isLoad call = false ∧ isSubmit call = false

/-- A run that has asked to store a message comes to its acknowledgments, and other runs are idle. -/
theorem Receives.acknowledges_or (receives : Receives download subscription outcome history) :
    (∃ (retrieval : Retrieval) (before acknowledging after : History),
      history = before ++ (acknowledging ++ after) ∧
        Opens before ∧
        Acknowledges download.location subscription download.notificationUri retrieval
          acknowledging ∧
        after.calls = []) ∨
      Idle history := by
  unfold Idle
  cases receives with
  | unread takes => exact .inr (by simp [takes.calls_eq_nil])
  | empty takes marks =>
      obtain ⟨result, notes, justNotes, rfl⟩ := marks
      exact .inr (by simp [takes.calls_eq_nil, justNotes.calls_eq_nil, isLoad, isSubmit])
  | malformed takes nonempty => exact .inr (by simp [takes.calls_eq_nil, isLoad, isSubmit])
  | unexpected takes nonempty other => exact .inr (by simp [takes.calls_eq_nil, isLoad, isSubmit])
  | blocked takes nonempty screens =>
      obtain _ | _ | ⟨known, _ | _⟩ := screens
      all_goals exact .inr (by simp [takes.calls_eq_nil, isLoad, isSubmit])
  | @unstored payload retrieval error taking screening acknowledging takes nonempty screens
      acknowledges =>
      have opens :=
        opens_of_allowed takes screens retrieval
          (recordOf download.location download.transactionId subscription payload retrieval)
          (.error error)
      exact .inl ⟨retrieval, _, acknowledging, [], by simp, opens, acknowledges, rfl⟩
  | @stored payload retrieval id taking screening acknowledging takes nonempty screens
      acknowledges =>
      have opens :=
        opens_of_allowed takes screens retrieval
          (recordOf download.location download.transactionId subscription payload retrieval) (.ok id)
      exact .inl ⟨retrieval, _, acknowledging,
        [.acted
          (.audit
            (.messageReceived id.text retrieval.sender? download.location payload.length)) ()],
        by simp, opens, acknowledges, rfl⟩

/-- A run that has asked to store a message comes to its acknowledgments, and other runs are idle. -/
theorem Runs.acknowledges_or (runs : Runs download subscription outcome history) :
    (∃ (retrieval : Retrieval) (before acknowledging after : History),
      history = before ++ (acknowledging ++ after) ∧
        Opens before ∧
        Acknowledges download.location subscription download.notificationUri retrieval
          acknowledging ∧
        Closes download.location after) ∨
      Idle history := by
  obtain @⟨receiving, cleaning, reporting, began, receives, cleans, reports⟩ := runs
  rcases receives.acknowledges_or with
    ⟨retrieval, before, acknowledging, more, rfl, opens, acknowledges, unasked⟩ | idle
  · exact .inl ⟨retrieval, before, acknowledging, _, by simp, opens, acknowledges,
      closes_of_cleans more unasked began cleans reports⟩
  · right
    intro call asked
    rcases List.mem_append.mp (History.calls_append _ _ ▸ asked) with received | afterwards
    · exact idle call received
    · exact isClosing_idle ((closes_of_cleans [] rfl began cleans reports).closing call afterwards)

/-- The place of the acknowledgments in a run: after the message was to be stored, and before stale
notifications are removed, the download is released and the application is told. -/
structure InPlace
    (location : String)
    (before after : History) :
    Prop extends Closes location after where
  persisted : ∃ record, .persist record ∈ before.calls
  notYet : ∀ call ∈ before.calls, isClosing call = false
  unreleased : ∀ location began, .acted (.finishDownload location) began ∉ before

theorem Acknowledges.submit_last
    {location : String}
    {uri : Option String}
    {retrieval : Retrieval}
    {tasks : List AckTask}
    (acknowledges : Acknowledges location subscription uri retrieval acknowledging)
    (submits : .submit tasks ∈ acknowledging.calls) :
    ∃ earlier : History,
      acknowledging = earlier ++ [.answered (.submit tasks) ()] ∧
        (∀ call ∈ earlier.calls, isClosing call = false) ∧
        ∀ location began, .acted (.finishDownload location) began ∉ earlier := by
  cases acknowledges with
  | unconfigured lineNumber justNotes => simp [justNotes.calls_eq_nil] at submits
  | unnamed credentials lineNumber nameless justNotes => simp [justNotes.calls_eq_nil] at submits
  | unavailable credentials error lineNumber name justNotes justMore =>
      simp [justNotes.calls_eq_nil, justMore.calls_eq_nil] at submits
  | submitted credentials notification lineNumber name =>
      obtain rfl : tasks = _ := by simpa using submits
      refine ⟨[.answered (.relayCredentials subscription) (some credentials),
        .answered (.load _) (.ok notification),
        .answered (.lineNumber subscription) lineNumber], rfl, ?_, ?_⟩
      · simp [isClosing, isCallback]
      · simp

/-- A notification is loaded once at most. -/
theorem Acknowledges.load_first
    {location : String}
    {uri : Option String}
    {retrieval : Retrieval}
    {named : String}
    {loaded : Except StoreError Notification}
    (acknowledges : Acknowledges location subscription uri retrieval acknowledging)
    (loads : .answered (.load named) loaded ∈ acknowledging) :
    ∃ earlier later : History,
      acknowledging = earlier ++ .answered (.load named) loaded :: later ∧
        ∀ call ∈ earlier.calls, isLoad call = false := by
  have unnoted : ∀ {notes : History}, notes.JustNotes → .answered (.load named) loaded ∉ notes :=
    fun justNotes => justNotes.not_mem rfl
  cases acknowledges with
  | unconfigured lineNumber justNotes => simp [unnoted justNotes] at loads
  | unnamed credentials lineNumber nameless justNotes => simp [unnoted justNotes] at loads
  | @unavailable there _ _ credentials error lineNumber name justNotes justMore =>
      obtain ⟨rfl, rfl⟩ : named = there ∧ loaded = .error error := by
        simpa [unnoted justNotes, unnoted justMore] using loads
      exact ⟨[_], _, rfl, by simp [isLoad]⟩
  | @submitted there credentials notification lineNumber name =>
      obtain ⟨rfl, rfl⟩ : named = there ∧ loaded = .ok notification := by simpa using loads
      exact ⟨[_], _, rfl, by simp [isLoad]⟩

/-- The first notification that a run loads is the only one. -/
theorem Runs.load_first
    {named : String}
    {loaded : Except StoreError Notification}
    (runs : Runs download subscription outcome history)
    (loads : .answered (.load named) loaded ∈ history) :
    ∃ earlier later : History,
      history = earlier ++ .answered (.load named) loaded :: later ∧
        ∀ call ∈ earlier.calls, isLoad call = false := by
  rcases runs.acknowledges_or with
    ⟨retrieval, before, acknowledging, after, rfl, opens, acknowledges, closes⟩ | idle
  · have unloaded : ∀ call ∈ before.calls, isLoad call = false :=
      fun call asked => (isOpening_aside (opens.opening call asked)).1
    rcases List.mem_append.mp loads with early | loads
    · cases unloaded _ (History.mem_calls_of_answered early)
    rcases List.mem_append.mp loads with loads | late
    · obtain ⟨earlier, later, rfl, first⟩ := acknowledges.load_first loads
      refine ⟨before ++ earlier, later ++ after, by simp, ?_⟩
      rw [History.calls_append, List.forall_mem_append]
      exact ⟨unloaded, first⟩
    · cases (isClosing_idle (closes.closing _ (History.mem_calls_of_answered late))).1
  · cases (idle _ (History.mem_calls_of_answered loads)).1

/-- The acknowledgments that a run hands over are in place. -/
theorem Runs.inPlace
    {tasks : List AckTask}
    (runs : Runs download subscription outcome history)
    (submits : .submit tasks ∈ history.calls) :
    ∃ before after : History,
      history = before ++ .answered (.submit tasks) () :: after ∧
        InPlace download.location before after := by
  rcases runs.acknowledges_or with
    ⟨retrieval, before, acknowledging, after, rfl, opens, acknowledges, closes⟩ | idle
  · have unsubmitted : .submit tasks ∉ before.calls :=
      fun asked => by cases opens.opening _ asked
    have unsubmittedAfter : .submit tasks ∉ after.calls :=
      fun asked => by cases closes.closing _ asked
    have submitted : .submit tasks ∈ acknowledging.calls := by
      simpa [unsubmitted, unsubmittedAfter] using submits
    obtain ⟨earlier, rfl, notYet, unreleased⟩ := acknowledges.submit_last submitted
    obtain ⟨record, persisted⟩ := opens.persisted
    refine ⟨before ++ earlier, after, by simp, closes, ⟨record, by simp [persisted]⟩, ?_, ?_⟩
    · rw [History.calls_append, List.forall_mem_append]
      exact ⟨fun call asked => (isOpening_aside (opens.opening call asked)).2, notYet⟩
    · intro location began released
      rcases List.mem_append.mp released with released | released
      · exact opens.unreleased _ _ released
      · exact unreleased _ _ released
  · cases (idle _ submits).2

/-- A run hands over the acknowledgments that are due and no others. -/
theorem Runs.submit_mem_iff
    {sources : Sources}
    {store : NotificationStore}
    {tasks : List AckTask}
    (runs : Runs download subscription outcome history)
    (agree : ∀ event ∈ history, sources.Agree event)
    (loads : ∀ named loaded, .answered (.load named) loaded ∈ history → loaded = store.load named) :
    .submit tasks ∈ history.calls ↔
      ∃ retrieval notification,
        Due sources download.path subscription download.notificationUri store retrieval notification ∧
          tasks =
            acknowledgments download.location subscription retrieval
              (sources.lineNumber subscription) notification := by
  obtain @⟨receiving, cleaning, reporting, began, receives, cleans, reports⟩ := runs
  have afterwards :
      .submit tasks ∉
        History.calls (cleaning ++ .acted (.finishDownload download.location) began :: reporting) :=
    fun asked => by cases (closes_of_cleans [] rfl began cleans reports).closing _ asked
  rw [History.calls_append, List.mem_append, or_iff_left afterwards]
  exact receives.submit_mem_iff (fun event member => agree event (List.mem_append_left _ member))
    fun named loaded member => loads named loaded (List.mem_append_left _ member)

end Order

/-- A notification store that finds the notifications among its rows. -/
def LoadsFrom
    {σ : Type}
    (environment : Environment σ)
    (rows : σ → NotificationStore) :
    Prop :=
  ∀ uri state loaded later,
    environment.answer (.load uri) state = (.ok loaded, later) → loaded = (rows state).load uri

/-- The units that a run has its acknowledgments sent as. -/
def units
    (retrieval : Retrieval)
    (lineNumber : Option String)
    (notification : Notification) :
    List OutboundPdu :=
  (match retrieval.transactionId with
    | some id => if id = "" then [] else [.acknowledgment mmsVersion id (lineNumber.getD "")]
    | none => []) ++
    [.notificationResponse mmsVersion notification.transactionId retrievedStatus]

theorem map_pdu_acknowledgments
    (location : String)
    (subscription : Subscription)
    (retrieval : Retrieval)
    (lineNumber : Option String)
    (notification : Notification) :
    (acknowledgments location subscription retrieval lineNumber notification).map (·.attempt.pdu) =
      units retrieval lineNumber notification := by
  unfold acknowledgments units
  cases retrieval.transactionId with
  | none => rfl
  | some id => by_cases empty : id = "" <;>
      simp [empty, AckAttempt.pdu, OutboundPdu.acknowledge, OutboundPdu.retrieved]

/-- A calm run hands over acknowledgments once at most, and exactly when they are due, with the
notification store as it is when the notification is loaded. What it hands over does not depend on what
the message store says, on the transaction that the download names or on the status of the fetch. -/
theorem process_acknowledges
    {σ : Type}
    {environment : Environment σ}
    {rows : σ → NotificationStore}
    (loads : LoadsFrom environment rows)
    (standard : Subscription)
    (download : Download)
    (start : σ)
    (calm : ((process standard download).history environment start).Calm) :
    let history := (process standard download).history environment start
    let loading := ((process standard download).advance environment isLoad start).2
    let subscription := download.subscription.getD standard
    history.calls.countP isSubmit ≤ 1 ∧
      (∃ sources : Sources, ∀ event ∈ history, sources.Agree event) ∧
      (∀ sources : Sources, (∀ event ∈ history, sources.Agree event) → ∀ tasks,
        .submit tasks ∈ history.calls ↔
          ∃ retrieval notification,
            Due sources download.path subscription download.notificationUri (rows loading) retrieval
                notification ∧
              tasks =
                acknowledgments download.location subscription retrieval
                  (sources.lineNumber subscription) notification ∧
              tasks.map (·.attempt.pdu) =
                units retrieval (sources.lineNumber subscription) notification) ∧
      ∀ tasks, .submit tasks ∈ history.calls →
        ∃ before after : History,
          history = before ++ .answered (.submit tasks) () :: after ∧
            InPlace download.location before after := by
  intro history loading subscription
  have course := leads_run environment (process standard download) start
  obtain ⟨outcome, _, runs⟩ := runs_of_calm calm
  have loaded : ∀ named loaded, .answered (.load named) loaded ∈ history →
      loaded = (rows loading).load named := by
    intro named loaded member
    obtain ⟨earlier, later, happens, first⟩ := runs.load_first member
    obtain ⟨afterwards, answered⟩ := answer_of_advance happens rfl first
    exact loads named loading loaded afterwards answered
  refine ⟨countP_isSubmit_le_one course, runs.exists_agree, fun sources agree tasks => ?_,
    fun tasks => runs.inPlace⟩
  rw [runs.submit_mem_iff agree loaded]
  constructor
  · rintro ⟨retrieval, notification, due, rfl⟩
    exact ⟨retrieval, notification, due, rfl, map_pdu_acknowledgments _ _ _ _ _⟩
  · rintro ⟨retrieval, notification, due, decided, _⟩
    exact ⟨retrieval, notification, due, decided⟩

/-- A greeting that answers a notification, with all that it takes to acknowledge it. -/
theorem process_acknowledges_filedGreeting :
    LoadsFrom (Inbox.environment greetingAnswers (.ofNat 7)) Inbox.notifications ∧
    ((process .standard filedGreeting).history
      (Inbox.environment greetingAnswers (.ofNat 7)) (greetingInbox [1, 2])).Calm ∧
    let history :=
      (process .standard filedGreeting).history
        (Inbox.environment greetingAnswers (.ofNat 7)) (greetingInbox [1, 2])
    let loading :=
      ((process .standard filedGreeting).advance
        (Inbox.environment greetingAnswers (.ofNat 7)) isLoad (greetingInbox [1, 2])).2
    history.calls.countP isSubmit ≤ 1 ∧
      (∃ sources : Sources, ∀ event ∈ history, sources.Agree event) ∧
      (∀ sources : Sources, (∀ event ∈ history, sources.Agree event) → ∀ tasks,
        .submit tasks ∈ history.calls ↔
          ∃ retrieval notification,
            Due sources filedGreeting.path .standard filedGreeting.notificationUri
                loading.notifications retrieval notification ∧
              tasks =
                acknowledgments filedGreeting.location .standard retrieval
                  (sources.lineNumber .standard) notification ∧
              tasks.map (·.attempt.pdu) =
                units retrieval (sources.lineNumber .standard) notification) ∧
      ∀ tasks, .submit tasks ∈ history.calls →
        ∃ before after : History,
          history = before ++ .answered (.submit tasks) () :: after ∧
            InPlace filedGreeting.location before after := by
  have loads : LoadsFrom (Inbox.environment greetingAnswers (.ofNat 7)) Inbox.notifications :=
    fun _ _ _ _ answered => (Inbox.keepsNotifications greetingAnswers (.ofNat 7)).loaded answered
  have calm :=
    Inbox.calm_history greetingAnswers (.ofNat 7) (process .standard filedGreeting)
      (greetingInbox [1, 2])
  exact ⟨loads, calm,
    process_acknowledges loads .standard filedGreeting (greetingInbox [1, 2]) calm⟩

end MmsInbox.Receive
