import MmsInbox.Inbox
import MmsInbox.Proofs.Receive.Course
import MmsInbox.Proofs.Receive.Outcome
import MmsInbox.Proofs.Store.Notifications

namespace MmsInbox

/-!
# What a run leaves of the notifications

Three steps of a run write to the notification store: a blocked sender and a stale fetch delete the
pending rows of the location, and an empty file marks them. What they leave, one after the other, is what
the history makes of the rows (`History.rewrite`), and a calm run has the rows settled as its outcome and
its status say (`process_settled`).
-/

open Program NotificationStore

/-- What an event makes of the rows of a notification store. -/
def Event.rewrite : Event → NotificationStore → NotificationStore
  | .answered (.deletePending location) _, store => (store.deletePending location).2
  | .answered (.updateRetrieveStatus location status) _, store =>
      (store.updateRetrieveStatus location status).2
  | _, store => store

/-- What a history makes of the rows of a notification store. -/
def History.rewrite
    (history : History)
    (store : NotificationStore) :
    NotificationStore :=
  history.foldl (fun rows event => event.rewrite rows) store

/-- Whether a question makes a notification store change its rows. -/
def Call.rewrites : Call → Bool
  | .deletePending _ => true
  | .updateRetrieveStatus _ _ => true
  | _ => false

/-- An environment with a notification store in memory: its questions are answered from the rows and
change them, and nothing else does. -/
structure KeepsNotifications
    {σ : Type}
    (environment : Environment σ)
    (rows : σ → NotificationStore) :
    Prop where
  loaded
    {uri : String}
    {answer : Except StoreError Notification}
    {state later : σ}
    (answered : environment.answer (.load uri) state = (.ok answer, later)) :
    answer = (rows state).load uri
  deleted
    {location : String}
    {answer : Except StoreError Nat}
    {state later : σ}
    (answered : environment.answer (.deletePending location) state = (.ok answer, later)) :
    (answer, rows later) =
      (.ok ((rows state).deletePending location).1, ((rows state).deletePending location).2)
  marked
    {location : String}
    {status : UInt8}
    {answer : Except StoreError Nat}
    {state later : σ}
    (answered :
      environment.answer (.updateRetrieveStatus location status) state = (.ok answer, later)) :
    (answer, rows later) =
      (.ok ((rows state).updateRetrieveStatus location status).1,
        ((rows state).updateRetrieveStatus location status).2)
  asked
    {call : Call}
    {answer : call.Answer}
    {state later : σ}
    (other : call.rewrites = false)
    (answered : environment.answer call state = (.ok answer, later)) :
    rows later = rows state
  acted
    (action : Action)
    (state : σ) :
    rows (environment.perform action state).2 = rows state

namespace KeepsNotifications

variable
  {σ : Type}
  {environment : Environment σ}
  {rows : σ → NotificationStore}
  {before after : σ}

/-- Short of a panic, an event makes of the rows what it says. -/
theorem rows_of_yields
    (keeps : KeepsNotifications environment rows)
    {event : Event}
    (calm : event.isPanic = false)
    (yields : environment.Yields event before after) :
    rows after = event.rewrite (rows before) := by
  cases event with
  | panicked call panic => cases calm
  | acted action answer =>
      rw [← keeps.acted action before, Prod.mk.inj yields |>.2]
      rfl
  | answered call answer =>
      cases call with
      | deletePending location => exact (Prod.mk.inj (keeps.deleted yields)).2
      | updateRetrieveStatus location status => exact (Prod.mk.inj (keeps.marked yields)).2
      | _ => exact keeps.asked rfl yields

/-- A calm history makes of the rows what its events make of them. -/
theorem rows_of_passes
    (keeps : KeepsNotifications environment rows)
    {history : History}
    (calm : history.Calm)
    (passes : history.Passes environment.Yields before after) :
    rows after = history.rewrite (rows before) := by
  induction history generalizing before with
  | nil => exact congrArg rows passes
  | cons event later inductionHypothesis =>
      obtain ⟨between, yields, rest⟩ := passes
      have stepped := keeps.rows_of_yields (calm event List.mem_cons_self) yields
      rw [inductionHypothesis calm.tail rest, stepped]
      rfl

end KeepsNotifications

/-- An inbox has its notifications in memory. -/
theorem Inbox.keepsNotifications
    (otherwise : (call : Call) → call.Answer)
    (fresh : MessageId) :
    KeepsNotifications (environment otherwise fresh) Inbox.notifications where
  loaded answered := (answer_eq_ok_iff.mp answered).1
  deleted answered := by
    obtain ⟨rfl, rfl⟩ := answer_eq_ok_iff.mp answered
    rfl
  marked answered := by
    obtain ⟨rfl, rfl⟩ := answer_eq_ok_iff.mp answered
    rfl
  asked {call answer state later} other answered := by
    obtain ⟨-, rfl⟩ := answer_eq_ok_iff.mp answered
    cases call with
    | deletePending location => cases other
    | updateRetrieveStatus location status => cases other
    | _ => rfl
  acted action state := by
    cases action <;> rfl

namespace History

variable {store : NotificationStore}

@[simp] theorem rewrite_nil : rewrite [] store = store := rfl

@[simp] theorem rewrite_cons
    (event : Event)
    (later : History) :
    rewrite (event :: later) store = later.rewrite (event.rewrite store) := rfl

@[simp] theorem rewrite_append (first second : History) :
    rewrite (first ++ second) store = second.rewrite (first.rewrite store) :=
  List.foldl_append

/-- Questions that do not change the rows leave the store as it is. -/
theorem rewrite_of_calls
    {history : History}
    (quiet : ∀ call ∈ history.calls, call.rewrites = false) :
    history.rewrite store = store := by
  induction history with
  | nil => rfl
  | cons event later inductionHypothesis =>
      have unchanged : event.rewrite store = store := by
        cases event with
        | panicked call panic => rfl
        | acted action answer => rfl
        | answered call answer =>
            have other := quiet call List.mem_cons_self
            cases call with
            | deletePending location => cases other
            | updateRetrieveStatus location status => cases other
            | _ => rfl
      rw [rewrite_cons, unchanged]
      refine inductionHypothesis fun call put => quiet call ?_
      cases event with
      | acted action answer => exact put
      | _ => exact List.mem_cons_of_mem _ put

end History

namespace Receive

variable
  {location : String}
  {subscription : Subscription}
  {history : History}
  {store : NotificationStore}

theorem TakesIn.rewrite_eq
    {path : String}
    {content : Except File.Error Bytes}
    (takes : TakesIn path content history) :
    history.rewrite store = store := by
  obtain ⟨removal, notes, justNotes, rfl⟩ := takes
  exact History.rewrite_of_calls (by simp [justNotes.calls_eq_nil])

theorem Deletes.rewrite_eq
    {reason : String}
    (deletes : Deletes location reason history) :
    history.rewrite store = (store.deletePending location).2 := by
  cases deletes <;> rfl

theorem Marks.rewrite_eq (marks : Marks location history) :
    history.rewrite store = (store.updateRetrieveStatus location errorRetrieveStatus).2 := by
  obtain ⟨result, notes, justNotes, rfl⟩ := marks
  rw [History.rewrite_cons]
  exact History.rewrite_of_calls (by simp [justNotes.calls_eq_nil])

theorem Acknowledges.rewrite_eq
    {uri : Option String}
    {retrieval : Retrieval}
    (acknowledges : Acknowledges location subscription uri retrieval history) :
    history.rewrite store = store := by
  refine History.rewrite_of_calls ?_
  cases acknowledges with
  | unconfigured lineNumber justNotes =>
      simp [justNotes.calls_eq_nil, Call.rewrites]
  | unnamed credentials lineNumber nameless justNotes =>
      simp [justNotes.calls_eq_nil, Call.rewrites]
  | unavailable credentials error lineNumber name justNotes justMore =>
      simp [justNotes.calls_eq_nil, justMore.calls_eq_nil, Call.rewrites]
  | submitted credentials notification lineNumber name =>
      simp [Call.rewrites]

/-- A blocked sender loses its pending rows. -/
theorem Screens.rewrite_eq
    {sender : Option String}
    {verdict : Verdict}
    (screens : Screens sender location verdict history) :
    history.rewrite store =
      match verdict with
      | .allowed => store
      | .blocked => (store.deletePending location).2 := by
  cases screens with
  | anonymous unknown => rfl
  | admitted known => rfl
  | blocked known deletes => exact deletes.rewrite_eq

/-- Before it cleans up, a run writes to the store if the sender is blocked or the file empty. -/
theorem Receives.rewrite_eq
    {download : Download}
    {outcome : Outcome}
    (receives : Receives download subscription outcome history) :
    history.rewrite store =
      if outcome = .blocked then (store.deletePending download.location).2
      else if outcome = .failed (.decode .empty) then
        (store.updateRetrieveStatus download.location errorRetrieveStatus).2
      else store := by
  cases receives with
  | unread takes => simp [takes.rewrite_eq]
  | empty takes marks => simp [takes.rewrite_eq, marks.rewrite_eq]
  | malformed takes nonempty => simp [takes.rewrite_eq, Event.rewrite]
  | unexpected takes nonempty other => simp [takes.rewrite_eq, Event.rewrite]
  | blocked takes nonempty screens =>
      simp [takes.rewrite_eq, screens.rewrite_eq, Event.rewrite]
  | unstored takes nonempty screens acknowledges =>
      simp [takes.rewrite_eq, screens.rewrite_eq, acknowledges.rewrite_eq, Event.rewrite]
  | stored takes nonempty screens acknowledges =>
      simp [takes.rewrite_eq, screens.rewrite_eq, acknowledges.rewrite_eq, Event.rewrite]

/-- A stale fetch loses its pending rows. -/
theorem Cleans.rewrite_eq
    {status : Option FetchStatus}
    (cleans : Cleans status location history) :
    history.rewrite store =
      if status = some ⟨400⟩ ∨ status = some ⟨404⟩ then (store.deletePending location).2
      else store := by
  rcases cleans.spared_or_deleted with ⟨current, rfl⟩ | ⟨stale, reason, deletes⟩
  · rw [if_neg current, History.rewrite_nil]
  · rw [if_pos stale, deletes.rewrite_eq]

theorem Reports.rewrite_eq
    {outcome : Outcome}
    (reports : Reports location outcome history) :
    history.rewrite store = store := by
  cases reports <;> rfl

/-- A calm run deletes the pending rows of its location, marks them, or leaves the store as it is. -/
theorem Runs.rewrite_eq
    {download : Download}
    {outcome : Outcome}
    (runs : Runs download subscription outcome history) :
    history.rewrite store =
      if outcome = .blocked ∨ download.status = some ⟨400⟩ ∨ download.status = some ⟨404⟩ then
        (store.deletePending download.location).2
      else if outcome = .failed (.decode .empty) then
        (store.updateRetrieveStatus download.location errorRetrieveStatus).2
      else store := by
  obtain ⟨began, receives, cleans, reports⟩ := runs
  simp only [History.rewrite_append, receives.rewrite_eq, cleans.rewrite_eq, History.rewrite_cons,
    reports.rewrite_eq, Event.rewrite]
  by_cases stale : download.status = some ⟨400⟩ ∨ download.status = some ⟨404⟩
  · rw [if_pos stale, if_pos (Or.inr stale)]
    split
    · exact deletePending_deletePending _ _
    · split
      · exact deletePending_markings _ _ _
      · rfl
  · simp only [stale, if_false, or_false]

/-- Somebody says that a sender is blocked. -/
def SenderBlocked (history : History) : Prop :=
  ∃ address, .answered (.isAddressBlocked address) true ∈ history

/-- A file is found to be empty. -/
def FoundEmpty
    (path : String)
    (history : History) :
    Prop :=
  .acted (.readFile path) (.ok []) ∈ history

/-- A file that is taken in is read once. -/
theorem TakesIn.read_iff
    {path : String}
    {content other : Except File.Error Bytes}
    (takes : TakesIn path content history) :
    .acted (.readFile path) other ∈ history ↔ other = content := by
  obtain ⟨removal, notes, justNotes, rfl⟩ := takes
  have unnoted : .acted (.readFile path) other ∉ notes := justNotes.not_mem rfl
  simp [unnoted]

/-- Before a run cleans up, nobody says that a sender is blocked unless that is the outcome. -/
theorem Receives.senderBlocked_iff
    {download : Download}
    {outcome : Outcome}
    (receives : Receives download subscription outcome history) :
    SenderBlocked history ↔ outcome = .blocked := by
  have takenIn : ∀ {path content taking} address,
      TakesIn path content taking → .answered (.isAddressBlocked address) true ∉ taking :=
    fun _ takes => not_mem_of_kind takes.kind rfl
  have acknowledged : ∀ {uri retrieval acknowledging} address,
      Acknowledges download.location subscription uri retrieval acknowledging →
        .answered (.isAddressBlocked address) true ∉ acknowledging :=
    fun _ acknowledges => not_mem_of_kind acknowledges.kind rfl
  unfold SenderBlocked
  cases receives with
  | unread takes => simp [takenIn _ takes]
  | empty takes marks =>
      obtain ⟨result, notes, justNotes, rfl⟩ := marks
      have unnoted : ∀ address, .answered (.isAddressBlocked address) true ∉ notes :=
        fun _ => justNotes.not_mem rfl
      simp [takenIn _ takes, unnoted]
  | malformed takes nonempty => simp [takenIn _ takes]
  | unexpected takes nonempty other => simp [takenIn _ takes]
  | blocked takes nonempty screens =>
      cases screens
      simp [takenIn _ takes]
  | unstored takes nonempty screens acknowledges =>
      cases screens <;> simp [takenIn _ takes, acknowledged _ acknowledges]
  | stored takes nonempty screens acknowledges =>
      cases screens <;> simp [takenIn _ takes, acknowledged _ acknowledges]

/-- Before a run cleans up, its file is found to be empty exactly if that is the outcome. -/
theorem Receives.foundEmpty_iff
    {download : Download}
    {outcome : Outcome}
    (receives : Receives download subscription outcome history) :
    FoundEmpty download.path history ↔ outcome = .failed (.decode .empty) := by
  have acknowledged : ∀ {uri retrieval acknowledging},
      Acknowledges download.location subscription uri retrieval acknowledging →
        .acted (.readFile download.path) (.ok []) ∉ acknowledging :=
    fun acknowledges => not_mem_of_kind acknowledges.kind rfl
  have deleted : ∀ {reason deleting},
      Deletes download.location reason deleting →
        .acted (.readFile download.path) (.ok []) ∉ deleting :=
    fun deletes => not_mem_of_kind deletes.kind rfl
  unfold FoundEmpty
  cases receives with
  | unread takes => simp [takes.read_iff]
  | empty takes marks => simp [takes.read_iff]
  | malformed takes nonempty => simp [takes.read_iff, nonempty.symm]
  | unexpected takes nonempty other => simp [takes.read_iff, nonempty.symm]
  | blocked takes nonempty screens =>
      cases screens with
      | blocked known deletes => simp [takes.read_iff, nonempty.symm, deleted deletes]
  | unstored takes nonempty screens acknowledges =>
      cases screens <;>
        simp [takes.read_iff, nonempty.symm, acknowledged acknowledges]
  | stored takes nonempty screens acknowledges =>
      cases screens <;>
        simp [takes.read_iff, nonempty.symm, acknowledged acknowledges]

/-- After a run has received, nobody says that a sender is blocked. -/
theorem Runs.senderBlocked_iff
    {download : Download}
    {outcome : Outcome}
    (runs : Runs download subscription outcome history) :
    SenderBlocked history ↔ outcome = .blocked := by
  obtain @⟨receiving, cleaning, reporting, began, receives, cleans, reports⟩ := runs
  have cleaned : ∀ address, .answered (.isAddressBlocked address) true ∉ cleaning :=
    fun _ => not_mem_of_kind cleans.kind rfl
  have reported : ∀ address, .answered (.isAddressBlocked address) true ∉ reporting :=
    fun _ => not_mem_of_kind reports.kind rfl
  rw [← receives.senderBlocked_iff]
  simp [SenderBlocked, cleaned, reported]

/-- After a run has received, no file is read. -/
theorem Runs.foundEmpty_iff
    {download : Download}
    {outcome : Outcome}
    (runs : Runs download subscription outcome history) :
    FoundEmpty download.path history ↔ outcome = .failed (.decode .empty) := by
  obtain @⟨receiving, cleaning, reporting, began, receives, cleans, reports⟩ := runs
  have cleaned : .acted (.readFile download.path) (.ok []) ∉ cleaning :=
    not_mem_of_kind cleans.kind rfl
  have reported : .acted (.readFile download.path) (.ok []) ∉ reporting :=
    not_mem_of_kind reports.kind rfl
  rw [← receives.foundEmpty_iff]
  simp [FoundEmpty, cleaned, reported]

/-- A notification store is as a run should have left it, by what has happened and the status of the
fetch. -/
structure Settled
    (download : Download)
    (history : History)
    (before after : NotificationStore) :
    Prop where
  noneAdded
    {uri : String}
    (vacant : before.get? uri = none) :
    after.get? uri = none
  /-- The rows of other locations, and those of other kinds, are as before. -/
  othersKept
    {uri : String}
    {row : NotificationRow}
    (held : before.get? uri = some row)
    (other : ¬(row.kind = .notification ∧ row.notification.location = download.location)) :
    after.get? uri = some row
  deleted
    {uri : String}
    {row : NotificationRow}
    (held : before.get? uri = some row)
    (pending : row.kind = .notification ∧ row.notification.location = download.location)
    (unwanted :
      SenderBlocked history ∨ download.status = some ⟨400⟩ ∨ download.status = some ⟨404⟩) :
    after.get? uri = none
  marked
    {uri : String}
    {row : NotificationRow}
    (held : before.get? uri = some row)
    (pending : row.kind = .notification ∧ row.notification.location = download.location)
    (wanted :
      ¬(SenderBlocked history ∨ download.status = some ⟨400⟩ ∨ download.status = some ⟨404⟩))
    (empty : FoundEmpty download.path history) :
    after.get? uri = some { row with retrieveStatus := some 0xFF }
  kept
    {uri : String}
    {row : NotificationRow}
    (held : before.get? uri = some row)
    (pending : row.kind = .notification ∧ row.notification.location = download.location)
    (wanted :
      ¬(SenderBlocked history ∨ download.status = some ⟨400⟩ ∨ download.status = some ⟨404⟩))
    (nonempty : ¬FoundEmpty download.path history) :
    after.get? uri = some row

/-- What the history of a calm run makes of the rows is what it should. -/
theorem Runs.settled
    {download : Download}
    {outcome : Outcome}
    (runs : Runs download subscription outcome history)
    (store : NotificationStore) :
    Settled download history store (history.rewrite store) where
  noneAdded {uri} vacant := by
    rw [runs.rewrite_eq]
    split
    · rw [get?_deletePending, vacant]
      rfl
    · split
      · rw [get?_updateRetrieveStatus, vacant]
        rfl
      · exact vacant
  othersKept {uri row} held other := by
    rw [← NotificationRow.isPendingFor_iff, Bool.not_eq_true] at other
    rw [runs.rewrite_eq]
    split
    · rw [get?_deletePending, held]
      simp [Option.filter, other]
    · split
      · rw [get?_updateRetrieveStatus, held, Option.map_some,
          NotificationRow.markedFor_of_not_pending other]
      · exact held
  deleted {uri row} held pending unwanted := by
    rw [runs.senderBlocked_iff] at unwanted
    rw [runs.rewrite_eq, if_pos unwanted, get?_deletePending, held]
    simp [Option.filter, NotificationRow.isPendingFor_iff.mpr pending]
  marked {uri row} held pending wanted empty := by
    rw [runs.senderBlocked_iff] at wanted
    rw [runs.rewrite_eq, if_neg wanted, if_pos (runs.foundEmpty_iff.mp empty),
      get?_updateRetrieveStatus, held, Option.map_some, NotificationRow.markedFor,
      if_pos (NotificationRow.isPendingFor_iff.mpr pending)]
    rfl
  kept {uri row} held _ wanted nonempty := by
    rw [runs.senderBlocked_iff] at wanted
    rw [runs.rewrite_eq, if_neg wanted, if_neg (mt runs.foundEmpty_iff.mpr nonempty), held]

/-- Whatever its outcome, a run in which no collaborator panics leaves the notifications settled. -/
theorem process_settled
    {σ : Type}
    {environment : Environment σ}
    {rows : σ → NotificationStore}
    (keeps : KeepsNotifications environment rows)
    (standard : Subscription)
    (download : Download)
    (start : σ)
    (calm : ((process standard download).history environment start).Calm) :
    ∃ outcome,
      ((process standard download).run environment start).1 = .ok outcome ∧
      Settled download ((process standard download).history environment start) (rows start)
        (rows ((process standard download).run environment start).2) := by
  obtain ⟨outcome, value, runs⟩ := runs_of_calm calm
  have rewritten :=
    keeps.rows_of_passes calm (passes_run environment (process standard download) start)
  rw [rewritten]
  exact ⟨outcome, value, runs.settled _⟩

/-- Every payload is a greeting that asks for an acknowledgment, nobody is blocked, and there are carrier
settings. -/
def greetingAnswers : (call : Call) → call.Answer
  | .parse _ => .ok (.retrieval { greeting with transactionId := some "R7" })
  | .isAddressBlocked _ => false
  | .relayCredentials _ => some ⟨"http://relay.example/", none⟩
  | .lineNumber _ => some "+15550002"
  | .onMessageReceived _ => ()
  | .onError _ => ()
  | .submit _ => ()
  | .post _ => ()
  | .prefersDirectPath => false
  | .ensureRouteToHost _ _ => .ok ()
  | .compose _ => .error (.other "out of reach")
  | .awaitResponse => .error (.client "out of reach")
  | .persist _ => .error .poisoned
  | .load _ => .error .poisoned
  | .deletePending _ => .error .poisoned
  | .updateRetrieveStatus _ _ => .error .poisoned

/-- A finished download in the working directory that names a notification. -/
def filedGreeting : Download :=
  { arrivedGreeting with
    path := "greeting"
    notificationUri := some "content://mms/7" }

/-- An inbox with a greeting to take in and the notification of it. -/
def greetingInbox (content : Bytes) : Inbox where
  directory := ⟨[(["greeting"], .file content)]⟩
  messages := .empty none
  notifications :=
    NotificationStore.empty.insert
      ⟨"content://mms/7", .notification, ⟨"N7", filedGreeting.location, none, none⟩, none⟩
  downloads := .empty

/-- A file that turns out to be empty, in an inbox with a notification of it. -/
theorem process_settled_emptyGreeting :
    KeepsNotifications (Inbox.environment greetingAnswers (.ofNat 7)) Inbox.notifications ∧
    ((process .standard filedGreeting).history
      (Inbox.environment greetingAnswers (.ofNat 7)) (greetingInbox [])).Calm ∧
    ∃ outcome,
      ((process .standard filedGreeting).run
          (Inbox.environment greetingAnswers (.ofNat 7)) (greetingInbox [])).1 = .ok outcome ∧
      Settled filedGreeting
        ((process .standard filedGreeting).history
          (Inbox.environment greetingAnswers (.ofNat 7)) (greetingInbox []))
        (greetingInbox []).notifications
        ((process .standard filedGreeting).run
          (Inbox.environment greetingAnswers (.ofNat 7)) (greetingInbox [])).2.notifications := by
  have keeps := Inbox.keepsNotifications greetingAnswers (.ofNat 7)
  have calm :=
    Inbox.calm_history greetingAnswers (.ofNat 7) (process .standard filedGreeting)
      (greetingInbox [])
  exact ⟨keeps, calm, process_settled keeps .standard filedGreeting (greetingInbox []) calm⟩

end Receive

end MmsInbox
