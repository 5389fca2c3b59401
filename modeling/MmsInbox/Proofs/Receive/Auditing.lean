import Mathlib.Algebra.Ring.Nat
import MmsInbox.Program.Auditing
import MmsInbox.Proofs.Receive.Rows

namespace MmsInbox

/-!
# What a run tells the audit

A run tells of a received message if that is its outcome, of a blocked sender if that is its outcome, and
of rows as often as the notification store has removed some (`Receive.Runs.tallied`). Each deletion removes
from the store as many rows as it counts, so the numbers of a run add up to the rows that are missing after
it (`KeepsNotifications.sum_removed_of_passes`, `Receive.reconciled_of_calm`), whichever parts of the run
have deleted some.
-/

open Program NotificationStore

namespace AuditEvent

/-- A message was received. -/
def isReceipt : AuditEvent → Bool
  | .messageReceived .. => true
  | _ => false

/-- A sender was blocked. -/
def isRefusal : AuditEvent → Bool
  | .senderBlocked .. => true
  | _ => false

/-- The number of notifications that were removed. -/
def removed? : AuditEvent → Option Nat
  | .notificationRemoved _ _ removed => some removed
  | _ => none

end AuditEvent

namespace AuditSettings

variable
  (settings : AuditSettings)
  (event : AuditEvent)

/-- What an event tells of is not redacted, whoever it tells of. -/
@[simp] theorem isReceipt_shown : (settings.shown event).isReceipt = event.isReceipt := by
  unfold shown
  split
  · cases event <;> rfl
  · rfl

@[simp] theorem isRefusal_shown : (settings.shown event).isRefusal = event.isRefusal := by
  unfold shown
  split
  · cases event <;> rfl
  · rfl

@[simp] theorem removed?_shown : (settings.shown event).removed? = event.removed? := by
  unfold shown
  split
  · cases event <;> rfl
  · rfl

end AuditSettings

/-- The number of rows that a notification store says it has deleted. -/
def Event.removed? : Event → Option Nat
  | .answered (.deletePending _) (.ok removed) => some removed
  | _ => none

namespace KeepsNotifications

variable
  {σ : Type}
  {environment : Environment σ}
  {rows : σ → NotificationStore}
  {before after : σ}

/-- An audit leaves the notifications alone. -/
theorem audited
    (keeps : KeepsNotifications environment rows)
    (settings : AuditSettings) :
    KeepsNotifications (environment.audited settings) fun world => rows world.1 where
  loaded answered := keeps.loaded (Prod.ext (Prod.mk.inj answered).1 rfl)
  deleted answered := by
    obtain ⟨result, rfl⟩ := Prod.mk.inj answered
    exact keeps.deleted (Prod.ext result rfl)
  marked answered := by
    obtain ⟨result, rfl⟩ := Prod.mk.inj answered
    exact keeps.marked (Prod.ext result rfl)
  asked other answered := by
    obtain ⟨result, rfl⟩ := Prod.mk.inj answered
    exact keeps.asked other (Prod.ext result rfl)
  acted action state := by
    cases action with
    | audit event => rfl
    | _ => exact keeps.acted _ _

/-- The rows that an event removes are those that the store has told of. -/
theorem removed_of_yields
    (keeps : KeepsNotifications environment rows)
    {event : Event}
    (calm : event.isPanic = false)
    (yields : environment.Yields event before after) :
    event.removed?.toList.sum + (rows after).size = (rows before).size := by
  have rewritten := keeps.rows_of_yields calm yields
  cases event with
  | panicked call panic => cases calm
  | acted action answer => simp [rewritten, Event.removed?, Event.rewrite]
  | answered call answer =>
      cases call with
      | deletePending location =>
          obtain ⟨rfl, _⟩ := Prod.mk.inj (keeps.deleted yields)
          simpa [rewritten, Event.removed?, Event.rewrite] using deletePending_size _ _
      | updateRetrieveStatus location status =>
          simp [rewritten, Event.removed?, Event.rewrite]
      | _ => simp [rewritten, Event.removed?, Event.rewrite]

/-- The rows that a calm history removes are those that the store has told of. -/
theorem sum_removed_of_passes
    (keeps : KeepsNotifications environment rows)
    {history : History}
    (calm : history.Calm)
    (passes : history.Passes environment.Yields before after) :
    (history.filterMap Event.removed?).sum + (rows after).size = (rows before).size := by
  induction history generalizing before with
  | nil => simp [History.passes_nil.mp passes]
  | cons event later inductionHypothesis =>
      obtain ⟨between, yields, rest⟩ := passes
      have now := keeps.removed_of_yields (calm event List.mem_cons_self) yields
      have afterwards := inductionHypothesis calm.tail rest
      have split :
          ((event :: later).filterMap Event.removed?).sum =
            event.removed?.toList.sum + (later.filterMap Event.removed?).sum := by
        cases told : event.removed? <;> simp [told]
      omega

end KeepsNotifications

namespace Receive

/-- What the audit is told of in the course of a history: these received messages, these blocked senders,
and the rows that the notification store has deleted. -/
structure Tallied
    (receipts refusals : List AuditEvent)
    (history : History) :
    Prop where
  receipts : history.audits.filter AuditEvent.isReceipt = receipts
  refusals : history.audits.filter AuditEvent.isRefusal = refusals
  removals : history.audits.filterMap AuditEvent.removed? = history.filterMap Event.removed?

/-- Neither is the audit told of anything nor are rows deleted. -/
def Event.IsSilent (event : Event) : Prop :=
  event.audited? = none ∧ event.removed? = none

namespace Tallied

variable
  {receipts refusals : List AuditEvent}
  {history : History}

theorem append
    {moreReceipts moreRefusals : List AuditEvent}
    {later : History}
    (first : Tallied receipts refusals history)
    (second : Tallied moreReceipts moreRefusals later) :
    Tallied (receipts ++ moreReceipts) (refusals ++ moreRefusals) (history ++ later) where
  receipts := by simp [first.receipts, second.receipts]
  refusals := by simp [first.refusals, second.refusals]
  removals := by simp [first.removals, second.removals]

theorem of_silent (silent : ∀ event ∈ history, Event.IsSilent event) : Tallied [] [] history := by
  have untold : history.audits = [] :=
    List.filterMap_eq_nil_iff.mpr fun event member => (silent event member).1
  have undeleted : history.filterMap Event.removed? = [] :=
    List.filterMap_eq_nil_iff.mpr fun event member => (silent event member).2
  refine ⟨?_, ?_, ?_⟩
  · rw [untold, List.filter_nil]
  · rw [untold, List.filter_nil]
  · rw [untold, undeleted, List.filterMap_nil]

/-- What is silent may come before. -/
theorem cons
    {event : Event}
    (silent : Event.IsSilent event)
    (rest : Tallied receipts refusals history) :
    Tallied receipts refusals (event :: history) :=
  (of_silent (List.forall_mem_singleton.mpr silent)).append rest

end Tallied

section Parts

variable
  {location : String}
  {history : History}

theorem isSilent_of_isNote
    {event : Event}
    (note : event.isNote = true) :
    Event.IsSilent event := by
  cases event with
  | answered call answer => cases note
  | panicked call panic => cases note
  | acted action answer =>
      cases action with
      | note notice => exact ⟨rfl, rfl⟩
      | _ => cases note

theorem tallied_of_justNotes (justNotes : history.JustNotes) : Tallied [] [] history :=
  .of_silent fun event member => isSilent_of_isNote (justNotes event member)

/-- Nothing is told while a file is taken in. -/
theorem TakesIn.tallied
    {path : String}
    {content : Except File.Error Bytes}
    (takes : TakesIn path content history) :
    Tallied [] [] history := by
  obtain ⟨removal, notes, justNotes, rfl⟩ := takes
  exact .cons ⟨rfl, rfl⟩ (.cons ⟨rfl, rfl⟩ (tallied_of_justNotes justNotes))

theorem Marks.tallied (marks : Marks location history) : Tallied [] [] history := by
  obtain ⟨result, notes, justNotes, rfl⟩ := marks
  exact .cons ⟨rfl, rfl⟩ (tallied_of_justNotes justNotes)

/-- Nothing is told while acknowledgments are handed over. -/
theorem Acknowledges.tallied
    {subscription : Subscription}
    {uri : Option String}
    {retrieval : Retrieval}
    (acknowledges : Acknowledges location subscription uri retrieval history) :
    Tallied [] [] history := by
  cases acknowledges with
  | unconfigured lineNumber justNotes =>
      exact .cons ⟨rfl, rfl⟩ (.cons ⟨rfl, rfl⟩ (tallied_of_justNotes justNotes))
  | unnamed credentials lineNumber nameless justNotes =>
      exact .cons ⟨rfl, rfl⟩ (.cons ⟨rfl, rfl⟩ (tallied_of_justNotes justNotes))
  | unavailable credentials error lineNumber name justNotes justMore =>
      exact .cons ⟨rfl, rfl⟩ (.cons ⟨rfl, rfl⟩
        ((tallied_of_justNotes justNotes).append
          (.cons ⟨rfl, rfl⟩ (tallied_of_justNotes justMore))))
  | submitted credentials notification lineNumber name =>
      exact .cons ⟨rfl, rfl⟩ (.cons ⟨rfl, rfl⟩ (.cons ⟨rfl, rfl⟩ (.cons ⟨rfl, rfl⟩
        (.of_silent (List.forall_mem_nil _)))))

/-- If rows are deleted, their number is told. -/
theorem Deletes.tallied
    {reason : String}
    (deletes : Deletes location reason history) :
    Tallied [] [] history := by
  cases deletes with
  | removed count => exact ⟨rfl, rfl, rfl⟩
  | failed error notice => exact ⟨rfl, rfl, rfl⟩

theorem Cleans.tallied
    {status : Option FetchStatus}
    (cleans : Cleans status location history) :
    Tallied [] [] history := by
  cases cleans with
  | spared current => exact .of_silent (List.forall_mem_nil _)
  | deleted reports stale deletes => exact deletes.tallied

theorem Reports.tallied
    {outcome : Outcome}
    (reports : Reports location outcome history) :
    Tallied [] [] history := by
  cases reports <;> exact ⟨rfl, rfl, rfl⟩

theorem Screens.tallied_of_allowed
    {sender : Option String}
    (screens : Screens sender location .allowed history) :
    Tallied [] [] history := by
  cases screens <;> exact ⟨rfl, rfl, rfl⟩

/-- If a sender is blocked, that is told once. -/
theorem Screens.tallied_of_blocked
    {sender : Option String}
    (screens : Screens sender location .blocked history) :
    ∃ address,
      .answered (.isAddressBlocked address) true ∈ history ∧
        Tallied [] [.senderBlocked address location] history := by
  cases screens with
  | @blocked address deleting known deletes =>
      have told :
          Tallied [] [.senderBlocked address location]
            [.answered (.isAddressBlocked address) true,
              .acted (.audit (.senderBlocked address location)) ()] :=
        ⟨rfl, rfl, rfl⟩
      exact ⟨address, List.mem_cons_self, told.append deletes.tallied⟩

end Parts

/-- What a run has to tell of, by its outcome: the message that was received or the sender that was
blocked, as they occur in its history. -/
inductive Tells
    (download : Download)
    (subscription : Subscription)
    (history : History) :
    Outcome → List AuditEvent → List AuditEvent → Prop where
  | received
      {payload : Bytes}
      {retrieval : Retrieval}
      {id : MessageId}
      (read : .acted (.readFile download.path) (.ok payload) ∈ history)
      (parsed : .answered (.parse payload) (.ok (.retrieval retrieval)) ∈ history)
      (persisted :
        .answered
          (.persist
            (recordOf download.location download.transactionId subscription payload retrieval))
          (.ok id) ∈ history) :
      Tells download subscription history (.received id)
        [.messageReceived id.text retrieval.sender? download.location payload.length] []
  | blocked
      {address : String}
      (barred : .answered (.isAddressBlocked address) true ∈ history) :
      Tells download subscription history .blocked [] [.senderBlocked address download.location]
  | failed (error : ReceiveError) : Tells download subscription history (.failed error) [] []
  | aborted : Tells download subscription history .aborted [] []

/-- The first part of a run tells what it has to tell. -/
theorem Receives.tallied
    {download : Download}
    {subscription : Subscription}
    {outcome : Outcome}
    {history : History}
    (receives : Receives download subscription outcome history) :
    ∃ receipts refusals,
      Tells download subscription history outcome receipts refusals ∧ Tallied receipts refusals history := by
  cases receives with
  | unread takes => exact ⟨_, _, .failed _, takes.tallied⟩
  | empty takes marks => exact ⟨_, _, .failed _, takes.tallied.append marks.tallied⟩
  | malformed takes nonempty =>
      exact ⟨_, _, .failed _, takes.tallied.append ⟨rfl, rfl, rfl⟩⟩
  | unexpected takes nonempty other =>
      exact ⟨_, _, .failed _, takes.tallied.append ⟨rfl, rfl, rfl⟩⟩
  | blocked takes nonempty screens =>
      obtain ⟨address, barred, told⟩ := screens.tallied_of_blocked
      exact ⟨_, _, .blocked (List.mem_append_right _ (List.mem_cons_of_mem _ barred)),
        takes.tallied.append (.cons ⟨rfl, rfl⟩ told)⟩
  | unstored takes nonempty screens acknowledges =>
      exact ⟨_, _, .failed _, takes.tallied.append (.cons ⟨rfl, rfl⟩
        (screens.tallied_of_allowed.append (.cons ⟨rfl, rfl⟩ acknowledges.tallied)))⟩
  | @stored payload retrieval id taking screening acknowledging takes nonempty screens acknowledges =>
      have told :
          Tallied [.messageReceived id.text retrieval.sender? download.location payload.length] []
            [.acted
              (.audit
                (.messageReceived id.text retrieval.sender? download.location payload.length))
              ()] :=
        ⟨rfl, rfl, rfl⟩
      refine ⟨_, _, .received ?_ ?_ ?_, takes.tallied.append (.cons ⟨rfl, rfl⟩
        (screens.tallied_of_allowed.append (.cons ⟨rfl, rfl⟩ (acknowledges.tallied.append told))))⟩
      · simp [takes.read_iff]
      · simp
      · simp

/-- What is told of a history is told of a longer one. -/
theorem Tells.mono
    {download : Download}
    {subscription : Subscription}
    {outcome : Outcome}
    {history longer : History}
    {receipts refusals : List AuditEvent}
    (within : history ⊆ longer)
    (tells : Tells download subscription history outcome receipts refusals) :
    Tells download subscription longer outcome receipts refusals := by
  cases tells with
  | received read parsed persisted =>
      exact .received (within read) (within parsed) (within persisted)
  | blocked barred => exact .blocked (within barred)
  | failed error => exact .failed error
  | aborted => exact .aborted

/-- A calm run tells what it has to tell, and of the rows that are deleted. -/
theorem Runs.tallied
    {download : Download}
    {subscription : Subscription}
    {outcome : Outcome}
    {history : History}
    (runs : Runs download subscription outcome history) :
    ∃ receipts refusals,
      Tells download subscription history outcome receipts refusals ∧
        Tallied receipts refusals history := by
  obtain ⟨began, receives, cleans, reports⟩ := runs
  obtain ⟨receipts, refusals, tells, tallied⟩ := receives.tallied
  refine ⟨receipts, refusals, tells.mono (List.subset_append_left _ _), ?_⟩
  simpa using tallied.append (cleans.tallied.append (.cons ⟨rfl, rfl⟩ reports.tallied))

/-- What was published of a run agrees with its outcome and with the notifications before and after it. -/
structure Reconciled
    (settings : AuditSettings)
    (download : Download)
    (subscription : Subscription)
    (outcome : Outcome)
    (history : History)
    (before after : NotificationStore)
    (published : List AuditEvent) :
    Prop where
  /-- The message that was received, or the sender that was blocked, is published once, and no other. -/
  told :
    ∃ receipts refusals,
      Tells download subscription history outcome receipts refusals ∧
        published.filter AuditEvent.isReceipt = receipts.map settings.shown ∧
        published.filter AuditEvent.isRefusal = refusals.map settings.shown
  /-- The numbers of removed notifications add up to the rows that are missing. -/
  removed :
    (published.filterMap AuditEvent.removed?).sum = (before.missing after).length

/-- All that a calm run hands to the audit agrees with what the run has done, redacted or not. -/
theorem Runs.reconciled
    {σ : Type}
    {environment : Environment σ}
    {rows : σ → NotificationStore}
    {download : Download}
    {subscription : Subscription}
    {outcome : Outcome}
    {history : History}
    {before after : σ}
    (runs : Runs download subscription outcome history)
    (keeps : KeepsNotifications environment rows)
    (calm : history.Calm)
    (passes : history.Passes environment.Yields before after)
    (settings : AuditSettings) :
    Reconciled settings download subscription outcome history (rows before) (rows after)
      (history.audits.map settings.shown) := by
  have noneAdded : ∀ uri, (rows before).get? uri = none → (rows after).get? uri = none := by
    intro uri vacant
    rw [keeps.rows_of_passes calm passes]
    exact (runs.settled (rows before)).noneAdded vacant
  obtain ⟨receipts, refusals, tells, tallied⟩ := runs.tallied
  refine ⟨⟨receipts, refusals, tells, ?_, ?_⟩, ?_⟩
  · simp [List.filter_map, Function.comp_def, tallied.receipts]
  · simp [List.filter_map, Function.comp_def, tallied.refusals]
  · have accounted := keeps.sum_removed_of_passes calm passes
    have missing := length_missing noneAdded
    have unchanged : AuditEvent.removed? ∘ settings.shown = AuditEvent.removed? :=
      funext settings.removed?_shown
    rw [List.filterMap_map, unchanged, tallied.removals]
    omega

/-- What an audit that is switched on publishes of a calm run agrees with what the run has done. -/
theorem reconciled_of_calm
    {σ : Type}
    {environment : Environment σ}
    {rows : σ → NotificationStore}
    {settings : AuditSettings}
    (keeps : KeepsNotifications environment rows)
    (enabled : settings.enabled = true)
    (standard : Subscription)
    (download : Download)
    (start : σ)
    (calm : ((process standard download).history (environment.audited settings) (start, [])).Calm) :
    ∃ outcome,
      ((process standard download).run (environment.audited settings) (start, [])).1 = .ok outcome ∧
        Reconciled settings download (download.subscription.getD standard) outcome
          ((process standard download).history (environment.audited settings) (start, []))
          (rows start)
          (rows ((process standard download).run (environment.audited settings) (start, [])).2.1)
          ((process standard download).run (environment.audited settings) (start, [])).2.2 := by
  obtain ⟨outcome, value, runs⟩ := runs_of_calm calm
  have passes :=
    passes_run (environment.audited settings) (process standard download) (start, [])
  have published :
      ((process standard download).run (environment.audited settings) (start, [])).2.2 =
        ((process standard download).history (environment.audited settings) (start, [])).audits.map
          settings.shown := by
    obtain ⟨ran, happened⟩ := run_audited environment settings (process standard download) start
    rw [ran, happened, History.published_of_enabled enabled]
  rw [published]
  exact ⟨outcome, value, runs.reconciled (keeps.audited settings) calm passes settings⟩

end Receive

end MmsInbox
