import MmsInbox.Downloads
import MmsInbox.File.Directory
import MmsInbox.Program.History
import MmsInbox.Store.Notifications

namespace MmsInbox

/-!
# The inbox

What the runs of the engine share: the files, the two stores and the downloads in flight. As an
environment the inbox never panics. Its stores answer from what they hold, everyone else always gives the
same answer, and each question or action makes one change at most.
-/

/-- The files, the stores in memory and the downloads in flight. -/
structure Inbox where
  directory : File.Directory
  messages : MessageStore
  notifications : NotificationStore
  downloads : Downloads

/-- What can change in an inbox. -/
inductive Change where
  | nothing
  | removeFile (path : String)
  /-- A message is stored under an identifier, if there is room. -/
  | keep (id : MessageId) (record : MessageRecord)
  | deletePending (location : String)
  | updateRetrieveStatus (location : String) (status : UInt8)
  | finishDownload (location : String)

/-- What a question changes; a message is stored under the given identifier. -/
def Call.change (fresh : MessageId) : Call → Change
  | .persist record => .keep fresh record
  | .deletePending location => .deletePending location
  | .updateRetrieveStatus location status => .updateRetrieveStatus location status
  | _ => .nothing

/-- What an action changes. -/
def Action.change : Action → Change
  | .removeFile path => .removeFile path
  | .finishDownload location => .finishDownload location
  | _ => .nothing

namespace Change

/-- What a change makes of the files. -/
def files : Change → File.Directory → File.Directory
  | .removeFile path, directory => (directory.remove path).2
  | _, directory => directory

/-- What a change makes of the messages. -/
def messages : Change → MessageStore → MessageStore
  | .keep id record, store =>
      match store.persist id record with
      | .ok later => later
      | .error _ => store
  | _, store => store

/-- What a change makes of the notifications. -/
def notifications : Change → NotificationStore → NotificationStore
  | .deletePending location, store => (store.deletePending location).2
  | .updateRetrieveStatus location status, store =>
      (store.updateRetrieveStatus location status).2
  | _, store => store

/-- What a change makes of the downloads in flight. -/
def downloads : Change → Downloads → Downloads
  | .finishDownload location, inFlight => (inFlight.finish location).2
  | _, inFlight => inFlight

end Change

namespace Inbox

/-- Make a change. -/
def make
    (inbox : Inbox)
    (change : Change) :
    Inbox where
  directory := change.files inbox.directory
  messages := change.messages inbox.messages
  notifications := change.notifications inbox.notifications
  downloads := change.downloads inbox.downloads

/-- The answer to a question: the stores answer from what they hold, and everyone else as always. -/
def reply
    (inbox : Inbox)
    (otherwise : (call : Call) → call.Answer)
    (fresh : MessageId) :
    (call : Call) → call.Answer
  | .persist record => (inbox.messages.persist fresh record).map fun _ => fresh
  | .load uri => inbox.notifications.load uri
  | .deletePending location => .ok (inbox.notifications.deletePending location).1
  | .updateRetrieveStatus location status =>
      .ok (inbox.notifications.updateRetrieveStatus location status).1
  | call => otherwise call

/-- What an action yields. -/
def result
    (inbox : Inbox) :
    (action : Action) → action.Answer
  | .readFile path => inbox.directory.read path
  | .removeFile path => (inbox.directory.remove path).1
  | .finishDownload location => (inbox.downloads.finish location).1
  | .audit _ => ()
  | .note _ => ()

/-- The inbox as an environment in which everyone but the stores always gives the same answer, and in
which a message is stored under the given identifier. -/
def environment
    (otherwise : (call : Call) → call.Answer)
    (fresh : MessageId) :
    Environment Inbox where
  answer call inbox := (.ok (inbox.reply otherwise fresh call), inbox.make (call.change fresh))
  perform action inbox := (inbox.result action, inbox.make action.change)

theorem answer_eq_ok_iff
    {otherwise : (call : Call) → call.Answer}
    {fresh : MessageId}
    {call : Call}
    {answer : call.Answer}
    {inbox later : Inbox} :
    (environment otherwise fresh).answer call inbox = (.ok answer, later) ↔
      answer = inbox.reply otherwise fresh call ∧ later = inbox.make (call.change fresh) := by
  simp only [environment, Prod.mk.injEq, Except.ok.injEq]
  exact and_congr eq_comm eq_comm

/-- Nobody panics in an inbox. -/
theorem calm_history
    {α : Type}
    (otherwise : (call : Call) → call.Answer)
    (fresh : MessageId)
    (program : Program α)
    (inbox : Inbox) :
    (program.history (environment otherwise fresh) inbox).Calm := by
  induction program generalizing inbox with
  | done value => exact fun _ member => absurd member List.not_mem_nil
  | unwound panic => exact fun _ member => absurd member List.not_mem_nil
  | ask call answered panicked answeredCalm _ =>
      rw [Program.history_ask_of_ok rfl]
      exact List.forall_mem_cons.mpr ⟨rfl, answeredCalm _ _⟩
  | act action next nextCalm =>
      rw [Program.history_act]
      exact List.forall_mem_cons.mpr ⟨rfl, nextCalm _ _⟩

end Inbox

end MmsInbox
