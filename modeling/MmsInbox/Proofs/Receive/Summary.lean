import MmsInbox.Program.Outline
import MmsInbox.Proofs.Receive.Parts

namespace MmsInbox.Receive

/-!
# What a run comes down to

The acknowledgments, the notification store, the audit and the journal have no say in what a run decides.
What is left without them is a short program (`summary`), and it is the outline of a run within what the
run reads, decodes, screens, stores and reports (`outlines_process_summary`). What a run does with the file
and with the downloads in flight does not depend on anything at all (`outlines_process_release`).
-/

open Program

/-- The record of a retrieval that a run asks the message store to keep. -/
def recordOf
    (location : String)
    (transactionId : Option String)
    (subscription : Subscription)
    (payload : Bytes)
    (retrieval : Retrieval) :
    MessageRecord where
  raw := payload
  retrieval := retrieval
  location := location
  transactionId := transactionId
  subscription := subscription

/-- Whether the application blocks the sender; it is not asked about a message without a sender. -/
def isBlocked : Option String → Program Bool
  | none => return false
  | some address => call (.isAddressBlocked address)

/-- What a run decides about a retrieval. -/
def admission
    (location : String)
    (transactionId : Option String)
    (subscription : Subscription)
    (payload : Bytes)
    (retrieval : Retrieval) :
    Program Outcome := do
  if ← isBlocked retrieval.sender? then return .blocked
  else
    match ← call (.persist (recordOf location transactionId subscription payload retrieval)) with
    | .ok id => return .received id
    | .error error => return .failed (.persistence error)

/-- What the first part of a run decides. -/
def decision
    (path : String)
    (location : String)
    (transactionId : Option String)
    (subscription : Subscription) :
    Program Outcome := do
  match ← perform (.readFile path) with
  | .error cause => return .failed (.intake ⟨path, cause⟩)
  | .ok payload =>
    if payload.isEmpty then return .failed (.decode .empty)
    else
      match ← call (.parse payload) with
      | .error error => return .failed (.decode (.malformed error))
      | .ok (.retrieval retrieval) =>
        admission location transactionId subscription payload retrieval
      | .ok other => return .failed (.decode (.unexpectedKind other.messageType))

/-- Tell the application about an outcome. -/
def tell : Outcome → Program Unit
  | .received id => call (.onMessageReceived id)
  | .failed error => call (.onError error)
  | .blocked => return
  | .aborted => return

/-- What a run decides and tells the application. -/
def summary
    (path : String)
    (location : String)
    (transactionId : Option String)
    (subscription : Subscription) :
    Program Outcome := do
  let outcome ← decision path location transactionId subscription
  tell outcome
  return outcome

/-- What a run does with the file and with the downloads in flight. -/
def release
    (path : String)
    (location : String) :
    Program Unit := do
  let _ ← perform (.readFile path)
  let _ ← perform (.removeFile path)
  let _ ← perform (.finishDownload location)

/-- The application learns how a run ended. -/
def isCallback : Call → Bool
  | .onMessageReceived _ => true
  | .onError _ => true
  | _ => false

/-- The message store is asked to keep a message. -/
def isPersist : Call → Bool
  | .persist _ => true
  | _ => false

/-- Acknowledgments are handed to the lane. -/
def isSubmit : Call → Bool
  | .submit _ => true
  | _ => false

/-- What a run reads, decodes, screens, stores and reports. -/
def decisive : Focus where
  asks call :=
    match call with
    | .parse _ => true
    | .isAddressBlocked _ => true
    | call => isPersist call || isCallback call
  acts action :=
    match action with
    | .readFile _ => true
    | _ => false

/-- All callbacks are decisive. -/
theorem decisive_callbacks (history : History) :
    (History.calls (history.filter decisive.sees)).filter isCallback =
      history.calls.filter isCallback := by
  refine Focus.filter_calls (fun call told => ?_) history
  cases call <;> first | rfl | cases told

/-- All requests to the message store are decisive. -/
theorem decisive_requests (history : History) :
    (History.calls (history.filter decisive.sees)).filter isPersist =
      history.calls.filter isPersist := by
  refine Focus.filter_calls (fun call asked => ?_) history
  cases call <;> first | rfl | cases asked

/-- The file of a download and the downloads in flight. -/
def holdings : Focus where
  asks _ := false
  acts action :=
    match action with
    | .readFile _ => true
    | .removeFile _ => true
    | .finishDownload _ => true
    | _ => false

/-- A focus that looks neither at the notification store, nor at what an acknowledgment is made from, nor
at audit and journal. -/
structure Overlooks (focus : Focus) : Prop where
  load (uri : String) : focus.asks (.load uri) = false
  deletePending (location : String) : focus.asks (.deletePending location) = false
  updateRetrieveStatus (location : String) (status : UInt8) :
    focus.asks (.updateRetrieveStatus location status) = false
  relayCredentials (subscription : Subscription) :
    focus.asks (.relayCredentials subscription) = false
  lineNumber (subscription : Subscription) : focus.asks (.lineNumber subscription) = false
  audit (event : AuditEvent) : focus.acts (.audit event) = false
  note (notice : Journal.Notice) : focus.acts (.note notice) = false

theorem decisive_overlooks : Overlooks decisive := by
  constructor <;> intros <;> rfl

theorem holdings_overlooks : Overlooks holdings := by
  constructor <;> intros <;> rfl

namespace Overlooks

variable
  {focus : Focus}

/-- Marking a failure is beside the focus, whether or not the notification store can do it. -/
theorem markFailed
    (overlooks : Overlooks focus)
    (location : String) :
    Aside focus (markFailed location) := by
  refine Aside.bind (Aside.call (overlooks.updateRetrieveStatus _ _)) fun marked => ?_
  cases marked with
  | ok rows => exact Aside.done ()
  | error error => exact Aside.perform (overlooks.note _)

/-- Looking up a notification is beside the focus. -/
theorem loadNotification
    (overlooks : Overlooks focus)
    (uri : Option String) :
    Aside focus (loadNotification uri) := by
  cases uri with
  | none => exact Aside.done none
  | some uri =>
      refine Aside.bind (Aside.call (overlooks.load uri)) fun loaded => ?_
      cases loaded with
      | ok notification => exact Aside.done _
      | error error => exact Aside.bind (Aside.perform (overlooks.note _)) fun _ => Aside.done _

/-- Choosing the acknowledgments is beside the focus. -/
theorem decideTasks
    (overlooks : Overlooks focus)
    (basis : AckBasis) :
    Aside focus (decideTasks basis) := by
  unfold Receive.decideTasks
  split
  · exact Aside.done _
  · exact Aside.bind (Aside.perform (overlooks.note _)) fun _ => Aside.done _
  · exact Aside.bind (Aside.perform (overlooks.note _)) fun _ => Aside.done _
  · exact Aside.done _

/-- Looking a notification up is beside the focus, whether or not there are carrier settings. -/
theorem lookUp
    (overlooks : Overlooks focus)
    (download : Download)
    (configured : Bool) :
    Aside focus (lookUp download configured) := by
  unfold Receive.lookUp
  split
  · exact overlooks.loadNotification _
  · exact Aside.done none

/-- Handing over the acknowledgments is beside a focus that does not look at the lane, whatever comes of
it. -/
theorem submitAcknowledgments
    (overlooks : Overlooks focus)
    (unseen : ∀ tasks, focus.asks (.submit tasks) = false)
    (download : Download)
    (subscription : Subscription)
    (payload : Bytes)
    (pdu : Pdu) :
    Aside focus (submitAcknowledgments download subscription payload pdu) := by
  rw [submitAcknowledgments_eq]
  refine Aside.bind (Aside.call (overlooks.relayCredentials _)) fun credentials => ?_
  refine Aside.bind (overlooks.lookUp _ _) fun notification => ?_
  refine Aside.bind (Aside.call (overlooks.lineNumber _)) fun lineNumber => ?_
  refine Aside.bind (overlooks.decideTasks _) fun tasks => ?_
  split
  · exact Aside.done ()
  · exact Aside.call (unseen tasks)

/-- Removing stale notifications is beside the focus, whether or not the store can do it. -/
theorem removeStale
    (overlooks : Overlooks focus)
    (status : Option FetchStatus)
    (location : String) :
    Aside focus (removeStale status location) := by
  cases status with
  | none => exact Aside.done none
  | some status =>
      simp only [Receive.removeStale]
      split
      · refine Aside.bind (Aside.call (overlooks.deletePending location)) fun removed => ?_
        cases removed with
        | ok removed => exact Aside.bind (Aside.perform (overlooks.audit _)) fun _ => Aside.done _
        | error error => exact Aside.bind (Aside.perform (overlooks.note _)) fun _ => Aside.done _
      · exact Aside.done _

/-- Screening is beside a focus that does not look at what the application blocks. -/
theorem screen
    (overlooks : Overlooks focus)
    (unseen : ∀ address, focus.asks (.isAddressBlocked address) = false)
    (sender : Option String)
    (location : String) :
    Aside focus (screen sender location) := by
  cases sender with
  | none => exact Aside.done _
  | some address =>
      refine Aside.bind (Aside.call (unseen address)) fun blocked => ?_
      cases blocked with
      | false => exact Aside.done _
      | true =>
          refine Aside.bind (Aside.perform (overlooks.audit _)) fun _ =>
            Aside.bind (Aside.call (overlooks.deletePending _)) fun removed => ?_
          cases removed with
          | ok removed => exact Aside.bind (Aside.perform (overlooks.audit _)) fun _ => Aside.done _
          | error error => exact Aside.bind (Aside.perform (overlooks.note _)) fun _ => Aside.done _

/-- Reporting is beside a focus that does not look at what the application learns. -/
theorem report
    (overlooks : Overlooks focus)
    (unseen : ∀ call, isCallback call = true → focus.asks call = false)
    (location : String)
    (outcome : Outcome) :
    Aside focus (report location outcome) := by
  cases outcome with
  | received id => exact Aside.call (unseen _ rfl)
  | failed error =>
      exact Aside.bind (Aside.perform (overlooks.note _)) fun _ => Aside.call (unseen _ rfl)
  | blocked => exact Aside.done ()
  | aborted => exact Aside.done ()

end Overlooks

/-- Taking in a download comes down to reading the file: its removal decides nothing. -/
theorem outlines_takeIn
    (path : String) :
    Outlines decisive (fun taken content => taken = content.mapError fun cause => ⟨path, cause⟩)
      (takeIn path) (perform (.readFile path)) := by
  refine .acted rfl fun content => .actedAside rfl fun removal => ?_
  cases removal with
  | ok done => exact .done rfl
  | error cause =>
      simp only [Program.bind]
      split
      · exact .done rfl
      · exact .actedAside rfl fun _ => .done rfl

/-- A verdict and what the application said about the sender. -/
def Verdict.Matches
    (verdict : Verdict)
    (blocked : Bool) :
    Prop :=
  verdict = .blocked ↔ blocked = true

/-- Screening comes down to asking whether the sender is blocked, whether or not the notification of a
blocked sender can be deleted. -/
theorem outlines_screen
    (sender : Option String)
    (location : String) :
    Outlines decisive Verdict.Matches (screen sender location) (isBlocked sender) := by
  cases sender with
  | none => exact .done (by simp [Verdict.Matches])
  | some address =>
      refine .asked rfl fun blocked => ?_
      cases blocked with
      | false => exact .done (by simp [Verdict.Matches])
      | true =>
          refine .actedAside rfl fun _ => .askedAside rfl fun removed => ?_
          cases removed with
          | ok removed => exact .actedAside rfl fun _ => .done (by simp [Verdict.Matches])
          | error error => exact .actedAside rfl fun _ => .done (by simp [Verdict.Matches])

/-- The first part of a run comes down to its decision. -/
theorem outlines_receive_decision
    (download : Download)
    (subscription : Subscription) :
    Outlines decisive Eq (receive download subscription)
      (decision download.path download.location download.transactionId subscription) := by
  refine (outlines_takeIn download.path).bind fun taken content took => ?_
  subst took
  cases content with
  | error cause => exact .done rfl
  | ok payload =>
      dsimp only [Except.mapError]
      split
      · exact Aside.before (decisive_overlooks.markFailed _) fun _ => .done rfl
      · refine (Outlines.call rfl).bind fun parsed _ same => ?_
        subst same
        rcases parsed with error | retrieval | notification | kind
        · exact .done rfl
        · refine (outlines_screen _ _).bind fun verdict blocked verdictMatches => ?_
          cases verdict with
          | blocked =>
              rw [if_pos (verdictMatches.mp rfl)]
              exact .done rfl
          | allowed =>
              rw [if_neg (by simpa [Verdict.Matches] using verdictMatches)]
              refine (Outlines.call rfl).bind fun stored _ same => ?_
              subst same
              refine Aside.before
                (decisive_overlooks.submitAcknowledgments (fun _ => rfl) _ _ _ _) fun _ => ?_
              cases stored with
              | error error => exact .done rfl
              | ok id => exact Aside.before (Aside.perform rfl) fun _ => .done rfl
        · exact .done rfl
        · exact .done rfl

/-- Reporting comes down to telling the application. -/
theorem outlines_report
    (location : String)
    (outcome : Outcome) :
    Outlines decisive Eq (report location outcome) (tell outcome) := by
  cases outcome with
  | received id => exact .asked rfl fun _ => .done rfl
  | failed error => exact .actedAside rfl fun _ => .asked rfl fun _ => .done rfl
  | blocked => exact .done rfl
  | aborted => exact .done rfl

/-- A run comes down to its summary: nothing else that happens in it has a say in what it decides. -/
theorem outlines_process_summary
    (standard : Subscription)
    (download : Download) :
    Outlines decisive Eq (process standard download)
      (summary download.path download.location download.transactionId
        (download.subscription.getD standard)) := by
  refine ((outlines_receive_decision _ _).catching _).bind fun outcome _ same => ?_
  subst same
  refine Aside.before (decisive_overlooks.removeStale _ _) fun _ => ?_
  refine Aside.before (Aside.perform rfl) fun _ => ?_
  refine (outlines_report _ _).bind fun _ _ _ => ?_
  exact .done rfl

/-- Taking in a download reads the file and then removes it. -/
theorem outlines_takeIn_release (path : String) :
    Outlines holdings (fun _ _ => True) (takeIn path)
      (do
        let _ ← perform (.readFile path)
        let _ ← perform (.removeFile path)) := by
  refine .acted rfl fun content => .acted rfl fun removal => ?_
  cases removal with
  | ok done => exact .done trivial
  | error cause =>
      simp only [Program.bind]
      split
      · exact .done trivial
      · exact .actedAside rfl fun _ => .done trivial

/-- The first part of a run reads and removes the file, and holds nothing else. -/
theorem outlines_receive_release
    (download : Download)
    (subscription : Subscription) :
    Outlines holdings (fun _ _ => True) (receive download subscription)
      (do
        let _ ← perform (.readFile download.path)
        let _ ← perform (.removeFile download.path)) := by
  refine (outlines_takeIn_release download.path).thenAside fun content => ?_
  cases content with
  | error error => exact Aside.done _
  | ok payload =>
      dsimp only
      split
      · exact Aside.bind (holdings_overlooks.markFailed _) fun _ => Aside.done _
      · refine Aside.bind (Aside.call rfl) fun parsed => ?_
        rcases parsed with error | retrieval | notification | kind
        · exact Aside.done _
        · refine Aside.bind (holdings_overlooks.screen (fun _ => rfl) _ _) fun verdict => ?_
          cases verdict with
          | blocked => exact Aside.done _
          | allowed =>
              refine Aside.bind (Aside.call rfl) fun stored => ?_
              refine Aside.bind (holdings_overlooks.submitAcknowledgments (fun _ => rfl) _ _ _ _) fun _ => ?_
              cases stored with
              | error error => exact Aside.done _
              | ok id => exact Aside.bind (Aside.perform rfl) fun _ => Aside.done _
        · exact Aside.done _
        · exact Aside.done _

/-- Whatever comes of a run, it reads the file, removes it, and takes the location off the downloads in
flight, each once and in this order. -/
theorem outlines_process_release
    (standard : Subscription)
    (download : Download) :
    Outlines holdings (fun _ _ => True) (process standard download)
      (release download.path download.location) := by
  have received := (outlines_receive_release download (download.subscription.getD standard)).catching
    fun _ => do
      note (.runPanicked download.location)
      return .aborted
  have inRow :
      Outlines holdings (fun _ _ => True) (process standard download)
        ((do
          let _ ← perform (.readFile download.path)
          let _ ← perform (.removeFile download.path)) >>= fun _ => do
            let _ ← perform (.finishDownload download.location)) := by
    refine received.bind fun outcome _ _ => ?_
    refine Aside.before (holdings_overlooks.removeStale _ _) fun _ => ?_
    refine (Outlines.perform rfl).bind fun _ _ _ => ?_
    exact Aside.before (holdings_overlooks.report (fun _ _ => rfl) _ _) fun _ => .done trivial
  exact inRow

/-- Reading and removing the file and releasing the location make up a release. -/
theorem events_of_leads_release
    {path location : String}
    {history : History}
    (leads : Leads (release path location) history (.done ())) :
    ∃ content removal began,
      history =
        [.acted (.readFile path) content, .acted (.removeFile path) removal,
          .acted (.finishDownload location) began] := by
  obtain ⟨content, _, rest, rfl, reading, afterReading⟩ := leads_bind_done.mp leads
  obtain rfl := leads_perform_done.mp reading
  obtain ⟨removal, _, rest, rfl, removing, afterRemoving⟩ := leads_bind_done.mp afterReading
  obtain rfl := leads_perform_done.mp removing
  obtain ⟨began, _, rest, rfl, finishing, afterFinishing⟩ := leads_bind_done.mp afterRemoving
  obtain rfl := leads_perform_done.mp finishing
  obtain ⟨rfl, _⟩ := leads_done.mp afterFinishing
  exact ⟨content, removal, began, rfl⟩

end MmsInbox.Receive
