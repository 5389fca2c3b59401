import Mathlib.Logic.Function.Basic
import MmsInbox.Program.Assurance
import MmsInbox.Proofs.Receive.Summary

namespace MmsInbox

/-!
# Outcomes and their effects

A run ends in a stored message, in an error or with a blocked sender, and what it returns agrees with what
it has done to the message store, to the file, to the downloads in flight and to the application
(`process_concluded`). Nothing is asked of the collaborators but that they do not panic and that the
message store keeps what it says it keeps (`KeepsMessages`).
-/

open Program

/-- The messages that a store holds, by identifier. -/
abbrev Entries :=
  MessageId → Option MessageRecord

/-- A message store that adds one entry under a fresh identifier when it keeps a message, and whose
entries change in no other way. -/
structure KeepsMessages
    {σ : Type}
    (environment : Environment σ)
    (entries : σ → Entries) :
    Prop where
  kept
    {record : MessageRecord}
    {id : MessageId}
    {state later : σ}
    (stored : environment.answer (.persist record) state = (.ok (.ok id), later)) :
    entries state id = none ∧ entries later = Function.update (entries state) id (some record)
  refused
    {record : MessageRecord}
    {error : StoreError}
    {state later : σ}
    (failed : environment.answer (.persist record) state = (.ok (.error error), later)) :
    entries later = entries state
  asked
    {call : Call}
    {answer : call.Answer}
    {state later : σ}
    (other : Receive.isPersist call = false)
    (answered : environment.answer call state = (.ok answer, later)) :
    entries later = entries state
  acted
    (action : Action)
    (state : σ) :
    entries (environment.perform action state).2 = entries state

/-- What an event makes of the entries of a message store. -/
def Event.Stores
    (before after : Entries) :
    Event → Prop
  | .answered (.persist record) (.ok id) =>
      before id = none ∧ after = Function.update before id (some record)
  | _ => after = before

namespace History

/-- What a history makes of the entries of a message store. -/
def Stores
    (before after : Entries) :
    History → Prop
  | [] => after = before
  | event :: later => ∃ between, event.Stores before between ∧ Stores between after later

end History

/-- In a calm run the entries of the message store become what the history makes of them. -/
theorem KeepsMessages.stores
    {σ α : Type}
    {environment : Environment σ}
    {entries : σ → Entries}
    (keeps : KeepsMessages environment entries)
    (program : Program α)
    (state : σ)
    (calm : (program.history environment state).Calm) :
    (program.history environment state).Stores
      (entries state) (entries (program.run environment state).2) := by
  induction program generalizing state with
  | done value => exact rfl
  | unwound panic => exact rfl
  | ask call answered panicked answeredStores panickedStores =>
      rcases asked : environment.answer call state with ⟨panic | answer, later⟩
      · rw [history_ask_of_error asked] at calm
        exact Bool.noConfusion (calm _ List.mem_cons_self)
      · rw [history_ask_of_ok asked] at calm ⊢
        simp only [run, asked]
        refine ⟨entries later, ?_, answeredStores answer later calm.tail⟩
        cases call with
        | persist record =>
            cases answer with
            | ok id => exact keeps.kept asked
            | error error => exact keeps.refused asked
        | _ => exact keeps.asked rfl asked
  | act action next nextStores =>
      rw [history_act] at calm ⊢
      exact ⟨_, keeps.acted action state, nextStores _ _ calm.tail⟩

/-- Only what is stored matters to the entries. -/
theorem History.Stores.focused
    {focus : Focus}
    (seesStored : ∀ record, focus.asks (.persist record) = true)
    {before after : Entries}
    {history : History}
    (stores : history.Stores before after) :
    History.Stores before after (history.filter focus.sees) := by
  induction history generalizing before with
  | nil => exact stores
  | cons event later inductionHypothesis =>
      obtain ⟨between, step, rest⟩ := stores
      by_cases seen : focus.sees event = true
      · rw [List.filter_cons_of_pos seen]
        exact ⟨between, step, inductionHypothesis rest⟩
      · rw [List.filter_cons_of_neg seen]
        have unchanged : between = before := by
          revert step
          unfold Event.Stores
          split
          · rename_i record id
            simp [Focus.sees, seesStored] at seen
          · exact id
        exact inductionHypothesis (unchanged ▸ rest)

namespace Receive

/-- An outcome agrees with what happened in a run, with the entries of the message store before and after
it. -/
inductive Concluded
    (download : Download)
    (subscription : Subscription)
    (history : History)
    (before after : Entries) :
    Outcome → Prop where
  /-- The store has gained exactly the entry of the retrieval that the file held, and that is all that the
  application has learnt. -/
  | received
      {id : MessageId}
      {payload : Bytes}
      {retrieval : Retrieval}
      (read : .acted (.readFile download.path) (.ok payload) ∈ history)
      (decoded : .answered (.parse payload) (.ok (.retrieval retrieval)) ∈ history)
      (fresh : before id = none)
      (gained :
        after = Function.update before id
          (some (recordOf download.location download.transactionId subscription payload retrieval)))
      (told : history.calls.filter isCallback = [.onMessageReceived id]) :
      Concluded download subscription history before after (.received id)
  /-- The store is as before, and the application has learnt of the error. -/
  | failed
      {error : ReceiveError}
      (unchanged : after = before)
      (told : history.calls.filter isCallback = [.onError error]) :
      Concluded download subscription history before after (.failed error)
  /-- Nothing was to be stored, nothing acknowledged, and the application has learnt nothing. -/
  | blocked
      (unchanged : after = before)
      (unasked : history.calls.filter isPersist = [])
      (unsubmitted : history.calls.filter isSubmit = [])
      (untold : history.calls.filter isCallback = []) :
      Concluded download subscription history before after .blocked

/-- Asking whether the sender is blocked is one question at most. -/
theorem leads_isBlocked
    {sender : Option String}
    {history : History}
    {blocked : Bool}
    (leads : Leads (isBlocked sender) history (.done blocked)) :
    history = [] ∨ ∃ address, history = [.answered (.isAddressBlocked address) blocked] := by
  cases sender with
  | none => exact .inl (leads_done.mp leads).1
  | some address => exact .inr ⟨address, leads_call_done.mp leads⟩

/-- What is decided about a retrieval agrees with what happened. -/
theorem concluded_of_leads_admission
    {download : Download}
    {subscription : Subscription}
    {payload : Bytes}
    {retrieval : Retrieval}
    {screening telling : History}
    {before after : Entries}
    {outcome : Outcome}
    (decides :
      Leads
        (admission download.location download.transactionId subscription payload retrieval)
        screening (.done outcome))
    (tells : Leads (tell outcome) telling (.done ()))
    (stores : History.Stores before after
      (.acted (.readFile download.path) (.ok payload) ::
        .answered (.parse payload) (.ok (.retrieval retrieval)) :: (screening ++ telling))) :
    Concluded download subscription
      (.acted (.readFile download.path) (.ok payload) ::
        .answered (.parse payload) (.ok (.retrieval retrieval)) :: (screening ++ telling))
      before after outcome := by
  obtain ⟨blocked, asking, rest, rfl, asks, afterAsking⟩ := leads_bind_done.mp decides
  have asked := leads_isBlocked asks
  cases blocked with
  | true =>
      obtain ⟨rfl, same⟩ := leads_done.mp afterAsking
      cases same
      obtain ⟨rfl, _⟩ := leads_done.mp tells
      rcases asked with rfl | ⟨address, rfl⟩
      all_goals exact .blocked (by simpa [History.Stores, Event.Stores] using stores) rfl rfl rfl
  | false =>
      obtain ⟨stored, _, rest, rfl, persisting, afterPersisting⟩ := leads_bind_done.mp afterAsking
      obtain rfl := leads_call_done.mp persisting
      cases stored with
      | error error =>
          obtain ⟨rfl, same⟩ := leads_done.mp afterPersisting
          cases same
          obtain rfl := leads_call_done.mp tells
          rcases asked with rfl | ⟨address, rfl⟩
          all_goals exact .failed (by simpa [History.Stores, Event.Stores] using stores) rfl
      | ok id =>
          obtain ⟨rfl, same⟩ := leads_done.mp afterPersisting
          cases same
          obtain rfl := leads_call_done.mp tells
          have gained :
              before id = none ∧
                after = Function.update before id (some (recordOf download.location
                  download.transactionId subscription payload retrieval)) := by
            rcases asked with rfl | ⟨address, rfl⟩
            all_goals simpa [History.Stores, Event.Stores] using stores
          refine .received (by simp) (by simp) gained.1 gained.2 ?_
          rcases asked with rfl | ⟨address, rfl⟩
          all_goals rfl

/-- What has been decided agrees with what happened, but for telling the application. -/
theorem concluded_of_leads_decision
    {download : Download}
    {subscription : Subscription}
    {deciding telling : History}
    {before after : Entries}
    {outcome : Outcome}
    (decides :
      Leads (decision download.path download.location download.transactionId subscription)
        deciding (.done outcome))
    (tells : Leads (tell outcome) telling (.done ()))
    (stores : History.Stores before after (deciding ++ telling)) :
    Concluded download subscription (deciding ++ telling) before after outcome := by
  obtain ⟨content, _, rest, rfl, reading, afterReading⟩ := leads_bind_done.mp decides
  obtain rfl := leads_perform_done.mp reading
  cases content with
  | error cause =>
      obtain ⟨rfl, same⟩ := leads_done.mp afterReading
      cases same
      obtain rfl := leads_call_done.mp tells
      exact .failed (by simpa [History.Stores, Event.Stores] using stores) rfl
  | ok payload =>
      by_cases empty : payload.isEmpty = true
      · dsimp only at afterReading
        rw [if_pos empty] at afterReading
        obtain ⟨rfl, same⟩ := leads_done.mp afterReading
        cases same
        obtain rfl := leads_call_done.mp tells
        exact .failed (by simpa [History.Stores, Event.Stores] using stores) rfl
      · dsimp only at afterReading
        rw [if_neg empty] at afterReading
        obtain ⟨parsed, _, rest, rfl, parsing, afterParsing⟩ := leads_bind_done.mp afterReading
        obtain rfl := leads_call_done.mp parsing
        rcases parsed with error | retrieval | notification | kind
        · obtain ⟨rfl, same⟩ := leads_done.mp afterParsing
          cases same
          obtain rfl := leads_call_done.mp tells
          exact .failed (by simpa [History.Stores, Event.Stores] using stores) rfl
        · have concluded := concluded_of_leads_admission afterParsing tells (by simpa using stores)
          simpa using concluded
        · obtain ⟨rfl, same⟩ := leads_done.mp afterParsing
          cases same
          obtain rfl := leads_call_done.mp tells
          exact .failed (by simpa [History.Stores, Event.Stores] using stores) rfl
        · obtain ⟨rfl, same⟩ := leads_done.mp afterParsing
          cases same
          obtain rfl := leads_call_done.mp tells
          exact .failed (by simpa [History.Stores, Event.Stores] using stores) rfl

/-- A summary of a run agrees with what happened. -/
theorem concluded_of_leads_summary
    {download : Download}
    {subscription : Subscription}
    {history : History}
    {before after : Entries}
    {outcome : Outcome}
    (leads :
      Leads (summary download.path download.location download.transactionId subscription)
        history (.done outcome))
    (stores : history.Stores before after) :
    Concluded download subscription history before after outcome := by
  obtain ⟨decided, deciding, rest, rfl, decides, afterDecision⟩ := leads_bind_done.mp leads
  obtain ⟨_, telling, rest, rfl, tells, afterTelling⟩ := leads_bind_done.mp afterDecision
  obtain ⟨rfl, same⟩ := leads_done.mp afterTelling
  cases same
  have concluded := concluded_of_leads_decision decides tells (by simpa using stores)
  simpa using concluded

/-- What is handed to the lane. -/
def submissions : Focus where
  asks := isSubmit
  acts _ := false

theorem submissions_overlooks : Overlooks submissions := by
  constructor <;> intros <;> rfl

/-- Taking in a download hands nothing to the lane. -/
theorem submissions_aside_takeIn (path : String) : Aside submissions (takeIn path) := by
  refine Aside.bind (Aside.perform rfl) fun content => ?_
  refine Aside.bind (Aside.perform rfl) fun removal => ?_
  cases removal with
  | ok done => exact Aside.done _
  | error cause =>
      dsimp only
      split
      · exact Aside.done _
      · exact Aside.bind (Aside.perform rfl) fun _ => Aside.done _

/-- Nobody panics and nothing is to be stored. -/
def Unasked (event : Event) : Prop :=
  event.isPanic = false ∧ ∀ call ∈ event.call?, isPersist call = false

theorem Unasked.calm
    (event : Event)
    (unasked : Unasked event) :
    event.isPanic = false :=
  unasked.1

/-- As long as nothing is to be stored, the first part of a run hands nothing to the lane. -/
theorem receive_unsubmitted
    (download : Download)
    (subscription : Subscription) :
    (receive download subscription).Assures Unasked
      (fun event => submissions.sees event = false) (·.isOk = true) := by
  refine ((submissions_aside_takeIn _).assures Unasked.calm).andThen fun content => ?_
  cases content with
  | error error => exact rfl
  | ok payload =>
      dsimp only
      split
      · exact ((submissions_overlooks.markFailed _).assures Unasked.calm).andThen fun _ => rfl
      · refine ((Aside.call rfl).assures Unasked.calm).andThen fun parsed => ?_
        rcases parsed with error | retrieval | notification | kind
        · exact rfl
        · refine ((submissions_overlooks.screen (fun _ => rfl) _ _).assures Unasked.calm).andThen
            fun verdict => ?_
          cases verdict with
          | blocked => exact rfl
          | allowed =>
              -- Here the run asks the store, so nothing is left to show.
              exact ⟨fun _ unasked => Bool.noConfusion (unasked.2 _ rfl),
                fun _ unasked => Bool.noConfusion unasked.1⟩
        · exact rfl
        · exact rfl

/-- As long as nothing is to be stored, a run hands nothing to the lane. -/
theorem process_unsubmitted
    (standard : Subscription)
    (download : Download) :
    (process standard download).Assures Unasked
      (fun event => submissions.sees event = false) (·.isOk = true) := by
  refine ((receive_unsubmitted _ _).uncaught _).andThen fun outcome => ?_
  refine ((submissions_overlooks.removeStale _ _).assures Unasked.calm).andThen fun _ => ?_
  refine ((Aside.perform rfl).assures Unasked.calm).andThen fun _ => ?_
  have unseen : ∀ call, isCallback call = true → submissions.asks call = false := by
    intro call told
    cases call <;> first | rfl | cases told
  exact ((submissions_overlooks.report unseen _ _).assures Unasked.calm).andThen fun _ => rfl

/-- A run that asks for nothing to be stored hands nothing to the lane. -/
theorem unsubmitted_of_unasked
    {standard : Subscription}
    {download : Download}
    {history : History}
    {rest : Program Outcome}
    (leads : Leads (process standard download) history rest)
    (calm : history.Calm)
    (unasked : history.calls.filter isPersist = []) :
    history.calls.filter isSubmit = [] := by
  have nothingStored : ∀ event ∈ history, Unasked event := by
    intro event member
    refine ⟨calm event member, fun call asked => ?_⟩
    have put : call ∈ history.calls := List.mem_filterMap.mpr ⟨event, member, asked⟩
    simpa using List.filter_eq_nil_iff.mp unasked call put
  obtain ⟨unseen, _⟩ := (process_unsubmitted standard download).of_leads leads nothingStored
  refine List.filter_eq_nil_iff.mpr fun call put => ?_
  obtain ⟨event, member, asked⟩ := List.mem_filterMap.mp put
  have aside := unseen event member
  cases event with
  | answered question answer =>
      cases asked
      simpa [Focus.sees, submissions] using aside
  | panicked question panic =>
      cases asked
      simpa [Focus.sees, submissions] using aside
  | acted action answer => cases asked

/-- What holds of the decisive part of a run, and of what is handed to the lane, holds of the run. -/
theorem Concluded.whole
    {download : Download}
    {subscription : Subscription}
    {history : History}
    {before after : Entries}
    {outcome : Outcome}
    (concluded :
      Concluded download subscription (history.filter decisive.sees) before after outcome)
    (unsubmitted :
      history.calls.filter isPersist = [] → history.calls.filter isSubmit = []) :
    Concluded download subscription history before after outcome := by
  have told := decisive_callbacks history
  have asked := decisive_requests history
  cases concluded with
  | received read decoded fresh gained toldId =>
      exact .received (List.mem_filter.mp read).1 (List.mem_filter.mp decoded).1 fresh gained
        (told ▸ toldId)
  | failed unchanged toldError => exact .failed unchanged (told ▸ toldError)
  | blocked unchanged unasked _ untold =>
      exact .blocked unchanged (asked ▸ unasked) (unsubmitted (asked ▸ unasked)) (told ▸ untold)

/-- A run in which no collaborator panics ends in an outcome that agrees with what happened. Whatever the
outcome, the file was read once and then removed once, and the location was taken off the downloads in
flight once. -/
theorem process_concluded
    {σ : Type}
    {environment : Environment σ}
    {entries : σ → Entries}
    (keeps : KeepsMessages environment entries)
    (standard : Subscription)
    (download : Download)
    (start : σ)
    (calm : ((process standard download).history environment start).Calm) :
    ∃ outcome,
      ((process standard download).run environment start).1 = .ok outcome ∧
      Concluded download (download.subscription.getD standard)
        ((process standard download).history environment start)
        (entries start) (entries ((process standard download).run environment start).2) outcome ∧
      ((process standard download).history environment start).actions.filter holdings.acts =
        [.readFile download.path, .removeFile download.path,
          .finishDownload download.location] := by
  have course := leads_run environment (process standard download) start
  have stores := keeps.stores (process standard download) start calm
  obtain ⟨outcome, _, ended, rfl, summarised⟩ :=
    (outlines_process_summary standard download).leads course calm
  obtain ⟨_, _, _, _, released⟩ := (outlines_process_release standard download).leads course calm
  have storesDecisive :
      History.Stores (entries start)
        (entries ((process standard download).run environment start).2)
        (((process standard download).history environment start).filter decisive.sees) :=
    stores.focused fun _ => rfl
  have concluded := concluded_of_leads_summary summarised storesDecisive
  refine ⟨outcome, ended, concluded.whole ?_, ?_⟩
  · exact unsubmitted_of_unasked course calm
  · obtain ⟨content, removal, began, shown⟩ := events_of_leads_release released
    rw [← Focus.actions_filter holdings (fun _ => rfl), shown]
    rfl

/-- A world in which every download holds the same retrieval, nobody is blocked, nothing is acknowledged,
and the message store has room for one message. -/
def roomForOne
    (payload : Bytes)
    (retrieval : Retrieval) :
    Environment (Option MessageRecord) where
  answer call slot :=
    match call with
    | .parse _ => (.ok (.ok (.retrieval retrieval)), slot)
    | .persist record =>
      match slot with
      | none => (.ok (.ok (.ofNat 7)), some record)
      | some _ => (.ok (.error (.capacityExceeded 1 1)), slot)
    | .isAddressBlocked _ => (.ok false, slot)
    | .relayCredentials _ => (.ok none, slot)
    | .lineNumber _ => (.ok none, slot)
    | .onMessageReceived _ => (.ok (), slot)
    | .onError _ => (.ok (), slot)
    | _ => (.error ⟨"out of reach"⟩, slot)
  perform action slot :=
    match action with
    | .readFile _ => (.ok payload, slot)
    | .removeFile _ => (.ok (), slot)
    | .finishDownload _ => (none, slot)
    | .audit _ => ((), slot)
    | .note _ => ((), slot)

/-- The messages in a store that has room for one. -/
def oneEntry : Option MessageRecord → Entries
  | none => fun _ => none
  | some record => Function.update (fun _ => none) (.ofNat 7) (some record)

/-- A store that has room for one message keeps messages as it should. -/
theorem keepsMessages_roomForOne
    (payload : Bytes)
    (retrieval : Retrieval) :
    KeepsMessages (roomForOne payload retrieval) oneEntry where
  kept {record id state later} stored := by
    cases state with
    | none =>
        simp only [roomForOne, Prod.mk.injEq, Except.ok.injEq] at stored
        obtain ⟨rfl, rfl⟩ := stored
        exact ⟨rfl, rfl⟩
    | some held => simp [roomForOne] at stored
  refused {record error state later} failed := by
    cases state with
    | none => simp [roomForOne] at failed
    | some held =>
        simp only [roomForOne, Prod.mk.injEq] at failed
        rw [← failed.2]
  asked {call answer state later} other answered := by
    have unchanged : later = state := by
      cases call <;> simp_all [roomForOne, isPersist]
    rw [unchanged]
  acted action state := by
    cases action <;> rfl

/-- The retrieval of a message from another device that asks for no acknowledgment. -/
def greeting : Retrieval where
  sender := some "+15550001"
  transactionId := none
  messageId := none
  contentType := none
  body := [104, 105]

/-- A finished download of a greeting. -/
def arrivedGreeting : Download where
  path := "/tmp/greeting"
  subscription := none
  location := "http://relay.example/7"
  transactionId := some "T7"
  triggerPush := false
  notificationUri := none
  status := none

/-- A run for a greeting, with a store that has room for it. -/
theorem process_concluded_greeting :
    KeepsMessages (roomForOne [1, 2] greeting) oneEntry ∧
    ((process .standard arrivedGreeting).history (roomForOne [1, 2] greeting) none).Calm ∧
    ∃ outcome,
      ((process .standard arrivedGreeting).run (roomForOne [1, 2] greeting) none).1 =
          .ok outcome ∧
      Concluded arrivedGreeting .standard
        ((process .standard arrivedGreeting).history (roomForOne [1, 2] greeting) none)
        (oneEntry none)
        (oneEntry ((process .standard arrivedGreeting).run (roomForOne [1, 2] greeting) none).2)
        outcome ∧
      ((process .standard arrivedGreeting).history
          (roomForOne [1, 2] greeting) none).actions.filter holdings.acts =
        [.readFile arrivedGreeting.path, .removeFile arrivedGreeting.path,
          .finishDownload arrivedGreeting.location] := by
  have calm :
      ((process .standard arrivedGreeting).history (roomForOne [1, 2] greeting) none).Calm := by
    unfold History.Calm
    decide
  exact ⟨keepsMessages_roomForOne _ _, calm,
    process_concluded (keepsMessages_roomForOne _ _) .standard arrivedGreeting none calm⟩

end Receive

end MmsInbox
