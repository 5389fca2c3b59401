import MmsInbox.Proofs.Receive.Outcome

namespace MmsInbox.Receive

/-!
# What a run does not depend on

Two runs for the same file, location, transaction and subscription report the same if the file, the codec,
the application's blocklist and the message store say the same in both (`process_independent`). The rest
may differ in every way: the notification store, the carrier settings and the device's own number, the
lane, the notification that the download names, the status of the fetch and the downloads in flight.
-/

open Program

/-- The same is said about what a run decides on: by the file, the codec, the blocklist and the message
store. -/
structure SameGrounds (first second : History) : Prop where
  read
    {path : String}
    {content other : Except File.Error Bytes}
    (inFirst : .acted (.readFile path) content ∈ first)
    (inSecond : .acted (.readFile path) other ∈ second) :
    content = other
  parsed
    {payload : Bytes}
    {pdu other : Except CodecError Pdu}
    (inFirst : .answered (.parse payload) pdu ∈ first)
    (inSecond : .answered (.parse payload) other ∈ second) :
    pdu = other
  screened
    {address : String}
    {blocked other : Bool}
    (inFirst : .answered (.isAddressBlocked address) blocked ∈ first)
    (inSecond : .answered (.isAddressBlocked address) other ∈ second) :
    blocked = other
  stored
    {record : MessageRecord}
    {result other : Except StoreError MessageId}
    (inFirst : .answered (.persist record) result ∈ first)
    (inSecond : .answered (.persist record) other ∈ second) :
    result = other

/-- On the same grounds all that is decisive is the same. -/
theorem SameGrounds.agree
    {first second : History}
    (same : SameGrounds first second) :
    History.Agree (first.filter decisive.sees) (second.filter decisive.sees) where
  answered {call answer other} inFirst inSecond := by
    obtain ⟨inFirst, seen⟩ := List.mem_filter.mp inFirst
    obtain ⟨inSecond, _⟩ := List.mem_filter.mp inSecond
    cases call with
    | parse payload => exact same.parsed inFirst inSecond
    | isAddressBlocked address => exact same.screened inFirst inSecond
    | persist record => exact same.stored inFirst inSecond
    | onMessageReceived id => rfl
    | onError error => rfl
    | _ => exact Bool.noConfusion seen
  acted {action answer other} inFirst inSecond := by
    obtain ⟨inFirst, seen⟩ := List.mem_filter.mp inFirst
    obtain ⟨inSecond, _⟩ := List.mem_filter.mp inSecond
    cases action with
    | readFile path => exact same.read inFirst inSecond
    | _ => exact Bool.noConfusion seen

/-- The file of a download. -/
def fileAccess : Focus where
  asks _ := false
  acts action :=
    match action with
    | .readFile _ => true
    | .removeFile _ => true
    | _ => false

/-- Two histories show the same to the application, the message store and the file system. -/
structure ReportsAlike (first second : History) : Prop where
  callbacks : first.calls.filter isCallback = second.calls.filter isCallback
  requests : first.calls.filter isPersist = second.calls.filter isPersist
  accesses : first.actions.filter fileAccess.acts = second.actions.filter fileAccess.acts
  /-- If the file can be removed in one of them exactly when it can in the other, it fares the same. -/
  fate :
    (∀ path removal other,
      .acted (.removeFile path) removal ∈ first →
      .acted (.removeFile path) other ∈ second → removal = other) →
    first.filter fileAccess.sees = second.filter fileAccess.sees

/-- A run reads the file and then removes it, and does nothing else with it. -/
theorem fileEvents_of_leads_process
    {standard : Subscription}
    {download : Download}
    {history : History}
    {result : Except Panic Outcome}
    (leads : Leads (process standard download) history (ended result))
    (calm : history.Calm) :
    ∃ content removal,
      history.filter fileAccess.sees =
        [.acted (.readFile download.path) content, .acted (.removeFile download.path) removal] := by
  obtain ⟨_, _, _, _, released⟩ := (outlines_process_release standard download).leads leads calm
  obtain ⟨content, removal, began, shown⟩ := events_of_leads_release released
  have narrower :
      (history.filter holdings.sees).filter fileAccess.sees = history.filter fileAccess.sees := by
    rw [List.filter_filter]
    refine List.filter_congr fun event _ => ?_
    cases event with
    | answered call answer => rfl
    | panicked call panic => rfl
    | acted action answer => cases action <;> rfl
  refine ⟨content, removal, ?_⟩
  rw [← narrower, shown]
  rfl

/-- Two calm runs for the same file, location, transaction and subscription, in any two worlds, have the
same outcome and report the same if the file, the codec, the blocklist and the message store say the
same in both. -/
theorem process_independent
    {σ τ : Type}
    (environment : Environment σ)
    (otherEnvironment : Environment τ)
    (standard : Subscription)
    (download other : Download)
    (samePath : download.path = other.path)
    (sameLocation : download.location = other.location)
    (sameTransaction : download.transactionId = other.transactionId)
    (sameSubscription : download.subscription = other.subscription)
    (start : σ)
    (otherStart : τ)
    (calm : ((process standard download).history environment start).Calm)
    (otherCalm : ((process standard other).history otherEnvironment otherStart).Calm)
    (grounds :
      SameGrounds ((process standard download).history environment start)
        ((process standard other).history otherEnvironment otherStart)) :
    ((process standard download).run environment start).1 =
        ((process standard other).run otherEnvironment otherStart).1 ∧
      ReportsAlike ((process standard download).history environment start)
        ((process standard other).history otherEnvironment otherStart) := by
  have course := leads_run environment (process standard download) start
  have otherCourse := leads_run otherEnvironment (process standard other) otherStart
  generalize (process standard download).history environment start = first at *
  generalize (process standard other).history otherEnvironment otherStart = second at *
  obtain ⟨outcome, _, ended, rfl, summarised⟩ :=
    (outlines_process_summary standard download).leads course calm
  obtain ⟨otherOutcome, _, otherEnded, rfl, otherSummarised⟩ :=
    (outlines_process_summary standard other).leads otherCourse otherCalm
  rw [← samePath, ← sameLocation, ← sameTransaction, ← sameSubscription] at otherSummarised
  obtain ⟨sameEvents, rfl⟩ :=
    summarised.unique otherSummarised (fun event member => calm event (List.mem_filter.mp member).1)
      (fun event member => otherCalm event (List.mem_filter.mp member).1) grounds.agree
  refine ⟨ended.trans otherEnded.symm, ?_⟩
  obtain ⟨content, removal, accesses⟩ := fileEvents_of_leads_process course calm
  obtain ⟨otherContent, otherRemoval, otherAccesses⟩ :=
    fileEvents_of_leads_process otherCourse otherCalm
  have read : .acted (.readFile download.path) content ∈ first :=
    (List.mem_filter.mp (accesses ▸ List.mem_cons_self)).1
  have otherRead : .acted (.readFile download.path) otherContent ∈ second :=
    samePath ▸ (List.mem_filter.mp (otherAccesses ▸ List.mem_cons_self)).1
  have removed : .acted (.removeFile download.path) removal ∈ first :=
    (List.mem_filter.mp (accesses ▸ List.mem_cons_of_mem _ List.mem_cons_self)).1
  have otherRemoved : .acted (.removeFile download.path) otherRemoval ∈ second :=
    samePath ▸ (List.mem_filter.mp (otherAccesses ▸ List.mem_cons_of_mem _ List.mem_cons_self)).1
  constructor
  · rw [← decisive_callbacks, sameEvents, decisive_callbacks]
  · rw [← decisive_requests, sameEvents, decisive_requests]
  · rw [← Focus.actions_filter fileAccess (fun _ => rfl), accesses,
      ← Focus.actions_filter fileAccess (fun _ => rfl), otherAccesses, samePath]
    rfl
  · intro sameRemoval
    obtain rfl := grounds.read read otherRead
    obtain rfl := sameRemoval _ _ _ removed otherRemoved
    rw [accesses, otherAccesses, samePath]

/-- A world in which the same is said at all times. -/
def unchanging
    (answer : (call : Call) → Except Panic call.Answer)
    (perform : (action : Action) → action.Answer) :
    Environment Unit where
  answer call _ := (answer call, ())
  perform action _ := (perform action, ())

/-- What happens is what is always said. -/
def Said
    (answer : (call : Call) → Except Panic call.Answer)
    (perform : (action : Action) → action.Answer) :
    Event → Prop
  | .answered call given => answer call = .ok given
  | .panicked call panic => answer call = .error panic
  | .acted action given => perform action = given

/-- What happens in an unchanging world is what is always said there. -/
theorem said_of_mem_history
    {α : Type}
    {answer : (call : Call) → Except Panic call.Answer}
    {perform : (action : Action) → action.Answer}
    (program : Program α)
    {event : Event}
    (member : event ∈ program.history (unchanging answer perform) ()) :
    Said answer perform event := by
  induction program with
  | done value => exact absurd member List.not_mem_nil
  | unwound panic => exact absurd member List.not_mem_nil
  | ask call answered panicked answeredMember panickedMember =>
      rcases said : answer call with panic | given
      · have asked : (unchanging answer perform).answer call () = (.error panic, ()) :=
          congrArg (·, ()) said
        rw [history_ask_of_error asked] at member
        rcases List.mem_cons.mp member with rfl | later
        · exact said
        · exact panickedMember panic later
      · have asked : (unchanging answer perform).answer call () = (.ok given, ()) :=
          congrArg (·, ()) said
        rw [history_ask_of_ok asked] at member
        rcases List.mem_cons.mp member with rfl | later
        · exact said
        · exact answeredMember given later
  | act action next nextMember =>
      rw [history_act] at member
      rcases List.mem_cons.mp member with rfl | later
      · rfl
      · exact nextMember _ later

/-- A world in which a greeting arrives and is stored, with what the notification store, the device and the
downloads in flight have to say. -/
def greetingWorld
    (loaded : Except StoreError Notification)
    (changed : Except StoreError Nat)
    (lineNumber : Option String)
    (began : Option Nat) :
    Environment Unit :=
  unchanging
    (fun
      | .parse _ => .ok (.ok (.retrieval { greeting with transactionId := some "R7" }))
      | .isAddressBlocked _ => .ok false
      | .persist _ => .ok (.ok (.ofNat 7))
      | .load _ => .ok loaded
      | .deletePending _ => .ok changed
      | .updateRetrieveStatus _ _ => .ok changed
      | .relayCredentials _ => .ok (some ⟨"http://relay.example/", none⟩)
      | .lineNumber _ => .ok lineNumber
      | .submit _ => .ok ()
      | .onMessageReceived _ => .ok ()
      | .onError _ => .ok ()
      | _ => .error ⟨"out of reach"⟩)
    (fun
      | .readFile _ => .ok [1, 2]
      | .removeFile _ => .ok ()
      | .finishDownload _ => began
      | .audit _ => ()
      | .note _ => ())

/-- Whatever else is said in the worlds of a greeting, they say the same about what a run decides on. -/
theorem sameGrounds_greetingWorld
    {α β : Type}
    (program : Program α)
    (other : Program β)
    (loaded otherLoaded : Except StoreError Notification)
    (changed otherChanged : Except StoreError Nat)
    (lineNumber otherLineNumber : Option String)
    (began otherBegan : Option Nat) :
    SameGrounds (program.history (greetingWorld loaded changed lineNumber began) ())
      (other.history (greetingWorld otherLoaded otherChanged otherLineNumber otherBegan) ()) where
  read inFirst inSecond :=
    (said_of_mem_history program inFirst).symm.trans (said_of_mem_history other inSecond)
  parsed inFirst inSecond :=
    Except.ok.inj
      ((said_of_mem_history program inFirst).symm.trans (said_of_mem_history other inSecond))
  screened inFirst inSecond :=
    Except.ok.inj
      ((said_of_mem_history program inFirst).symm.trans (said_of_mem_history other inSecond))
  stored inFirst inSecond :=
    Except.ok.inj
      ((said_of_mem_history program inFirst).symm.trans (said_of_mem_history other inSecond))

/-- A finished download of a greeting that names a notification. -/
def announcedGreeting : Download :=
  { arrivedGreeting with notificationUri := some "content://mms/7" }

/-- A finished download of a greeting that names another notification and reports a stale fetch. -/
def staleGreeting : Download :=
  { arrivedGreeting with
    triggerPush := true
    notificationUri := some "content://mms/8"
    status := some ⟨404⟩ }

/-- The world of a greeting that is acknowledged without trouble. -/
def smoothWorld : Environment Unit :=
  greetingWorld (.ok ⟨"N7", arrivedGreeting.location, none, none⟩) (.ok 1) (some "+15550002")
    (some 5)

/-- The world of a greeting for which the notification store fails. -/
def roughWorld : Environment Unit :=
  greetingWorld (.error (.notificationNotFound "content://mms/8")) (.error .poisoned) none none

/-- A greeting that is acknowledged without trouble, and one for which the notification store fails. -/
theorem process_independent_greeting :
    ((process .standard announcedGreeting).history smoothWorld ()).Calm ∧
    ((process .standard staleGreeting).history roughWorld ()).Calm ∧
    ((process .standard announcedGreeting).run smoothWorld ()).1 =
        ((process .standard staleGreeting).run roughWorld ()).1 ∧
      ReportsAlike ((process .standard announcedGreeting).history smoothWorld ())
        ((process .standard staleGreeting).history roughWorld ()) := by
  have smooth : ((process .standard announcedGreeting).history smoothWorld ()).Calm := by
    unfold History.Calm
    decide
  have rough : ((process .standard staleGreeting).history roughWorld ()).Calm := by
    unfold History.Calm
    decide
  exact ⟨smooth, rough,
    process_independent smoothWorld roughWorld .standard announcedGreeting staleGreeting rfl rfl rfl rfl
      () () smooth rough (sameGrounds_greetingWorld _ _ _ _ _ _ _ _ _ _)⟩

end MmsInbox.Receive
