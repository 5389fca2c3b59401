import MmsInbox.Program.Interruption
import MmsInbox.Program.Journaling
import MmsInbox.Program.Lockstep
import MmsInbox.Proofs.Receive.Independence

namespace MmsInbox

/-!
# What the journal tells of a sender

Redaction leaves of an address its domain, or the last two of more than four digits, or nothing. Senders with
the same of that are not told apart: two runs that differ in nothing but the sender of the retrieval write the
same into the journal (`Receive.journal_hides_sender`). For the two runs go in step: all that the sender
decides on in a run is what the collaborators answer, and of all that is written only audit records name it.
-/

/-- The ASCII digits of an address. -/
def digitsOf (address : String) : List Char :=
  address.toList.filter Char.isDigit

/-- Two senders of which redaction leaves the same. -/
inductive Indistinct : String → String → Prop where
  /-- Neither has a domain or more than four digits. -/
  | short
      {sender other : String}
      (plain : '@' ∉ sender.toList)
      (otherPlain : '@' ∉ other.toList)
      (few : (digitsOf sender).length ≤ 4)
      (otherFew : (digitsOf other).length ≤ 4) :
      Indistinct sender other
  /-- Neither has a domain, and both have more than four digits, with the same two last. -/
  | numbers
      {sender other : String}
      {leading otherLeading : List Char}
      {lastButOne last : Char}
      (plain : '@' ∉ sender.toList)
      (otherPlain : '@' ∉ other.toList)
      (many : 4 < (digitsOf sender).length)
      (otherMany : 4 < (digitsOf other).length)
      (ends : digitsOf sender = leading ++ [lastButOne, last])
      (otherEnds : digitsOf other = otherLeading ++ [lastButOne, last]) :
      Indistinct sender other
  /-- Both have the same after their first `@`. -/
  | addresses
      {sender other : String}
      {name otherName domain : List Char}
      (shape : sender.toList = name ++ '@' :: domain)
      (otherShape : other.toList = otherName ++ '@' :: domain)
      (first : '@' ∉ name)
      (otherFirst : '@' ∉ otherName) :
      Indistinct sender other

/-- Of an address with a domain, the domain is left. -/
theorem redact_of_domain
    {address : String}
    {name domain : List Char}
    (shape : address.toList = name ++ '@' :: domain)
    (first : '@' ∉ name) :
    redact address = redactionMark ++ "@" ++ String.ofList domain := by
  have dropped : address.toList.dropWhile (· != '@') = '@' :: domain := by
    rw [shape, List.dropWhile_append_of_pos]
    · rfl
    · intro letter member
      have other : letter ≠ '@' := fun same => first (same ▸ member)
      simpa using other
  simp [redact, dropped]

/-- Of any other address, the last two of more than four digits are left. -/
theorem redact_of_plain
    {address : String}
    (plain : '@' ∉ address.toList) :
    redact address =
      if 4 < (digitsOf address).length then
        redactionMark ++
          String.ofList ((digitsOf address).drop ((digitsOf address).length - 2))
      else redactionMark := by
  have dropped : address.toList.dropWhile (· != '@') = [] := by
    rw [← List.append_nil address.toList, List.dropWhile_append_of_pos]
    · rfl
    · intro letter member
      have other : letter ≠ '@' := fun same => plain (same ▸ member)
      simpa using other
  unfold redact
  rw [dropped]
  rfl

/-- Redaction does not tell indistinct senders apart. -/
theorem Indistinct.redact_eq
    {sender other : String}
    (indistinct : Indistinct sender other) :
    redact sender = redact other := by
  cases indistinct with
  | short plain otherPlain few otherFew =>
      rw [redact_of_plain plain, redact_of_plain otherPlain, if_neg (Nat.not_lt.mpr few),
        if_neg (Nat.not_lt.mpr otherFew)]
  | numbers plain otherPlain many otherMany ends otherEnds =>
      rw [redact_of_plain plain, redact_of_plain otherPlain, if_pos many, if_pos otherMany, ends,
        otherEnds]
      simp
  | addresses shape otherShape first otherFirst =>
      rw [redact_of_domain shape first, redact_of_domain otherShape otherFirst]

/-- The same retrieval from another sender. -/
def Retrieval.sentBy
    (retrieval : Retrieval)
    (sender : String) :
    Retrieval :=
  { retrieval with sender := some sender }

/-- The same message from another sender. -/
def MessageRecord.sentBy
    (record : MessageRecord)
    (sender : String) :
    MessageRecord :=
  { record with retrieval := record.retrieval.sentBy sender }

namespace Receive

open Program

section Likeness

variable (sender other : String)

/-- The same is asked, but for the sender. -/
inductive AskedAlike : Call → Call → Prop where
  | same (call : Call) : AskedAlike call call
  | screening : AskedAlike (.isAddressBlocked sender) (.isAddressBlocked other)
  | storing (record : MessageRecord) :
      AskedAlike (.persist (record.sentBy sender)) (.persist (record.sentBy other))

/-- The same is done, but for the sender. -/
inductive TakenAlike : Action → Action → Prop where
  | same (action : Action) : TakenAlike action action
  | receipt (id location : String) (size : Nat) :
      TakenAlike (.audit (.messageReceived id (some sender) location size))
        (.audit (.messageReceived id (some other) location size))
  | refusal (location : String) :
      TakenAlike (.audit (.senderBlocked sender location)) (.audit (.senderBlocked other location))

/-- The payload is read. -/
def isParse : Call → Bool
  | .parse _ => true
  | _ => false

/-- The same is told, but for the sender of what is decoded. -/
inductive ToldAlike : Event → Event → Prop where
  | decoded (payload : Bytes) (retrieval : Retrieval) :
      ToldAlike
        (.answered (.parse payload) (.ok (.retrieval (retrieval.sentBy sender))))
        (.answered (.parse payload) (.ok (.retrieval (retrieval.sentBy other))))
  | undecoded
      (payload : Bytes)
      (result : Except CodecError Pdu)
      (noRetrieval : ∀ retrieval, result ≠ .ok (.retrieval retrieval)) :
      ToldAlike (.answered (.parse payload) result) (.answered (.parse payload) result)
  | screened (blocked : Bool) :
      ToldAlike (.answered (.isAddressBlocked sender) blocked)
        (.answered (.isAddressBlocked other) blocked)
  | stored (record : MessageRecord) (result : Except StoreError MessageId) :
      ToldAlike (.answered (.persist (record.sentBy sender)) result)
        (.answered (.persist (record.sentBy other)) result)
  | answered (call : Call) (answer : call.Answer) (unread : isParse call = false) :
      ToldAlike (.answered call answer) (.answered call answer)
  | receipt (id location : String) (size : Nat) :
      ToldAlike (.acted (.audit (.messageReceived id (some sender) location size)) ())
        (.acted (.audit (.messageReceived id (some other) location size)) ())
  | refusal (location : String) :
      ToldAlike (.acted (.audit (.senderBlocked sender location)) ())
        (.acted (.audit (.senderBlocked other location)) ())
  | acted (action : Action) (answer : action.Answer) :
      ToldAlike (.acted action answer) (.acted action answer)

/-- All is alike but for the sender. -/
def butForSender : Likeness where
  asked := AskedAlike sender other
  taken := TakenAlike sender other
  told := ToldAlike sender other

end Likeness

variable {sender other : String}

/-- Whoever is asked alike, and not about the payload, gives the same answer. -/
theorem ToldAlike.answer_heq
    {call otherCall : Call}
    {answer : call.Answer}
    {otherAnswer : otherCall.Answer}
    (told : ToldAlike sender other (.answered call answer) (.answered otherCall otherAnswer))
    (unread : isParse call = false) :
    HEq answer otherAnswer := by
  cases told with
  | decoded payload retrieval => cases unread
  | undecoded payload result noRetrieval => cases unread
  | screened blocked => rfl
  | stored record result => rfl
  | answered call answer _ => rfl

/-- The same action yields the same. -/
theorem ToldAlike.yield_heq
    {action otherAction : Action}
    {answer : action.Answer}
    {otherAnswer : otherAction.Answer}
    (told : ToldAlike sender other (.acted action answer) (.acted otherAction otherAnswer)) :
    HEq answer otherAnswer := by
  cases told with
  | receipt id location size => rfl
  | refusal location => rfl
  | acted action answer => rfl

/-- Whoever the sender is, a program does the same. -/
def Indifferent
    {α : Type}
    (sender other : String)
    (program : Program α) :
    Prop :=
  InStep (butForSender sender other) Eq program program

namespace Indifferent

variable {α β : Type}

theorem done (value : α) : Indifferent sender other (.done value) :=
  InStep.done rfl

theorem call
    {call : Call}
    (unread : isParse call = false) :
    Indifferent sender other (Program.call call) :=
  .asked (.same call) fun _ _ told => .done (eq_of_heq (told.answer_heq unread))

theorem perform (action : Action) : Indifferent sender other (Program.perform action) :=
  .acted (.same action) fun _ _ told => .done (eq_of_heq told.yield_heq)

theorem bind
    {program : Program α}
    {next : α → Program β}
    (first : Indifferent sender other program)
    (second : ∀ value, Indifferent sender other (next value)) :
    Indifferent sender other (program >>= next) :=
  InStep.bind first fun value _ same => same ▸ second value

end Indifferent

section Parts

theorem takeIn_indifferent (path : String) : Indifferent sender other (takeIn path) := by
  refine Indifferent.bind (.perform _) ?_
  intro content
  refine Indifferent.bind (.perform _) ?_
  intro removal
  cases removal with
  | ok removed => exact .done _
  | error cause =>
      dsimp only
      split
      · exact .done _
      · exact .bind (.perform _) fun _ => .done _

theorem markFailed_indifferent (location : String) :
    Indifferent sender other (markFailed location) := by
  refine Indifferent.bind (.call rfl) ?_
  intro marked
  cases marked with
  | ok count => exact .done _
  | error error => exact .perform _

theorem removeStale_indifferent
    (status : Option FetchStatus)
    (location : String) :
    Indifferent sender other (removeStale status location) := by
  cases status with
  | none => exact .done _
  | some reported =>
      dsimp only [removeStale]
      split
      · refine Indifferent.bind (.call rfl) ?_
        intro deleted
        cases deleted with
        | ok removed => exact .bind (.perform _) fun _ => .done _
        | error error => exact .bind (.perform _) fun _ => .done _
      · exact .done _

theorem loadNotification_indifferent (uri : Option String) :
    Indifferent sender other (loadNotification uri) := by
  cases uri with
  | none => exact .done _
  | some named =>
      refine Indifferent.bind (.call rfl) ?_
      intro loaded
      cases loaded with
      | ok notification => exact .done _
      | error error => exact .bind (.perform _) fun _ => .done _

theorem decideTasks_indifferent (basis : AckBasis) :
    Indifferent sender other (decideTasks basis) := by
  unfold decideTasks
  split
  · exact .done _
  · exact .bind (.perform _) fun _ => .done _
  · exact .bind (.perform _) fun _ => .done _
  · exact .done _

theorem lookUp_indifferent
    (download : Download)
    (configured : Bool) :
    Indifferent sender other (lookUp download configured) := by
  unfold lookUp
  split
  · exact loadNotification_indifferent _
  · exact .done _

theorem submitAcknowledgments_indifferent
    (download : Download)
    (subscription : Subscription)
    (payload : Bytes)
    (pdu : Pdu) :
    Indifferent sender other (submitAcknowledgments download subscription payload pdu) := by
  rw [submitAcknowledgments_eq]
  refine Indifferent.bind (.call rfl) ?_
  intro credentials
  refine Indifferent.bind (lookUp_indifferent _ _) ?_
  intro notification
  refine Indifferent.bind (.call rfl) ?_
  intro lineNumber
  refine Indifferent.bind (decideTasks_indifferent _) ?_
  intro tasks
  split
  · exact .done _
  · exact .call rfl

/-- Whom a retrieval comes from does not matter to its acknowledgments. -/
theorem submitAcknowledgments_sentBy
    (download : Download)
    (subscription : Subscription)
    (payload : Bytes)
    (retrieval : Retrieval)
    (sender other : String) :
    submitAcknowledgments download subscription payload (.retrieval (retrieval.sentBy sender)) =
      submitAcknowledgments download subscription payload (.retrieval (retrieval.sentBy other)) :=
  rfl

theorem report_indifferent
    (location : String)
    (outcome : Outcome) :
    Indifferent sender other (report location outcome) := by
  cases outcome with
  | received id => exact .call rfl
  | failed error => exact .bind (.perform _) fun _ => .call rfl
  | blocked => exact .done _
  | aborted => exact .done _

/-- Two senders are screened in step. -/
theorem screen_inStep (location : String) :
    InStep (butForSender sender other) Eq (screen (some sender) location)
      (screen (some other) location) := by
  refine InStep.bind (InStep.call .screening) ?_
  intro blocked otherBlocked told
  obtain rfl : blocked = otherBlocked := eq_of_heq (told.answer_heq rfl)
  cases blocked with
  | false => exact .done rfl
  | true =>
      have refusing : (butForSender sender other).taken
          (.audit (.senderBlocked sender location)) (.audit (.senderBlocked other location)) :=
        .refusal location
      refine InStep.bind (InStep.perform refusing) ?_
      intro _ _ _
      refine Indifferent.bind (.call rfl) ?_
      intro deleted
      cases deleted with
      | ok removed => exact .bind (.perform _) fun _ => .done _
      | error error => exact .bind (.perform _) fun _ => .done _

/-- A sender that is present is a sender. -/
theorem sender?_sentBy
    {sender : String}
    (present : sender ≠ "")
    (retrieval : Retrieval) :
    (retrieval.sentBy sender).sender? = some sender := by
  simp [Retrieval.sender?, Retrieval.sentBy, nonEmpty?, Option.filter, present]

/-- A retrieval from either of two senders is stored, acknowledged and reported in step. -/
theorem keep_inStep
    (present : sender ≠ "")
    (otherPresent : other ≠ "")
    (download : Download)
    (subscription : Subscription)
    (payload : Bytes)
    (retrieval : Retrieval) :
    InStep (butForSender sender other) Eq
      (keep download subscription payload (retrieval.sentBy sender))
      (keep download subscription payload (retrieval.sentBy other)) := by
  let record : MessageRecord :=
    ⟨payload, retrieval, download.location, download.transactionId, subscription⟩
  have storing : (butForSender sender other).asked
      (.persist (record.sentBy sender)) (.persist (record.sentBy other)) :=
    .storing record
  refine InStep.bind (InStep.call storing) ?_
  intro stored otherStored told
  obtain rfl : stored = otherStored := eq_of_heq (told.answer_heq rfl)
  rw [submitAcknowledgments_sentBy _ _ _ _ sender other, sender?_sentBy present,
    sender?_sentBy otherPresent]
  refine InStep.bind (submitAcknowledgments_indifferent _ _ _ _) ?_
  rintro _ _ _
  cases stored with
  | ok id =>
      have telling : (butForSender sender other).taken
          (.audit (.messageReceived id.text (some sender) download.location payload.length))
          (.audit (.messageReceived id.text (some other) download.location payload.length)) :=
        .receipt _ _ _
      exact InStep.bind (InStep.perform telling) fun _ _ _ => .done rfl
  | error error => exact .done rfl

/-- The first part of a run goes in step with itself for two senders. -/
theorem receive_inStep
    (present : sender ≠ "")
    (otherPresent : other ≠ "")
    (download : Download)
    (subscription : Subscription) :
    InStep (butForSender sender other) Eq (receive download subscription)
      (receive download subscription) := by
  refine InStep.bind (takeIn_indifferent _) ?_
  rintro taken _ rfl
  cases taken with
  | error error => exact .done rfl
  | ok payload =>
      dsimp only
      split
      · exact Indifferent.bind (markFailed_indifferent _) fun _ => .done _
      · refine InStep.bind (InStep.call (.same _)) ?_
        intro parsed otherParsed told
        cases told with
        | answered _ _ unread => cases unread
        | undecoded _ _ noRetrieval =>
            cases parsed with
            | error error => exact .done rfl
            | ok pdu =>
                cases pdu with
                | retrieval content => exact absurd rfl (noRetrieval content)
                | notification content => exact .done rfl
                | other kind => exact .done rfl
        | decoded _ retrieval =>
            have screened :
                InStep (butForSender sender other) Eq
                  (screen (retrieval.sentBy sender).sender? download.location)
                  (screen (retrieval.sentBy other).sender? download.location) := by
              rw [sender?_sentBy present, sender?_sentBy otherPresent]
              exact screen_inStep _
            refine InStep.bind screened ?_
            rintro verdict _ rfl
            cases verdict with
            | blocked => exact .done rfl
            | allowed => exact keep_inStep present otherPresent download subscription payload retrieval

/-- A run goes in step with itself for two senders. -/
theorem process_inStep
    (present : sender ≠ "")
    (otherPresent : other ≠ "")
    (standard : Subscription)
    (download : Download) :
    InStep (butForSender sender other) Eq (process standard download)
      (process standard download) := by
  refine InStep.bind (.catching (receive_inStep present otherPresent _ _) _ _) ?_
  rintro outcome _ rfl
  refine Indifferent.bind (removeStale_indifferent _ _) fun _ => ?_
  refine Indifferent.bind (.perform _) fun _ => ?_
  exact Indifferent.bind (report_indifferent _ _) fun _ => .done _

end Parts

/-- Where senders are redacted, whoever is told alike writes the same. -/
theorem ToldAlike.notices_eq
    (sameLeft : redact sender = redact other)
    {settings : AuditSettings}
    (redacting : settings.redactSender = true)
    (refused : List AckTask → List AckTask)
    {event otherEvent : Event}
    (told : ToldAlike sender other event otherEvent) :
    event.notices settings refused = otherEvent.notices settings refused := by
  cases told with
  | receipt id location size =>
      simp [Event.notices, Event.notice?, AuditSettings.record?, redacting, AuditEvent.redacted,
        sameLeft]
  | refusal location =>
      simp [Event.notices, Event.notice?, AuditSettings.record?, redacting, AuditEvent.redacted,
        sameLeft]
  | decoded payload retrieval => rfl
  | undecoded payload result _ => rfl
  | screened blocked => rfl
  | stored record result => rfl
  | answered call answer _ => rfl
  | acted action answer => rfl

/-- Histories that are told alike write the same. -/
theorem journal_eq_of_toldAlike
    (sameLeft : redact sender = redact other)
    {settings : AuditSettings}
    (redacting : settings.redactSender = true)
    (refused : List AckTask → List AckTask)
    {first second : History}
    (alike : List.Forall₂ (ToldAlike sender other) first second) :
    first.journal settings refused = second.journal settings refused := by
  induction alike with
  | nil => rfl
  | cons told _ inductionHypothesis =>
      simp only [History.journal, List.flatMap_cons] at inductionHypothesis ⊢
      rw [told.notices_eq sameLeft redacting, inductionHypothesis]

/-- In a process whose audit was first given settings that redact senders, two calm runs for the same
download, in any two worlds that say the same but for the sender of what is decoded, write the same into the
journal, whatever settings are given later and whatever the lane turns away, if redaction leaves the same of
both senders. -/
theorem journal_hides_sender
    {σ τ : Type}
    (environment : Environment σ)
    (otherEnvironment : Environment τ)
    (given : σ → List AuditSettings)
    (otherGiven : τ → List AuditSettings)
    (refused : List AckTask → List AckTask)
    (settings : AuditSettings)
    (redacting : settings.redactSender = true)
    (standard : Subscription)
    (download : Download)
    (start : σ)
    (otherStart : τ)
    (written : List Journal.Notice)
    (present : sender ≠ "")
    (otherPresent : other ≠ "")
    (indistinct : Indistinct sender other)
    (calm : ((process standard download).history environment start).Calm)
    (otherCalm : ((process standard download).history otherEnvironment otherStart).Calm)
    (agree :
      (butForSender sender other).Agree
        ((process standard download).history environment start)
        ((process standard download).history otherEnvironment otherStart)) :
    ((process standard download).run (environment.journaled given refused)
        ⟨start, AuditTrail.unconfigured.configure settings, written⟩).2.journal =
      ((process standard download).run (otherEnvironment.journaled otherGiven refused)
        ⟨otherStart, AuditTrail.unconfigured.configure settings, written⟩).2.journal := by
  have alike := (process_inStep present otherPresent standard download).alike
    (leads_run environment (process standard download) start)
    (leads_run otherEnvironment (process standard download) otherStart)
    (hasEnded_ended _) (hasEnded_ended _) calm otherCalm agree
  have inForce : AuditTrail.unconfigured.configure settings = ⟨some settings⟩ := rfl
  rw [inForce, run_journaled, run_journaled]
  exact congrArg (written ++ ·)
    (journal_eq_of_toldAlike indistinct.redact_eq redacting refused alike)

/-- A world in which a greeting from a sender arrives and is stored. -/
def worldOf (sender : String) : Environment Unit :=
  unchanging
    (fun
      | .parse _ => .ok (.ok (.retrieval (greeting.sentBy sender)))
      | .isAddressBlocked _ => .ok false
      | .persist _ => .ok (.ok (.ofNat 7))
      | .relayCredentials _ => .ok none
      | .lineNumber _ => .ok none
      | .onMessageReceived _ => .ok ()
      | _ => .error ⟨"out of reach"⟩)
    (fun
      | .readFile _ => .ok [1, 2]
      | .removeFile _ => .ok ()
      | .finishDownload _ => some 5
      | .audit _ => ()
      | .note _ => ())

/-- The worlds of a greeting from two senders say the same but for the sender. -/
theorem agree_worldOf
    {α β : Type}
    (program : Program α)
    (otherProgram : Program β)
    (sender other : String) :
    (butForSender sender other).Agree (program.history (worldOf sender) ())
      (otherProgram.history (worldOf other) ()) := by
  intro place event otherEvent inFirst inSecond posed
  have said := said_of_mem_history program (List.mem_of_getElem? inFirst)
  have otherSaid := said_of_mem_history otherProgram (List.mem_of_getElem? inSecond)
  cases posed with
  | @answered call _ alike answer otherAnswer =>
      cases alike with
      | screening =>
          cases said
          cases otherSaid
          exact .screened false
      | storing record =>
          cases said
          cases otherSaid
          exact .stored record _
      | same =>
          cases call with
          | parse payload =>
              cases said
              cases otherSaid
              exact .decoded payload greeting
          | _ =>
              obtain rfl : answer = otherAnswer := Except.ok.inj (said.symm.trans otherSaid)
              exact .answered _ _ rfl
  | @acted action _ alike answer otherAnswer =>
      cases alike with
      | receipt id location size => exact .receipt id location size
      | refusal location => exact .refusal location
      | same =>
          obtain rfl : answer = otherAnswer := said.symm.trans otherSaid
          exact .acted action answer

/-- Two numbers that end alike, in a process in which the audit is told in vain to write them out. -/
theorem journal_hides_sender_greeting :
    ((process .standard arrivedGreeting).history (worldOf "+15550101234") ()).Calm ∧
      ((process .standard arrivedGreeting).history (worldOf "0049 30 0034") ()).Calm ∧
      ((process .standard arrivedGreeting).run
          ((worldOf "+15550101234").journaled (fun _ => [.standard]) id)
          ⟨(), AuditTrail.unconfigured.configure ⟨true, true⟩, []⟩).2.journal =
        ((process .standard arrivedGreeting).run
          ((worldOf "0049 30 0034").journaled (fun _ => []) id)
          ⟨(), AuditTrail.unconfigured.configure ⟨true, true⟩, []⟩).2.journal := by
  have calm : ((process .standard arrivedGreeting).history (worldOf "+15550101234") ()).Calm := by
    unfold History.Calm
    decide
  have otherCalm :
      ((process .standard arrivedGreeting).history (worldOf "0049 30 0034") ()).Calm := by
    unfold History.Calm
    decide
  have indistinct : Indistinct "+15550101234" "0049 30 0034" :=
    .numbers (by decide) (by decide) (by decide) (by decide)
      (show digitsOf "+15550101234" = "155501012".toList ++ ['3', '4'] by decide)
      (show digitsOf "0049 30 0034" = "00493000".toList ++ ['3', '4'] by decide)
  exact ⟨calm, otherCalm,
    journal_hides_sender (worldOf "+15550101234") (worldOf "0049 30 0034") _ _ id ⟨true, true⟩ rfl
      .standard arrivedGreeting () () [] (by decide) (by decide) indistinct calm otherCalm
      (agree_worldOf _ _ _ _)⟩

end Receive

end MmsInbox
