import MmsInbox.Downloads
import MmsInbox.File.Directory
import MmsInbox.Program.Environment
import MmsInbox.Scenario.Script
import MmsInbox.Store.Monitored
import MmsInbox.Store.Notifications

namespace MmsInbox.Scenario

/-!
# The world of a scenario

The stores, the downloads in flight and the working directory are real; the collaborators around them
follow a script. Everything that the engine asks and writes down is recorded, apart for the lane and
for all others.
-/

/-- The message store of a scenario. -/
inductive MessageKeeper where
  | plain (store : MessageStore)
  | monitored (store : MonitoredStore)

namespace MessageKeeper

/-- The messages that are kept. -/
def store : MessageKeeper → MessageStore
  | .plain store => store
  | .monitored store => store.inner

/-- Store a message under a fresh identifier. -/
def persist
    (keeper : MessageKeeper)
    (fresh : MessageId)
    (record : MessageRecord) :
    Except StoreError Unit × MessageKeeper :=
  match keeper with
  | .plain store =>
      match store.persist fresh record with
      | .ok fuller => (.ok (), .plain fuller)
      | .error error => (.error error, keeper)
  | .monitored store =>
      let (result, later) := store.persist fresh record
      (result, .monitored later)

end MessageKeeper

/-- Who asks. -/
inductive Party where
  /-- The worker of the lane. -/
  | lane
  /-- Everyone else. -/
  | others
  deriving Repr, DecidableEq

/-- What was asked and written down. -/
structure Record where
  calls : List Call
  notices : List Journal.Notice

namespace Record

/-- Nothing was asked or written down. -/
def empty : Record :=
  ⟨[], []⟩

end Record

/-- The state of a scenario. -/
structure World where
  script : Script
  /-- The application takes part; otherwise it blocks nobody, knows nothing and is told nothing. -/
  applicationTakesPart : Bool
  /-- The network decides by the script; otherwise its preference is fixed. -/
  fixedPreference : Option Bool
  messages : MessageKeeper
  /-- The number of messages stored so far, which numbers them. -/
  stored : Nat
  notifications : NotificationStore
  downloads : Downloads
  directory : File.Directory
  audit : AuditTrail
  /-- What the lane has asked and written. -/
  laneRecord : Record
  /-- What everyone else has asked and written. -/
  record : Record

namespace World

/-- A world in which nothing has happened. -/
def new
    (messages : MessageKeeper)
    (applicationTakesPart : Bool) :
    World :=
  ⟨.plain, applicationTakesPart, none, messages, 0, .empty, .empty, .empty, .unconfigured,
    .empty, .empty⟩

/-- Change the record of a party. -/
def recordBy
    (world : World)
    (party : Party)
    (change : Record → Record) :
    World :=
  match party with
  | .lane => { world with laneRecord := change world.laneRecord }
  | .others => { world with record := change world.record }

/-- Write a notice into the journal of a party. -/
def note
    (world : World)
    (party : Party)
    (notice : Journal.Notice) :
    World :=
  world.recordBy party fun record => { record with notices := record.notices ++ [notice] }

/-- Audit an event on behalf of a party. -/
def publish
    (world : World)
    (party : Party)
    (event : AuditEvent) :
    World :=
  match world.audit.settings.record? event with
  | some event => world.note party (.audited event)
  | none => world

/-- The answer of an application that takes no part, to the calls that it would get. -/
def silentAnswer? : (call : Call) → Option call.Answer
  | .isAddressBlocked _ => some false
  | .relayCredentials _ => some none
  | .lineNumber _ => some none
  | .onMessageReceived _ => some ()
  | .onError _ => some ()
  | _ => none

/-- The answer of a network whose preference is fixed, to the calls that it gets. -/
def fixedAnswer?
    (direct : Bool) :
    (call : Call) → Option call.Answer
  | .prefersDirectPath => some direct
  | .ensureRouteToHost _ _ => some (.ok ())
  | _ => none

/-- The answer to a call that is not recorded. -/
def unrecordedAnswer?
    (world : World)
    (call : Call) :
    Option call.Answer :=
  (if world.applicationTakesPart then none else silentAnswer? call) <|>
    world.fixedPreference.bind fun direct => fixedAnswer? direct call

/-- Delete the pending rows of a location, unless the script says that this fails. -/
def deletePending
    (world : World)
    (location : String) :
    Except StoreError Nat × World :=
  match world.script.storeError? .deletePending with
  | some error => (.error error, world)
  | none =>
      let (removed, notifications) := world.notifications.deletePending location
      (.ok removed, { world with notifications := notifications })

/-- Mark the pending rows of a location, unless the script says that this fails. -/
def updateRetrieveStatus
    (world : World)
    (location : String)
    (status : UInt8) :
    Except StoreError Nat × World :=
  match world.script.storeError? .updateRetrieveStatus with
  | some error => (.error error, world)
  | none =>
      let (marked, notifications) := world.notifications.updateRetrieveStatus location status
      (.ok marked, { world with notifications := notifications })

/-- Store a message, unless the script says that this fails. Stored messages are numbered. -/
def persist
    (world : World)
    (message : MessageRecord) :
    Except StoreError MessageId × World :=
  match world.script.storeError? .persist with
  | some error => (.error error, world)
  | none =>
      let fresh := MessageId.ofNat (world.stored + 1)
      match world.messages.persist fresh message with
      | (.ok (), messages) =>
          (.ok fresh, { world with messages := messages, stored := world.stored + 1 })
      | (.error error, messages) => (.error error, { world with messages := messages })

/-- What the collaborators answer when they do not panic. -/
def scriptedAnswer
    (world : World) :
    (call : Call) → call.Answer × World
  | .parse payload => (world.script.parse payload, world)
  | .compose pdu => (world.script.compose pdu, world)
  | .persist message => world.persist message
  | .load uri =>
      (match world.script.storeError? .load with
        | some error => .error error
        | none => world.notifications.load uri,
      world)
  | .deletePending location => world.deletePending location
  | .updateRetrieveStatus location status => world.updateRetrieveStatus location status
  | .isAddressBlocked address => (world.script.blocked.contains address, world)
  | .relayCredentials subscription =>
      (Assignments.value? world.script.credentials subscription, world)
  | .lineNumber subscription => (Assignments.value? world.script.lineNumbers subscription, world)
  | .onMessageReceived _ => ((), world)
  | .onError _ => ((), world)
  | .submit _ => ((), world)
  | .prefersDirectPath => (world.script.direct, world)
  | .ensureRouteToHost _ _ =>
      (match (world.script.failure? .ensureRouteToHost).bind Failure.route? with
        | some error => .error error
        | none => .ok (),
      world)
  | .post _ => ((), world)
  | .awaitResponse =>
      let (reply, script) := world.script.reply
      (reply.map fun status => ⟨status, []⟩, { world with script := script })

/-- Answer a call of a party: record it, panic if the script says so, and otherwise answer. -/
def answer
    (world : World)
    (party : Party)
    (call : Call) :
    Except Panic call.Answer × World :=
  match world.unrecordedAnswer? call with
  | some answer => (.ok answer, world)
  | none =>
      match nameOf? call with
      | none =>
          let (answer, later) := world.scriptedAnswer call
          (.ok answer, later)
      | some name =>
          let recorded := world.recordBy party fun record =>
            { record with calls := record.calls ++ [call] }
          if world.script.panics.contains name then
            (.error ⟨"scripted panic in " ++ name.text⟩, recorded)
          else
            let (answer, later) := recorded.scriptedAnswer call
            (.ok answer, later)

/-- Carry out an action of a party. -/
def act
    (world : World)
    (party : Party) :
    (action : Action) → action.Answer × World
  | .readFile path => (world.directory.read path, world)
  | .removeFile path =>
      let (result, directory) := world.directory.remove path
      (result, { world with directory := directory })
  | .finishDownload location =>
      let (began, downloads) := world.downloads.finish location
      (began, { world with downloads := downloads })
  | .audit event => ((), world.publish party event)
  | .note notice => ((), world.note party notice)

/-- The world as an environment for the programs of a party. -/
def environment (party : Party) : Environment World where
  answer call world := world.answer party call
  perform action world := world.act party action

end World

end MmsInbox.Scenario
