import MmsInbox.Scenario.Session

namespace MmsInbox.Scenario

/-!
# Steps of a session

A session is driven by steps: they write the script, use the stores and the downloads in flight, put
single parts of a run to work, run downloads, and feed or stop the lane. Each step yields a result.
-/

/-- What can be done in a session. -/
inductive Step where
  | block (address : String) (on : Bool)
  | credentials (subscription : Subscription) (value : Option RelayCredentials)
  | lineNumber (subscription : Subscription) (value : Option String)
  | panicAt (name : CallName) (on : Bool)
  | failAt (name : CallName) (failure : Option Failure)
  | network (direct : Bool)
  | transport (replies : List Reply)
  | hold
  | release
  | insertNotification (row : NotificationRow)
  | load (uri : String)
  | deletePending (location : String)
  | updateRetrieveStatus (location : String) (status : UInt8)
  | getNotification (uri : String)
  | rowsFor (location : String)
  | persist (message : MessageRecord)
  | messages
  | getMessage (id : MessageId)
  | failPersist (on : Bool)
  | attempts
  | clear
  | waitForCount (expected : Nat)
  | begin (location : String)
  | finish (location : String)
  | inProgress (location : String)
  | cleanUp (status : Option FetchStatus) (location : String)
  | screen (sender : Option String) (location : String)
  | takeIn (staging : Staging)
  | receive (staging : Staging)
  | receiveMany (stagings : List Staging)
  | serve (stagings : List Staging) (receptionEnd : ReceptionEnd)
  | submit (tasks : List AckTask)
  | send (task : AckTask)
  | signal (signals : List Signal)
  | submitAndSignal (tasks : List AckTask) (signal : Signal)
  | dropSignals
  | dropSubmitters
  | lane

/-- Whether the worker of the lane is at work. -/
inductive LaneStatus where
  | running
  | stopped
  | panicked
  deriving Repr, DecidableEq

/-- What a step yields. -/
inductive StepResult where
  | nothing
  | truth (value : Bool)
  | truths (values : List Bool)
  | count (value : Nat)
  | countIfKnown (value : Option Nat)
  | storeFailed (error : StoreError)
  | loaded (notification : Notification)
  | row (row : Option NotificationRow)
  /-- Rows, each with whether it is pending for the location that was asked about. -/
  | rows (rows : List (NotificationRow × Bool))
  | stored (id : MessageId)
  | messages (messages : List (MessageId × MessageRecord))
  | records (records : List MessageRecord)
  | message (message : Option MessageRecord)
  | verdict (verdict : Receive.Verdict)
  | takenIn (payload : Except IntakeError Bytes) (fileExists : Bool)
  | received (outcome : Outcome) (fileExists : Bool)
  | outcomes (outcomes : List Outcome)
  | served
  | sent (result : Except AckError (Option UInt16))
  | lane (status : LaneStatus)
  /-- A panic reached whoever took the step. -/
  | panicked

namespace StepResult

/-- The result of a program, or that it ended in a panic. -/
def ofRun
    {α : Type}
    (result : Except Panic α)
    (yield : α → StepResult) :
    StepResult :=
  match result with
  | .ok value => yield value
  | .error _ => .panicked

/-- What a store reports, or its error. -/
def ofStore
    {α : Type}
    (yield : α → StepResult) :
    Except StoreError α → StepResult
  | .ok value => yield value
  | .error error => .storeFailed error

end StepResult

namespace Session

/-- Change the script of a session. -/
def mapScript
    (session : Session)
    (change : Script → Script) :
    Session :=
  session.mapWorld fun world => { world with script := change world.script }

/-- A signal is broadcast to the lane; tell whether anyone heard it. -/
def signal
    (session : Session)
    (signal : Signal) :
    Bool × Session :=
  (session.lane.any Lane.hears, session.mapLane (·.signal signal))

/-- Signals are broadcast to the lane one after another. -/
def signalAll
    (session : Session)
    (signals : List Signal) :
    List Bool × Session :=
  signals.foldl
    (fun (heard, session) signal =>
      let (one, session) := session.signal signal
      (heard ++ [one], session))
    ([], session)

/-- Run a program and turn its value into the result of a step. -/
def runStep
    {α : Type}
    (session : Session)
    (program : Program α)
    (yield : α → StepResult) :
    StepResult × Session :=
  let (result, session) := session.run program
  (.ofRun result yield, session)

/-- The number of attempts that a monitored message store has counted. -/
def attempts (session : Session) : Nat :=
  match session.world.messages with
  | .monitored store => store.attempts
  | .plain _ => 0

/-- Change the monitored message store of a session. -/
def mapMonitored
    (session : Session)
    (change : MonitoredStore → MonitoredStore) :
    Session :=
  session.mapWorld fun world =>
    { world with
      messages := match world.messages with
        | .monitored store => .monitored (change store)
        | plain => plain }

/-- The status of the lane's worker. -/
def laneStatus (session : Session) : LaneStatus :=
  match session.lane with
  | none => .stopped
  | some lane =>
      match lane.worker with
      | .panicked _ => .panicked
      | .stopped => .stopped
      | _ => .running

/-- The effect and the result of a step, before the lane goes on. -/
def apply
    (session : Session) :
    Step → StepResult × Session
  | .block address on =>
      let (changed, blocked) := Script.toggle session.world.script.blocked address on
      (.truth changed, session.mapScript fun script => { script with blocked := blocked })
  | .credentials subscription value =>
      (.truth (Assignments.value? session.world.script.credentials subscription).isSome,
        session.mapScript fun script =>
          { script with
            credentials := Assignments.assign script.credentials subscription value })
  | .lineNumber subscription value =>
      (.truth (Assignments.value? session.world.script.lineNumbers subscription).isSome,
        session.mapScript fun script =>
          { script with
            lineNumbers := Assignments.assign script.lineNumbers subscription value })
  | .panicAt name on =>
      let (changed, panics) := Script.toggle session.world.script.panics name on
      (.truth changed, session.mapScript fun script => { script with panics := panics })
  | .failAt name failure =>
      (.truth (session.world.script.failure? name).isSome,
        session.mapScript fun script =>
          { script with failures := Assignments.assign script.failures name failure })
  | .network direct =>
      (.nothing, session.mapScript fun script => { script with direct := direct })
  | .transport replies =>
      (.nothing,
        session.mapScript fun script => { script with replies := script.replies ++ replies })
  | .hold => (.nothing, session.mapScript fun script => { script with held := true })
  | .release => (.nothing, session.mapScript fun script => { script with held := false })
  | .insertNotification row =>
      (.truth false,
        session.mapWorld fun world =>
          { world with notifications := world.notifications.insert row })
  | .load uri => session.runStep (Program.call (.load uri)) (.ofStore .loaded)
  | .deletePending location =>
      session.runStep (Program.call (.deletePending location)) (.ofStore .count)
  | .updateRetrieveStatus location status =>
      session.runStep (Program.call (.updateRetrieveStatus location status)) (.ofStore .count)
  | .getNotification uri => (.row (session.world.notifications.get? uri), session)
  | .rowsFor location =>
      (.rows ((session.world.notifications.rowsFor location).map fun row =>
          (row, row.isPendingFor location)),
        session)
  | .persist message => session.runStep (Program.call (.persist message)) (.ofStore .stored)
  | .messages =>
      (match session.world.messages with
        | .plain store => .messages store.toList
        | .monitored store => .records (store.inner.toList.map (·.2)),
      session)
  | .getMessage id => (.message (session.world.messages.store.get? id), session)
  | .failPersist on =>
      let session := session.mapMonitored fun store => { store with failing := on }
      (.count session.attempts, session)
  | .attempts => (.count session.attempts, session)
  | .clear =>
      let session := session.mapMonitored MonitoredStore.clear
      (.count session.attempts, session)
  | .waitForCount expected =>
      (.ofStore (fun () => .count session.attempts)
          (Waiter.await expected session.world.messages.store.size),
        session)
  | .begin location =>
      let (began, downloads) := session.world.downloads.begin location 0
      (.truth began, session.mapWorld fun world => { world with downloads := downloads })
  | .finish location =>
      let (began, downloads) := session.world.downloads.finish location
      (.truth began.isSome, session.mapWorld fun world => { world with downloads := downloads })
  | .inProgress location =>
      (.truths
          [session.world.downloads.isInProgress location, session.world.downloads.isEmpty],
        session)
  | .cleanUp status location =>
      session.runStep (Receive.removeStale status location) .countIfKnown
  | .screen sender location => session.runStep (Receive.screen sender location) .verdict
  | .takeIn staging =>
      let (result, session) :=
        (session.stage staging).run (Receive.takeIn staging.download.path)
      (.ofRun result fun payload =>
          .takenIn payload (session.world.directory.holds staging.download.path),
        session)
  | .receive staging =>
      let (outcome, session) := (session.stage staging).receive staging.download
      (.received outcome (session.world.directory.holds staging.download.path), session)
  | .receiveMany stagings =>
      let (outcomes, session) := session.receiveAll stagings
      (.outcomes outcomes, session)
  | .serve stagings receptionEnd => (.served, session.serve stagings receptionEnd)
  | .submit tasks => (.nothing, session.submit tasks)
  | .send task =>
      session.runStep (Ack.send session.config.acknowledgment task) .sent
  | .signal signals =>
      let (heard, session) := session.signalAll signals
      (.truths heard, session)
  | .submitAndSignal tasks signal =>
      let (heard, session) := (session.submit tasks).signal signal
      (.truth heard, session)
  | .dropSignals => (.nothing, session.mapLane Lane.disconnectSignals)
  | .dropSubmitters => (.nothing, session.mapLane Lane.dropHandles)
  | .lane => (.lane session.laneStatus, session)

/-- Take a step and let everything come to rest. The records then tell what the step has set off. -/
def step
    (session : Session)
    (step : Step) :
    StepResult × Session :=
  let fresh := session.mapWorld fun world =>
    { world with record := .empty, laneRecord := .empty }
  let (result, after) := fresh.apply step
  (result, after.settle)

end Session

end MmsInbox.Scenario
