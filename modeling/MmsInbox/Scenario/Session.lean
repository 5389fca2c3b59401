import MmsInbox.Ack.Settle
import MmsInbox.Receive.Permits
import MmsInbox.Receive.Reception
import MmsInbox.Receive.Run
import MmsInbox.Scenario.World

namespace MmsInbox.Scenario

/-!
# Sessions

A session is a world, a lane and a configuration. Whatever is set going in a session goes on until
nothing can move any more: runs end, and the worker of the lane runs until it has nothing to do or
has to wait for an answer that the transport keeps back.
-/

/-- A download that is staged: what is put where its file should be, and how its bytes are read. -/
structure Staging where
  download : Download
  /-- What stands at the path; nothing if the file is missing. -/
  placed : Option File.Entry
  /-- The downloaded bytes, for which the codec is given its answer. -/
  payload : Bytes
  pdu : Option (Except CodecError Pdu)

/-- How a reception comes to its end. -/
inductive ReceptionEnd where
  | closed
  | signalled (signal : Signal)
  /-- The sender of signals is gone. -/
  | signalsDropped
  /-- More signals are sent than the reception can hold. -/
  | signalsLagged
  deriving Repr, DecidableEq

/-- A session. -/
structure Session where
  world : World
  config : Config
  permits : Receive.Permits
  /-- The lane, unless submitted tasks are only recorded. -/
  lane : Option Lane

namespace Session

/-- A session in which nothing has happened, with or without a lane. Its signals go through a channel of
the given capacity, which cannot be zero. -/
def new
    (config : Config)
    (world : World)
    (signalCapacity : Nat)
    (withLane : Bool) :
    Except Panic Session :=
  if signalCapacity = 0 then .error ⟨"a channel of signals needs a capacity"⟩
  else (Receive.Permits.ofConfig config).map fun permits =>
    ⟨world, config, permits, if withLane then some (.new signalCapacity) else none⟩

/-- Change the world of a session. -/
def mapWorld
    (session : Session)
    (change : World → World) :
    Session :=
  { session with world := change session.world }

/-- Change the lane of a session, if it has one. -/
def mapLane
    (session : Session)
    (change : Lane → Lane) :
    Session :=
  { session with lane := session.lane.map change }

/-- Hand tasks to the lane on behalf of others. -/
def submit
    (session : Session)
    (tasks : List AckTask) :
    Session :=
  match session.lane with
  | none => session
  | some lane =>
      let (lane, world) := lane.submitAll (World.environment .others) tasks session.world
      { session with lane := some lane, world := world }

/-- The session as an environment for runs: the lane takes the tasks that a run submits, and the world
answers everything else. -/
def environment : Environment Session where
  answer call session :=
    match call, session.lane with
    | .submit tasks, some _ => (.ok (), session.submit tasks)
    | call, _ =>
        let (answer, world) := session.world.answer .others call
        (answer, { session with world := world })
  perform action session :=
    let (answer, world) := session.world.act .others action
    (answer, { session with world := world })

/-- The worker of the lane waits for an answer that the transport keeps back. -/
def waits (session : Session) (call : Call) : Bool :=
  session.world.script.held && call == .awaitResponse

/-- Let the worker of the lane go on as far as it can. -/
def settle (session : Session) : Session :=
  match session.lane with
  | none => session
  | some lane =>
      let (lane, world) :=
        lane.settle (World.environment .lane) session.config.acknowledgment session.waits
          session.world
      { session with lane := some lane, world := world }

/-- Run a program of the engine in a session. -/
def run
    {α : Type}
    (session : Session)
    (program : Program α) :
    Except Panic α × Session :=
  program.run environment session

/-- Put the file of a staged download in its place and tell the codec about its bytes. -/
def stage
    (session : Session)
    (staging : Staging) :
    Session :=
  session.mapWorld fun world =>
    let path := staging.download.path
    { world with
      directory := match staging.placed with
        | some entry => world.directory.make path entry
        | none => world.directory.discard path
      script := match staging.pdu with
        | some pdu =>
            { world.script with
              parses := Assignments.assign world.script.parses staging.payload (some pdu) }
        | none => world.script }

/-- Run a download to its end, with a permit, and let the lane take over what it submitted. -/
def receive
    (session : Session)
    (download : Download) :
    Outcome × Session :=
  match session.permits.acquire? with
  | none => (.aborted, session)
  | some permits =>
      let (result, after) :=
        { session with permits := permits }.run
          (Receive.process session.config.defaultSubscription download)
      (Receive.completion result, { after with permits := after.permits.release }.settle)

/-- Stage and run downloads one after another. With one permit all are staged before the first runs. -/
def receiveAll
    (session : Session)
    (stagings : List Staging) :
    List Outcome × Session :=
  if session.permits.limit = some 1 then
    stagings.foldl
      (fun (outcomes, session) staging =>
        let (outcome, session) := session.receive staging.download
        (outcomes ++ [outcome], session))
      ([], stagings.foldl stage session)
  else
    stagings.foldl
      (fun (outcomes, session) staging =>
        let (outcome, session) := (session.stage staging).receive staging.download
        (outcomes ++ [outcome], session))
      ([], session)

-- `taken` is used by `decreasing_by`, where the linter does not look.
set_option linter.unusedVariables false in
/-- Start and run what has arrived at a reception, one download after another. -/
def receiveArrivals
    (session : Session)
    (reception : Receive.Reception) :
    Receive.Reception × Session :=
  match taken : reception.take? with
  | none => (reception, session)
  | some (download, later) =>
      let (_, session) := session.receive download
      session.receiveArrivals later.resolve
  termination_by reception.arrivals.length
  decreasing_by
    unfold Receive.Reception.take? at taken
    split at taken
    · rename_i first rest serving arrived
      simp only [Option.some.injEq, Prod.mk.injEq] at taken
      simp [← taken.2, arrived, Receive.Reception.resolve]
    · simp at taken

/-- Let a reception without arrivals come to its end, if it can. -/
def concludeReception
    (session : Session)
    (reception : Receive.Reception) :
    Session :=
  match reception.noticeClosed? >>= (·.finish?) with
  | some _ => session
  | none =>
      match reception.heed? with
      | some (some loss, _) =>
          session.mapWorld fun world => world.note .others (.receptionLostSignals loss)
      | _ => session

/-- What an end does to a reception. -/
def applyEnd
    (reception : Receive.Reception) :
    ReceptionEnd → Receive.Reception
  | .closed => reception.closeSource
  | .signalled signal => { reception with signals := reception.signals.push signal }
  | .signalsDropped => { reception with signals := reception.signals.disconnect }
  | .signalsLagged =>
      { reception with signals := (reception.signals.push .shutdown).push .shutdown }

/-- A download arrives at a reception while its location is marked as in flight. -/
def arriveMarked
    (session : Session)
    (reception : Receive.Reception)
    (staging : Staging) :
    Receive.Reception × Session :=
  let marked := (session.stage staging).mapWorld fun world =>
    { world with downloads := (world.downloads.begin staging.download.location 0).2 }
  marked.receiveArrivals (reception.arrive staging.download)

/-- Serve downloads with a reception of its own until it ends. If the channel closes in the end and
runs come one at a time, all downloads arrive first; otherwise each run ends before the next download
arrives. -/
def serve
    (session : Session)
    (stagings : List Staging)
    (receptionEnd : ReceptionEnd) :
    Session :=
  if receptionEnd = .closed ∧ session.permits.limit = some 1 then
    let arrived := stagings.foldl (fun reception staging => reception.arrive staging.download)
      (Receive.Reception.new 1)
    let (reception, session) :=
      (stagings.foldl stage session).receiveArrivals arrived.closeSource
    session.concludeReception reception
  else
    let (reception, session) := stagings.foldl
      (fun (reception, session) staging => session.arriveMarked reception staging)
      (Receive.Reception.new 1, session)
    session.concludeReception (applyEnd reception receptionEnd)

end Session

end MmsInbox.Scenario
