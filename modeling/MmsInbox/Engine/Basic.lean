import MmsInbox.Ack.Traffic
import MmsInbox.Receive.Permits
import MmsInbox.Receive.Reception
import MmsInbox.Receive.Run

namespace MmsInbox

/-!
# The engine

The engine is a reception, the runs that it has started, the lane, and a controller that brings them up and
down. All of them go on side by side: whatever can happen next may happen (`Engine.step?`), one question,
one action or one pushed task at a time.

The controller waits for the reception to end, tells the lane to finish, and returns when the lane has
ended. If the process is asked to stop it tells everybody to stop instead, and if it cannot be asked it
gives up at once; either way it then waits for the lane.
-/

namespace Engine

/-- A run that the reception has started. -/
structure Run where
  download : Download
  /-- The run may go on: it holds a permit, if permits are needed. -/
  admitted : Bool
  /-- What is left of the run. -/
  rest : Program Outcome
  /-- What has happened in the run. -/
  record : History
  /-- The tasks that are still to be pushed, while the run is handing tasks to the lane. -/
  pushing : Option (List AckTask)
  /-- The completion of the run has resolved. -/
  resolved : Bool
  /-- The run has given its permit back, and let go of the lane. -/
  released : Bool

/-- The tasks that a question hands to the lane. -/
def tasksOf : Call → List AckTask
  | .submit tasks => tasks
  | _ => []

namespace Run

/-- A run that has yet to be admitted. -/
def new
    (config : Config)
    (download : Download) :
    Run where
  download := download
  admitted := false
  rest := Receive.process config.defaultSubscription download
  record := []
  pushing := none
  resolved := false
  released := false

/-- The tasks that the run has handed to the lane, in order. -/
def submitted (run : Run) : List AckTask :=
  run.record.calls.flatMap tasksOf

/-- Go on with a run. A run that hands tasks to the lane first has to push them. -/
def advance?
    {σ : Type}
    (environment : Environment σ)
    (run : Run)
    (world : σ) :
    Option (Run × σ) :=
  if run.admitted && run.pushing.isNone then
    match run.rest with
    | .ask (.submit tasks) _ _ => some ({ run with pushing := some tasks }, world)
    | rest =>
        (rest.step? environment.recorded (world, run.record)).map fun (rest, world, record) =>
          ({ run with rest := rest, record := record }, world)
  else none

/-- Go on with a run whose tasks have all been pushed. -/
def resume? (run : Run) : Option Run :=
  match run.rest, run.pushing with
  | .ask (.submit tasks) answered _, some [] =>
      some { run with
        rest := answered ()
        record := run.record ++ [.answered (.submit tasks) ()]
        pushing := none }
  | _, _ => none

end Run

/-- Why the controller waits for the lane. -/
inductive Ending where
  /-- The reception has ended. -/
  | served
  /-- The process was asked to stop. -/
  | askedToStop
  /-- The process cannot be asked to stop. -/
  | failed
  deriving Repr, DecidableEq

/-- What the controller is doing. -/
inductive Control where
  | serving
  | awaitingLane (ending : Ending)
  | returned (ending : Ending)
  deriving Repr, DecidableEq

end Engine

/-- The engine and the world around it. -/
structure Engine (σ : Type) where
  reception : Receive.Reception
  permits : Receive.Permits
  /-- The runs that the reception has started, the first first. -/
  runs : List Engine.Run
  /-- The lane and its books; a run owns its pushes under its number. -/
  traffic : Traffic σ
  control : Engine.Control
  /-- The signals that others have broadcast while the controller was serving. -/
  early : List Signal
  /-- The signals that others have broadcast while the controller was waiting for the lane. -/
  late : List Signal

namespace Engine

variable {σ : Type}

/-- An engine that has just been set up. -/
def new
    (permits : Receive.Permits)
    (signalCapacity : Nat)
    (world : σ) :
    Engine σ where
  reception := .new signalCapacity
  permits := permits
  runs := []
  traffic := .new signalCapacity world
  control := .serving
  early := []
  late := []

/-- Something that can happen in the engine. -/
inductive Move (σ : Type) where
  | arrive (download : Download)
  | closeSource
  /-- The reception starts a run for the next download. -/
  | take
  /-- The reception notices that its channel is closed. -/
  | noticeClosed
  /-- The reception has awaited all runs. -/
  | finish
  /-- The reception heeds a signal. -/
  | heed
  /-- A run takes a permit. -/
  | acquire (number : Nat)
  | advance (number : Nat)
  /-- A run pushes the next of the tasks that it hands to the lane. -/
  | push (number : Nat)
  /-- A run has pushed all tasks and goes on. -/
  | resume (number : Nat)
  /-- The completion of a run resolves. -/
  | resolve (number : Nat)
  /-- A run gives its permit back. -/
  | release (number : Nat)
  /-- The controller tells the lane to finish. -/
  | announce
  /-- The process is asked to stop, and the controller tells everybody. -/
  | askToStop
  /-- The process cannot be asked to stop, and the controller gives up. -/
  | fail
  /-- The controller returns. -/
  | conclude
  /-- Somebody else broadcasts a signal. -/
  | broadcast (signal : Signal)
  /-- The worker of the lane makes a step. -/
  | work
  /-- The handle of the lane is dropped, after the reception and the last run. -/
  | dropHandle
  /-- The rest of the world goes on. -/
  | elsewhere (change : σ → σ)

/-- Let something happen on the lane. -/
def pass?
    (surroundings : Surroundings σ)
    (config : Config)
    (engine : Engine σ)
    (move : Traffic.Move σ) :
    Option (Engine σ) :=
  (engine.traffic.step? surroundings config.acknowledgment move).map fun traffic =>
    { engine with traffic := traffic }

/-- Replace a run. -/
def setRun
    (engine : Engine σ)
    (number : Nat)
    (run : Run) :
    Engine σ :=
  { engine with runs := engine.runs.set number run }

/-- A signal that somebody else broadcasts. -/
def broadcast
    (engine : Engine σ)
    (signal : Signal) :
    Engine σ :=
  { engine with
    reception := { engine.reception with signals := engine.reception.signals.push signal }
    traffic := { engine.traffic with lane := engine.traffic.lane.signal signal }
    early :=
      match engine.control with
      | .serving => engine.early ++ [signal]
      | _ => engine.early
    late :=
      match engine.control with
      | .awaitingLane _ => engine.late ++ [signal]
      | _ => engine.late }

/-- The controller stops serving: the reception ends with it, if it has not ended yet. -/
def stopServing
    (engine : Engine σ)
    (ending : Ending) :
    Engine σ :=
  { engine with
    reception := { engine.reception with phase := .stopped }
    control := .awaitingLane ending }

/-- Let something happen, if it can. -/
def step?
    (surroundings : Surroundings σ)
    (config : Config)
    (engine : Engine σ) :
    Move σ → Option (Engine σ)
  | .arrive download =>
      if engine.reception.sourceOpen then
        some { engine with reception := engine.reception.arrive download }
      else none
  | .closeSource => some { engine with reception := engine.reception.closeSource }
  | .take =>
      engine.reception.take?.map fun (download, reception) =>
        { engine with reception := reception, runs := engine.runs ++ [.new config download] }
  | .noticeClosed =>
      engine.reception.noticeClosed?.map fun reception => { engine with reception := reception }
  | .finish =>
      engine.reception.finish?.map fun reception => { engine with reception := reception }
  | .heed =>
      engine.reception.heed?.map fun (loss, reception) =>
        { engine with
          reception := reception
          traffic := { engine.traffic with
            world :=
              match loss with
              | none => engine.traffic.world
              | some loss =>
                  surroundings.others.note (.receptionLostSignals loss) engine.traffic.world } }
  | .acquire number =>
      match engine.runs[number]? with
      | some run =>
          if run.admitted then none
          else engine.permits.acquire?.map fun permits =>
            { engine with permits := permits }.setRun number { run with admitted := true }
      | none => none
  | .advance number =>
      match engine.runs[number]? with
      | some run =>
          (run.advance? surroundings.others engine.traffic.world).map fun (run, world) =>
            { engine with traffic := { engine.traffic with world := world } }.setRun number run
      | none => none
  | .push number =>
      match engine.runs[number]? with
      | some run =>
          match run.pushing with
          | some (task :: remaining) =>
              some ({ engine with
                traffic := engine.traffic.push surroundings.others number task }.setRun number
                  { run with pushing := some remaining })
          | _ => none
      | none => none
  | .resume number =>
      match engine.runs[number]? with
      | some run => run.resume?.map (engine.setRun number)
      | none => none
  | .resolve number =>
      match engine.runs[number]? with
      | some run =>
          if run.rest.hasEnded && !run.resolved then
            some ({ engine with reception := engine.reception.resolve }.setRun number
              { run with resolved := true })
          else none
      | none => none
  | .release number =>
      match engine.runs[number]? with
      | some run =>
          if run.rest.hasEnded && !run.released then
            some ({ engine with permits := engine.permits.release }.setRun number
              { run with released := true })
          else none
      | none => none
  | .announce =>
      if engine.control = .serving ∧ engine.reception.phase = .stopped then
        (engine.stopServing .served).pass? surroundings config (.signal .finalised)
      else none
  | .askToStop =>
      if engine.control = .serving then
        (engine.stopServing .askedToStop).pass? surroundings config (.signal .shutdown)
      else none
  | .fail =>
      if engine.control = .serving then some (engine.stopServing .failed) else none
  | .conclude =>
      match engine.control with
      | .awaitingLane ending =>
          if engine.traffic.lane.hasEnded then some { engine with control := .returned ending }
          else none
      | _ => none
  | .broadcast signal => some (engine.broadcast signal)
  | .work => engine.pass? surroundings config .work
  | .dropHandle =>
      if engine.reception.phase = .stopped ∧
          engine.runs.all (fun run => run.resolved && run.released) then
        engine.pass? surroundings config .drop
      else none
  | .elsewhere change => engine.pass? surroundings config (.elsewhere change)

/-- Let things happen one after another, if they can. -/
def run?
    (surroundings : Surroundings σ)
    (config : Config) :
    List (Move σ) → Engine σ → Option (Engine σ)
  | [], engine => some engine
  | move :: later, engine =>
      (engine.step? surroundings config move).bind (run? surroundings config later)

end Engine

end MmsInbox
