import MmsInbox.Scenario.Step

namespace MmsInbox.Scenario

/-!
# The engine as a service

A service runs the engine from its start to its end: the audit is configured, the lane and the
reception are set up, and downloads are received until their channel closes or the process is asked to
stop. Closing lets the lane finish what is queued; being asked to stop discards it. A lane that ended
in a panic is noted in the end.
-/

/-- How a service is brought to its end. -/
inductive ServiceEnd where
  /-- The channel of downloads closes. -/
  | closed
  /-- The process is asked to stop once all work is done. -/
  | askedToStop
  deriving Repr, DecidableEq

/-- What a service is given. -/
structure Service where
  config : Config
  /-- The state of the collaborators, as earlier steps have left it. -/
  world : World
  /-- The network decides by its script instead of the configured preference. -/
  scriptedNetwork : Bool
  stagings : List Staging
  serviceEnd : ServiceEnd

namespace Service

/-- The capacity of the channel through which a service hears signals. -/
def signalCapacity : Nat :=
  64

/-- The world when the service starts. -/
def start (service : Service) : World :=
  { service.world with
    fixedPreference :=
      if service.scriptedNetwork then none
      else some service.config.acknowledgment.preferDirectPath
    audit := service.world.audit.configure service.config.audit
    record := .empty
    laneRecord := .empty }

/-- The signal that goes out when a service ends. -/
def lastSignal : ServiceEnd → Signal
  | .closed => .finalised
  | .askedToStop => .shutdown

/-- Note that the lane of a session ended in a panic, if it did. -/
def noteCollapse (session : Session) : Session :=
  match session.lane with
  | none => session
  | some lane =>
      match lane.worker with
      | .panicked panic =>
          session.mapWorld fun world => world.note .others (.laneEndedAbnormally panic.reason)
      | _ => session

/-- Run a service to its end. -/
def run (service : Service) : Except Panic Session :=
  (Session.new service.config service.start signalCapacity true).map fun session =>
    let staged := service.stagings.foldl Session.stage session
    let arrived := service.stagings.foldl
      (fun reception staging => reception.arrive staging.download)
      (Receive.Reception.new signalCapacity)
    let (_, served) := staged.receiveArrivals arrived
    let (_, told) := served.signal (lastSignal service.serviceEnd)
    noteCollapse told.settle

end Service

end MmsInbox.Scenario
