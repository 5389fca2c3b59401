import MmsInbox.Receive.Download
import MmsInbox.Signal

namespace MmsInbox.Receive

/-!
# The reception

The reception takes finished downloads from a channel in the order in which they arrive and starts a
run for each. When the channel closes it waits for the runs it has started, and then it ends. On a
signal, or when signals are lost, it ends at once; the runs that it has started go on without it and
the downloads still in the channel are never started.
-/

/-- What the reception is doing. -/
inductive ReceptionPhase where
  | serving
  /-- The channel is closed; started runs are awaited. -/
  | awaitingRuns
  | stopped
  deriving Repr, DecidableEq

/-- A reception. -/
structure Reception where
  /-- The downloads that wait in the channel, the oldest first. -/
  arrivals : List Download
  /-- More downloads may arrive. -/
  sourceOpen : Bool
  signals : SignalInbox
  /-- The number of started runs whose completion has not resolved. -/
  underWay : Nat
  phase : ReceptionPhase
  deriving Repr, DecidableEq

namespace Reception

/-- A reception with an open channel, whose signals come through a channel of the given capacity. -/
def new (signalCapacity : Nat) : Reception :=
  ⟨[], true, .new signalCapacity, 0, .serving⟩

/-- A download arrives. -/
def arrive
    (reception : Reception)
    (download : Download) :
    Reception :=
  { reception with arrivals := reception.arrivals ++ [download] }

/-- The channel closes for new downloads. -/
def closeSource (reception : Reception) : Reception :=
  { reception with sourceOpen := false }

/-- Take the next download from the channel in order to start its run. -/
def take? (reception : Reception) : Option (Download × Reception) :=
  match reception.phase, reception.arrivals with
  | .serving, download :: later =>
      some (download,
        { reception with arrivals := later, underWay := reception.underWay + 1 })
  | _, _ => none

/-- The completion of a started run resolves. -/
def resolve (reception : Reception) : Reception :=
  { reception with underWay := reception.underWay - 1 }

/-- Notice that the channel is closed and empty. -/
def noticeClosed? (reception : Reception) : Option Reception :=
  if reception.phase = .serving ∧ reception.arrivals = [] ∧ reception.sourceOpen = false then
    some { reception with phase := .awaitingRuns }
  else none

/-- End after the last awaited run. -/
def finish? (reception : Reception) : Option Reception :=
  if reception.phase = .awaitingRuns ∧ reception.underWay = 0 then
    some { reception with phase := .stopped }
  else none

/-- Read a signal and end; a loss of signals is told. -/
def heed? (reception : Reception) : Option (Option SignalLoss × Reception) :=
  if reception.phase = .serving then
    reception.signals.receive?.map fun (heard, signals) =>
      (match heard with
        | .ok _ => none
        | .error loss => some loss,
      { reception with signals := signals, phase := .stopped })
  else none

end Reception

end MmsInbox.Receive
