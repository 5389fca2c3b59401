import MmsInbox.Receive.Crew
import MmsInbox.Receive.Reception

namespace MmsInbox.Receive

/-!
# A shift

A shift is a reception at work with its crew. The reception hands each download that it takes to the crew,
and keeps the number of the task in order to wait for its completion. Downloads arrive, completions resolve
and signals come in whatever order.
-/

/-- A reception and its crew. -/
structure Shift (σ : Type) where
  reception : Reception
  crew : Crew σ
  /-- The numbers of the tasks whose completion the reception has yet to take note of. -/
  watched : List Nat

namespace Shift

variable {σ : Type}

/-- A shift that has just begun. -/
def new
    (permits : Permits)
    (signalCapacity : Nat)
    (world : σ) :
    Shift σ :=
  ⟨.new signalCapacity, .new permits world, []⟩

/-- Something that can happen in a shift. -/
inductive Move (σ : Type) where
  | arrive (download : Download)
  | closeSource
  /-- The reception hands the next download to the crew. -/
  | take
  /-- The reception takes note of the completion of a task. -/
  | join (number : Nat)
  /-- The reception notices that its channel is closed. -/
  | noticeClosed
  /-- The reception has awaited all tasks. -/
  | finish
  | signal (signal : Signal)
  /-- The sender of signals is gone. -/
  | disconnect
  /-- The reception heeds a signal, or the loss of signals. -/
  | heed
  /-- A task of the crew gets its turn. -/
  | turn (number : Nat)
  /-- The rest of the world goes on. -/
  | elsewhere (change : σ → σ)

/-- Hand a download to the crew, and keep the number of its task. -/
def start
    (shift : Shift σ)
    (download : Download)
    (reception : Reception) :
    Shift σ where
  reception := reception
  crew := shift.crew.onReceive download
  watched := shift.watched ++ [shift.crew.tasks.length]

/-- The completion of a task has resolved for whoever waits for it. -/
def hasResolved
    (shift : Shift σ)
    (number : Nat) :
    Bool :=
  shift.crew.tasks[number]?.any fun task => task.completion.poll?.isSome

/-- What is noted when the reception ends on a signal: nothing, unless signals were lost. -/
def noteLoss
    (environment : Environment σ)
    (world : σ) :
    Option SignalLoss → σ
  | none => world
  | some loss => environment.note (.receptionLostSignals loss) world

/-- Let something happen, if it can. -/
def step?
    (environment : Environment σ)
    (config : Config)
    (shift : Shift σ) :
    Move σ → Option (Shift σ)
  | .arrive download =>
      if shift.reception.sourceOpen ∧ shift.reception.phase ≠ .stopped then
        some { shift with reception := shift.reception.arrive download }
      else none
  | .closeSource => some { shift with reception := shift.reception.closeSource }
  | .take => shift.reception.take?.map fun (download, reception) => shift.start download reception
  | .join number =>
      if shift.reception.phase ≠ .stopped ∧ number ∈ shift.watched ∧ shift.hasResolved number then
        some { shift with
          reception := shift.reception.resolve
          watched := shift.watched.erase number }
      else none
  | .noticeClosed =>
      shift.reception.noticeClosed?.map fun reception => { shift with reception := reception }
  | .finish =>
      shift.reception.finish?.map fun reception => { shift with reception := reception }
  | .signal signal =>
      some { shift with
        reception := { shift.reception with signals := shift.reception.signals.push signal } }
  | .disconnect =>
      some { shift with
        reception := { shift.reception with signals := shift.reception.signals.disconnect } }
  | .heed =>
      shift.reception.heed?.map fun (loss, reception) =>
        { shift with
          reception := reception
          crew := { shift.crew with world := noteLoss environment shift.crew.world loss } }
  | .turn number =>
      (shift.crew.turn? environment config number).map fun crew => { shift with crew := crew }
  | .elsewhere change =>
      some { shift with crew := { shift.crew with world := change shift.crew.world } }

/-- Let things happen one after another, if they can. -/
def run?
    (environment : Environment σ)
    (config : Config) :
    List (Move σ) → Shift σ → Option (Shift σ)
  | [], shift => some shift
  | move :: later, shift =>
      (shift.step? environment config move).bind (run? environment config later)

end Shift

end MmsInbox.Receive
