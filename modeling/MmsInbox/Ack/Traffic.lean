import MmsInbox.Ack.Lane
import MmsInbox.Program.History

namespace MmsInbox

/-!
# Traffic on the lane

A lane with all that goes on around it: tasks are pushed by many submitters at once, handles come and go,
signals are broadcast, the worker takes its steps, and the rest of the world changes in between. Any of
this may happen at any time (`Traffic.step?`), so a list of moves is one interleaving.

Beside the lane the traffic keeps books. They record every push and whether the queue took it, what is
seen of the worker, and what the worker and the submitters put to the world.
-/

/-- What is seen of the worker of a lane. -/
inductive LaneEvent where
  /-- The worker has read a signal or learnt that it has lost signals. -/
  | heard (news : Except SignalLoss Signal)
  /-- The worker has taken a task and begun to send it. -/
  | began (task : AckTask)
  /-- The send that was under way is over. -/
  | ended
  /-- The worker has thrown a queued task away. -/
  | discarded (task : AckTask)
  | stopped

namespace LaneEvent

/-- The task of an attempt. -/
def attempted? : LaneEvent → Option AckTask
  | .heard _ => none
  | .began task => some task
  | .ended => none
  | .discarded _ => none
  | .stopped => none

/-- The task that was thrown away. -/
def discarded? : LaneEvent → Option AckTask
  | .heard _ => none
  | .began _ => none
  | .ended => none
  | .discarded task => some task
  | .stopped => none

/-- The news that was heard. -/
def news? : LaneEvent → Option (Except SignalLoss Signal)
  | .heard news => some news
  | .began _ => none
  | .ended => none
  | .discarded _ => none
  | .stopped => none

/-- A send is over. -/
def isEnded : LaneEvent → Bool
  | .heard _ => false
  | .began _ => false
  | .ended => true
  | .discarded _ => false
  | .stopped => false

end LaneEvent

namespace Lane

/-- The worker is in a send. -/
def isSending (lane : Lane) : Bool :=
  match lane.worker with
  | .sending _ _ => true
  | _ => false

/-- What is seen of a worker that has made a step from one lane to another. -/
def seen (before after : Lane) : List LaneEvent :=
  match before.worker with
  | .waiting =>
      match before.signals.receive? with
      | some (news, _) => [.heard news]
      | none =>
          match before.queue with
          | task :: _ => [.began task]
          | [] => [.stopped]
  | .sending _ _ => if after.isSending then [] else [.ended]
  | .draining =>
      match before.queue with
      | task :: _ => [.began task]
      | [] => [.stopped]
  | .discarding =>
      match before.queue with
      | task :: _ => [.discarded task]
      | [] => [.stopped]
  | .stopped => []
  | .panicked _ => []

end Lane

/-- What the lane deals with: one environment for its worker and one for everybody else, over the same
world. -/
structure Surroundings (σ : Type) where
  lane : Environment σ
  others : Environment σ

/-- A task that a submitter has pushed. -/
structure Push where
  /-- The submitter. -/
  owner : Nat
  task : AckTask
  /-- The queue has taken the task. -/
  accepted : Bool
  deriving DecidableEq

/-- A lane, the world around it, and the books that are kept of both. -/
structure Traffic (σ : Type) where
  lane : Lane
  world : σ
  /-- All pushes, the oldest first. -/
  pushes : List Push
  /-- What has been seen of the worker. -/
  log : List LaneEvent
  /-- What has happened in the worker's dealings with the world. -/
  record : History
  /-- What has happened in the submitters' dealings with the world. -/
  notes : History

namespace Traffic

variable {σ : Type}

/-- The lane is new and the books are empty. -/
def new
    (signalCapacity : Nat)
    (world : σ) :
    Traffic σ where
  lane := .new signalCapacity
  world := world
  pushes := []
  log := []
  record := []
  notes := []

/-- The tasks that the queue has taken, in the order in which it took them. -/
def accepted (traffic : Traffic σ) : List AckTask :=
  (traffic.pushes.filter (·.accepted)).map (·.task)

/-- The tasks that the closed queue has refused. -/
def refused (traffic : Traffic σ) : List AckTask :=
  (traffic.pushes.filter (!·.accepted)).map (·.task)

/-- The tasks that a submitter has pushed. -/
def pushedBy
    (traffic : Traffic σ)
    (owner : Nat) :
    List AckTask :=
  (traffic.pushes.filter (·.owner = owner)).map (·.task)

/-- The tasks that the worker has attempted, in order. -/
def attempted (traffic : Traffic σ) : List AckTask :=
  traffic.log.filterMap LaneEvent.attempted?

/-- The number of sends that are over. -/
def sendsOver (traffic : Traffic σ) : Nat :=
  traffic.log.countP LaneEvent.isEnded

/-- The tasks that the worker has thrown away. -/
def discarded (traffic : Traffic σ) : List AckTask :=
  traffic.log.filterMap LaneEvent.discarded?

/-- The news that the worker has heard. -/
def news (traffic : Traffic σ) : List (Except SignalLoss Signal) :=
  traffic.log.filterMap LaneEvent.news?

/-- A submitter pushes a task; a task that the closed queue refuses is noted. -/
def push
    (environment : Environment σ)
    (owner : Nat)
    (task : AckTask)
    (traffic : Traffic σ) :
    Traffic σ :=
  match traffic.lane.submit? task with
  | some fuller =>
      { traffic with
        lane := fuller
        pushes := traffic.pushes ++ [⟨owner, task, true⟩] }
  | none =>
      let (world, notes) :=
        environment.recorded.note (.laneClosed task) (traffic.world, traffic.notes)
      { traffic with
        world := world
        notes := notes
        pushes := traffic.pushes ++ [⟨owner, task, false⟩] }

/-- The worker makes a step, if it has something to do. -/
def work?
    (environment : Environment σ)
    (settings : AckSettings)
    (traffic : Traffic σ) :
    Option (Traffic σ) :=
  match traffic.lane.step? environment.recorded settings (traffic.world, traffic.record) with
  | some (lane, world, record) =>
      some { traffic with
        lane := lane
        world := world
        record := record
        log := traffic.log ++ traffic.lane.seen lane }
  | none => none

/-- Something that happens on or around the lane. -/
inductive Move (σ : Type) where
  | push (owner : Nat) (task : AckTask)
  /-- A handle is cloned. -/
  | clone
  /-- A handle is dropped. -/
  | drop
  | signal (signal : Signal)
  /-- The sender of signals is gone. -/
  | disconnect
  /-- The worker makes a step. -/
  | work
  /-- The rest of the world goes on. -/
  | elsewhere (change : σ → σ)

/-- Let something happen, if it can. A handle can be cloned or dropped as long as there is one. -/
def step?
    (surroundings : Surroundings σ)
    (settings : AckSettings)
    (traffic : Traffic σ) :
    Move σ → Option (Traffic σ)
  | .push owner task => some (traffic.push surroundings.others owner task)
  | .clone =>
      if traffic.lane.handles = 0 then none
      else some { traffic with
        lane := { traffic.lane with handles := traffic.lane.handles + 1 } }
  | .drop =>
      if traffic.lane.handles = 0 then none
      else some { traffic with
        lane := { traffic.lane with handles := traffic.lane.handles - 1 } }
  | .signal signal => some { traffic with lane := traffic.lane.signal signal }
  | .disconnect => some { traffic with lane := traffic.lane.disconnectSignals }
  | .work => traffic.work? surroundings.lane settings
  | .elsewhere change => some { traffic with world := change traffic.world }

end Traffic

end MmsInbox
