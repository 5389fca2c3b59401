import MmsInbox.Ack.Send
import MmsInbox.Program.Environment

namespace MmsInbox

/-!
# The acknowledgment lane

All acknowledgments go through one lane: a queue that anyone with a handle may add to, and a worker
that sends one task after another in the order in which they were accepted.

Between two sends the worker first looks for a signal. `finalised` closes the queue and sends what is
in it, `shutdown` closes the queue and discards what is in it, and so does the loss of signals. The
worker also stops when the queue is empty and the last handle is gone. A panic in a send ends the
worker at once, and the queue is lost with it.
-/

/-- What the worker of a lane is doing. -/
inductive LaneWorker where
  /-- Between two sends. -/
  | waiting
  /-- In a send; `draining` if the queue is already closed. -/
  | sending (rest : Program Unit) (draining : Bool)
  /-- Between two sends, with the queue closed. -/
  | draining
  /-- Throwing away what is left in the queue. -/
  | discarding
  | stopped
  | panicked (panic : Panic)

/-- A lane. -/
structure Lane where
  /-- Accepted tasks that the worker has not taken, the oldest first. -/
  queue : List AckTask
  /-- The queue takes new tasks. -/
  accepting : Bool
  /-- The number of handles through which tasks can be submitted. -/
  handles : Nat
  signals : SignalInbox
  worker : LaneWorker

namespace Lane

variable {σ : Type}

/-- A lane with one handle whose signals come through a channel of the given capacity. -/
def new (signalCapacity : Nat) : Lane :=
  ⟨[], true, 1, .new signalCapacity, .waiting⟩

/-- The worker has ended. -/
def hasEnded (lane : Lane) : Bool :=
  match lane.worker with
  | .stopped => true
  | .panicked _ => true
  | _ => false

/-- Queue a task, unless the queue is closed. -/
def submit?
    (lane : Lane)
    (task : AckTask) :
    Option Lane :=
  if lane.accepting then some { lane with queue := lane.queue ++ [task] }
  else none

/-- Submit tasks one by one; those that the closed queue refuses are noted. -/
def submitAll
    (environment : Environment σ) :
    List AckTask → Lane → σ → Lane × σ
  | [], lane, state => (lane, state)
  | task :: rest, lane, state =>
      match lane.submit? task with
      | some fuller => submitAll environment rest fuller state
      | none => submitAll environment rest lane (environment.note (.laneClosed task) state)

/-- Signals reach the lane: there is a sender, and the worker has not ended. -/
def hears (lane : Lane) : Bool :=
  lane.signals.connected && !lane.hasEnded

/-- A signal is broadcast. -/
def signal
    (lane : Lane)
    (signal : Signal) :
    Lane :=
  if lane.hears then { lane with signals := lane.signals.push signal } else lane

/-- The sender of signals is gone. -/
def disconnectSignals (lane : Lane) : Lane :=
  { lane with signals := lane.signals.disconnect }

/-- All handles are gone. -/
def dropHandles (lane : Lane) : Lane :=
  { lane with handles := 0 }

/-- The worker ends in an orderly way. -/
def stop (lane : Lane) : Lane :=
  { lane with accepting := false, worker := .stopped }

/-- The worker ends in a panic, and the queue is lost. -/
def collapse
    (lane : Lane)
    (panic : Panic) :
    Lane :=
  { lane with queue := [], accepting := false, worker := .panicked panic }

/-- The worker reads a signal and closes the queue. -/
def heed
    (environment : Environment σ)
    (lane : Lane)
    (heard : Except SignalLoss Signal)
    (signals : SignalInbox)
    (state : σ) :
    Lane × σ :=
  let closed := { lane with accepting := false, signals := signals }
  match heard with
  | .ok .finalised => ({ closed with worker := .draining }, state)
  | .ok .shutdown => ({ closed with worker := .discarding }, state)
  | .error loss =>
      ({ closed with worker := .discarding }, environment.note (.laneLostSignals loss) state)

/-- The worker takes a task from the queue and begins to send it. -/
def beginSend
    (settings : AckSettings)
    (lane : Lane)
    (task : AckTask)
    (later : List AckTask)
    (draining : Bool) :
    Lane :=
  { lane with queue := later, worker := .sending (Ack.deliver settings task) draining }

/-- What the worker does after a part of a send. -/
def afterSend
    (lane : Lane)
    (rest : Program Unit)
    (draining : Bool) :
    Lane :=
  match rest with
  | .done () => { lane with worker := if draining then .draining else .waiting }
  | .unwound panic => lane.collapse panic
  | _ => { lane with worker := .sending rest draining }

/-- One step of a worker that is not in a send; `none` if it has nothing to do. -/
def move?
    (environment : Environment σ)
    (settings : AckSettings)
    (lane : Lane)
    (state : σ) :
    Option (Lane × σ) :=
  match lane.worker with
  | .waiting =>
      match lane.signals.receive? with
      | some (heard, signals) => some (lane.heed environment heard signals state)
      | none =>
          match lane.queue with
          | task :: later => some (lane.beginSend settings task later false, state)
          | [] => if lane.handles = 0 then some (lane.stop, state) else none
  | .draining =>
      match lane.queue with
      | task :: later => some (lane.beginSend settings task later true, state)
      | [] => some (lane.stop, state)
  | .discarding =>
      match lane.queue with
      | task :: later =>
          some ({ lane with queue := later }, environment.note (.droppedAtShutdown task) state)
      | [] => some (lane.stop, state)
  | _ => none

/-- One step of the worker, in a send or between two sends. -/
def step?
    (environment : Environment σ)
    (settings : AckSettings)
    (lane : Lane)
    (state : σ) :
    Option (Lane × σ) :=
  match lane.worker with
  | .sending rest draining =>
      match rest.step? environment state with
      | some (remaining, later) => some (lane.afterSend remaining draining, later)
      | none => some (lane.afterSend rest draining, state)
  | _ => lane.move? environment settings state

end Lane

end MmsInbox
