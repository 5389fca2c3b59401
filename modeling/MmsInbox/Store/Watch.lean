import MmsInbox.Store.Deliveries

namespace MmsInbox

/-!
# Waiting among writers

Someone waits until a monitored store holds a number of messages, while writers store messages side by side.
A writer counts its attempt, looks whether it has to fail, takes its turn at the store and gives notice; each
of these it does in one go, and between them the others go on. The waiter may run out of time while it is
asleep.
-/

/-- How far a writer has come. -/
inductive WriterPhase where
  /-- The attempt is counted, and the writer is about to look whether it has to fail. -/
  | counted
  /-- About to take its turn at the store. -/
  | admitted
  /-- About to give notice: the message is stored, or the writer had to fail. -/
  | noticing (result : Except StoreError Unit)
  | finished (result : Except StoreError Unit)

/-- Someone who stores a message. -/
structure Writer where
  delivery : Delivery
  phase : WriterPhase

namespace Writer

/-- The message is stored, and no notice of it is given yet. -/
def IsUnannounced (writer : Writer) : Prop :=
  writer.phase = .noticing (.ok ())

end Writer

/-- A monitored store with someone who waits and with writers. -/
structure Watch where
  store : MonitoredStore
  waiter : Waiter
  /-- What the waiter was told when it ceased to wait. -/
  outcome : Option (Except StoreError Unit)
  /-- All who have begun to write, the first first. -/
  writers : List Writer

namespace Watch

/-- Someone begins to wait for a number of messages, and nobody has begun to write. -/
def new
    (store : MonitoredStore)
    (expected : Nat) :
    Watch :=
  ⟨store, .new expected, none, []⟩

/-- Something that can happen. -/
inductive Move where
  /-- The waiter takes its next step. -/
  | wait
  /-- The time of the waiter runs out. -/
  | runOut
  /-- A writer begins. -/
  | begin (delivery : Delivery)
  /-- A writer takes its next step. -/
  | write (number : Nat)
  /-- From now on writers have to fail, or no longer have to. -/
  | failPersist (failing : Bool)
  deriving DecidableEq

/-- Let the waiter take its next step, if it still waits and has one to take. -/
def wait? (watch : Watch) : Option Watch :=
  match watch.outcome with
  | some _ => none
  | none =>
      (watch.waiter.step? watch.store.inner.size).map fun waiter =>
        { watch with
          waiter := waiter
          outcome := if waiter.phase = .satisfied then some (.ok ()) else none }

/-- Let the time of the waiter run out, if it still waits and is asleep. -/
def runOut? (watch : Watch) : Option Watch :=
  match watch.outcome, watch.waiter.phase with
  | none, .parked => some { watch with outcome := some (.error Waiter.timedOut) }
  | _, _ => none

/-- The writers with one of them further on. -/
def advance
    (watch : Watch)
    (number : Nat)
    (writer : Writer)
    (phase : WriterPhase) :
    List Writer :=
  watch.writers.set number { writer with phase := phase }

/-- Let a writer take its next step, if it has one to take. -/
def write?
    (watch : Watch)
    (number : Nat)
    (writer : Writer) :
    Option Watch :=
  match writer.phase with
  | .counted =>
      let phase :=
        if watch.store.failing then .noticing (.error MonitoredStore.injectedFailure)
        else .admitted
      some { watch with writers := watch.advance number writer phase }
  | .admitted =>
      match watch.store.inner.persist writer.delivery.id writer.delivery.record with
      | .error error =>
          some { watch with writers := watch.advance number writer (.finished (.error error)) }
      | .ok inner =>
          some
            { watch with
              store := { watch.store with inner := inner }
              writers := watch.advance number writer (.noticing (.ok ())) }
  | .noticing result =>
      some
        { watch with
          waiter := watch.waiter.notice
          writers := watch.advance number writer (.finished result) }
  | .finished _ => none

/-- Let something happen, if it can. -/
def step?
    (watch : Watch) :
    Move → Option Watch
  | .wait => watch.wait?
  | .runOut => watch.runOut?
  | .begin delivery =>
      some
        { watch with
          store := { watch.store with attempts := watch.store.attempts + 1 }
          writers := watch.writers ++ [⟨delivery, .counted⟩] }
  | .write number => watch.writers[number]?.bind (watch.write? number)
  | .failPersist failing =>
      some { watch with store := { watch.store with failing := failing } }

/-- Let things happen one after another, if they can. -/
def run? : List Move → Watch → Option Watch
  | [], watch => some watch
  | move :: later, watch => (watch.step? move).bind (run? later)

end Watch

end MmsInbox
