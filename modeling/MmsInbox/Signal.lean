namespace MmsInbox

/-!
# Signals

Shutdown signals are broadcast. Each listener has an inbox of limited capacity, the least power of
two that is not below the one asked for. A signal that finds the inbox full pushes out the oldest
one, and the listener learns how many it missed before it reads on. A listener with nothing left to
read learns that the sender is gone.
-/

/-- What the parties of the engine are told. -/
inductive Signal where
  /-- All events have been handled: finish what is queued. -/
  | finalised
  /-- Stop now: what is queued is dropped. -/
  | shutdown
  deriving Repr, DecidableEq

/-- Why a listener got no signal. -/
inductive SignalLoss where
  | closed
  | lagged (missed : Nat)
  deriving Repr, DecidableEq

namespace SignalLoss

/-- The loss as it is reported. -/
def message : SignalLoss → String
  | .closed => "channel closed"
  | .lagged missed => s!"channel lagged by {missed}"

end SignalLoss

/-- What a listener has not read yet. -/
structure SignalInbox where
  capacity : Nat
  /-- How many signals were pushed out since the listener last looked. -/
  missed : Nat
  /-- The signals that are still there, the oldest first. -/
  pending : List Signal
  /-- A sender exists. -/
  connected : Bool
  deriving Repr, DecidableEq

namespace SignalInbox

/-- The inbox of a new listener on a channel of at least the given capacity. -/
def new (capacity : Nat) : SignalInbox :=
  ⟨capacity.nextPowerOfTwo, 0, [], true⟩

/-- A signal arrives. -/
def push
    (inbox : SignalInbox)
    (signal : Signal) :
    SignalInbox :=
  let arrived := inbox.pending ++ [signal]
  let surplus := arrived.length - inbox.capacity
  { inbox with
    missed := inbox.missed + surplus
    pending := arrived.drop surplus }

/-- The sender is gone. -/
def disconnect (inbox : SignalInbox) : SignalInbox :=
  { inbox with connected := false }

/-- What the listener reads next, if there is anything to read. -/
def receive?
    (inbox : SignalInbox) :
    Option (Except SignalLoss Signal × SignalInbox) :=
  if inbox.missed ≠ 0 then
    some (.error (.lagged inbox.missed), { inbox with missed := 0 })
  else match inbox.pending with
    | signal :: later => some (.ok signal, { inbox with pending := later })
    | [] => if inbox.connected then none else some (.error .closed, inbox)

end SignalInbox

end MmsInbox
