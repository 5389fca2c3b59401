import Std.Data.ExtTreeMap

namespace MmsInbox

/-!
# Downloads in flight

The content locations with a download or a run in flight, and when each of them began. The download
step begins a location, and the run for the downloaded content finishes it.
-/

/-- The locations in flight with the moment at which each began. -/
structure Downloads where
  inFlight : Std.ExtTreeMap String Nat

namespace Downloads

/-- Nothing is in flight. -/
def empty : Downloads :=
  ⟨∅⟩

/-- The number of locations in flight. -/
def size (downloads : Downloads) : Nat :=
  downloads.inFlight.size

/-- The location is in flight. -/
def isInProgress
    (downloads : Downloads)
    (location : String) :
    Bool :=
  downloads.inFlight.contains location

/-- No location is in flight. -/
def isEmpty (downloads : Downloads) : Bool :=
  downloads.inFlight.isEmpty

/-- Mark a location as in flight from now on; `false` if it already was, and then nothing changes. -/
def begin
    (downloads : Downloads)
    (location : String)
    (now : Nat) :
    Bool × Downloads :=
  if downloads.isInProgress location then (false, downloads)
  else (true, ⟨downloads.inFlight.insert location now⟩)

/-- Mark a location as done and tell when it began. -/
def finish
    (downloads : Downloads)
    (location : String) :
    Option Nat × Downloads :=
  (downloads.inFlight[location]?, ⟨downloads.inFlight.erase location⟩)

end Downloads

end MmsInbox
