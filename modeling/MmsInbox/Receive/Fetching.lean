import MmsInbox.Downloads
import MmsInbox.Receive.Crew

namespace MmsInbox.Receive

/-!
# The download step and the crew

Both sides of the downloads in flight. The download step begins a location, fetches it only if that was a
beginning, and hands over one download for it. A crew receives what is handed over, and a run takes its
location off the downloads in flight. Many fetches and many runs go on side by side.
-/

/-- The download step and a crew that share the downloads in flight. -/
structure Fetching (σ : Type) where
  /-- The locations that are being fetched. -/
  begun : List String
  /-- The downloads that were handed over and have not been received. -/
  handedOver : List Download
  /-- The crew, with the downloads in flight beside the rest of the world. -/
  crew : Crew (σ × Downloads)

namespace Fetching

variable {σ : Type}

/-- Nothing is in flight. -/
def new
    (permits : Permits)
    (world : σ) :
    Fetching σ where
  begun := []
  handedOver := []
  crew := .new permits (world, .empty)

/-- The downloads in flight. -/
def downloads (fetching : Fetching σ) : Downloads :=
  fetching.crew.world.2

/-- Something that can happen on either side. -/
inductive Move (σ : Type) where
  /-- The download step begins a location, and fetches it unless it is in flight already. -/
  | begin (location : String) (now : Nat)
  /-- A location has been fetched, and the download is handed over. -/
  | handOver (number : Nat) (download : Download)
  /-- The crew receives a download that was handed over. -/
  | receive (number : Nat)
  /-- A task gets its turn. -/
  | turn (number : Nat)
  /-- Nobody waits for the completion of a task any more. -/
  | abandon (number : Nat)
  /-- The rest of the world goes on. -/
  | elsewhere (change : σ → σ)

/-- Begin a location; it is fetched only if it was not in flight. -/
def begin
    (fetching : Fetching σ)
    (location : String)
    (now : Nat) :
    Fetching σ :=
  let (fresh, later) := fetching.downloads.begin location now
  { fetching with
    begun := if fresh then fetching.begun ++ [location] else fetching.begun
    crew := { fetching.crew with world := (fetching.crew.world.1, later) } }

/-- Hand over what was fetched from a location, once. -/
def handOver?
    (fetching : Fetching σ)
    (number : Nat)
    (download : Download) :
    Option (Fetching σ) :=
  if fetching.begun[number]? = some download.location then
    some { fetching with
      begun := fetching.begun.eraseIdx number
      handedOver := fetching.handedOver ++ [download] }
  else none

/-- Let the crew receive a download that was handed over. -/
def receive?
    (fetching : Fetching σ)
    (number : Nat) :
    Option (Fetching σ) :=
  fetching.handedOver[number]?.map fun download =>
    { fetching with
      handedOver := fetching.handedOver.eraseIdx number
      crew := fetching.crew.onReceive download }

/-- Let something happen within the crew, if it can. -/
def within?
    (environment : Environment (σ × Downloads))
    (config : Config)
    (fetching : Fetching σ)
    (move : Crew.Move (σ × Downloads)) :
    Option (Fetching σ) :=
  (fetching.crew.step? environment config move).map fun crew => { fetching with crew := crew }

/-- Let something happen, if it can. -/
def step?
    (environment : Environment (σ × Downloads))
    (config : Config)
    (fetching : Fetching σ) :
    Move σ → Option (Fetching σ)
  | .begin location now => some (fetching.begin location now)
  | .handOver number download => fetching.handOver? number download
  | .receive number => fetching.receive? number
  | .turn number => fetching.within? environment config (.turn number)
  | .abandon number => fetching.within? environment config (.abandon number)
  | .elsewhere change =>
      fetching.within? environment config (.elsewhere fun world => (change world.1, world.2))

/-- Let things happen one after another, if they can. -/
def run?
    (environment : Environment (σ × Downloads))
    (config : Config) :
    List (Move σ) → Fetching σ → Option (Fetching σ)
  | [], fetching => some fetching
  | move :: later, fetching =>
      (fetching.step? environment config move).bind (run? environment config later)

end Fetching

end MmsInbox.Receive
