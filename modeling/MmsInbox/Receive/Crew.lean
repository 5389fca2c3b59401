import MmsInbox.Program.History
import MmsInbox.Receive.Completion
import MmsInbox.Receive.Permits

namespace MmsInbox.Receive

/-!
# The crew

Every download that is received gets a task of its own: the task waits for a permit, goes through the run
step by step, signals the completion and gives the permit back. If the run ends in a panic the task is
unwound, which gives the permit back first and drops the guard of the completion last. The tasks of a crew
go on side by side, in whatever order they get their turns, and the world may change in between.
-/

/-- How far a task has come. -/
inductive Stage where
  /-- The task has no permit yet. -/
  | waiting
  /-- The task has a permit and is in the middle of its run. -/
  | working (rest : Program Outcome)
  /-- The run came to an outcome, which is signalled; the permit is still taken. -/
  | finished
  /-- The run ended in a panic, and the permit is given back; the guard is still there. -/
  | unwinding
  | ended

/-- A permit was acquired and has not been given back. -/
def Stage.holdsPermit : Stage → Bool
  | .waiting => false
  | .working _ => true
  | .finished => true
  | .unwinding => false
  | .ended => false

/-- The task of a run. -/
structure Task where
  download : Download
  stage : Stage
  /-- What has happened in the run. -/
  record : History
  completion : Completion

namespace Task

variable {σ : Type}

/-- A task that has just been set up. -/
def new (download : Download) : Task where
  download := download
  stage := .waiting
  record := []
  completion := .pair

/-- The task has acquired a permit and has not given it back. -/
def holdsPermit (task : Task) : Bool :=
  task.stage.holdsPermit

/-- The whole run of a task. -/
def run
    (config : Config)
    (task : Task) :
    Program Outcome :=
  process config.defaultSubscription task.download

/-- Nobody waits for the completion any more. -/
def abandon (task : Task) : Task :=
  { task with completion := task.completion.abandon }

/-- Go on in the middle of a run: a step of the run, or the first thing to do at its end. -/
def work?
    (environment : Environment σ)
    (task : Task)
    (permits : Permits)
    (world : σ) :
    Program Outcome → Option (Task × Permits × σ)
  | .done outcome =>
      some ({ task with stage := .finished, completion := task.completion.finish outcome },
        permits, world)
  | .unwound _ => some ({ task with stage := .unwinding }, permits.release, world)
  | rest =>
      (rest.step? environment.recorded (world, task.record)).map fun (rest, world, record) =>
        ({ task with stage := .working rest, record := record }, permits, world)

/-- What a task does when it gets its turn, unless it is over or has to wait. -/
def turn?
    (environment : Environment σ)
    (config : Config)
    (task : Task)
    (permits : Permits)
    (world : σ) :
    Option (Task × Permits × σ) :=
  match task.stage with
  | .waiting =>
      permits.acquire?.map fun permits =>
        ({ task with stage := .working (task.run config) }, permits, world)
  | .working rest => task.work? environment permits world rest
  | .finished => some ({ task with stage := .ended }, permits.release, world)
  | .unwinding =>
      some ({ task with stage := .ended, completion := task.completion.drop }, permits, world)
  | .ended => none

end Task

/-- The tasks of an engine and the world around them. -/
structure Crew (σ : Type) where
  permits : Permits
  /-- The tasks that were set up, the first first. -/
  tasks : List Task
  world : σ

namespace Crew

variable {σ : Type}

/-- A crew without tasks. -/
def new
    (permits : Permits)
    (world : σ) :
    Crew σ :=
  ⟨permits, [], world⟩

/-- Something that can happen in a crew. -/
inductive Move (σ : Type) where
  /-- A download is received. -/
  | receive (download : Download)
  /-- A task gets its turn. -/
  | turn (number : Nat)
  /-- Nobody waits for the completion of a task any more. -/
  | abandon (number : Nat)
  /-- The rest of the world goes on. -/
  | elsewhere (change : σ → σ)

/-- Set up a task for a download. -/
def onReceive
    (crew : Crew σ)
    (download : Download) :
    Crew σ :=
  { crew with tasks := crew.tasks ++ [.new download] }

/-- Give a task its turn, if it can do something. -/
def turn?
    (environment : Environment σ)
    (config : Config)
    (crew : Crew σ)
    (number : Nat) :
    Option (Crew σ) :=
  crew.tasks[number]?.bind fun task =>
    (task.turn? environment config crew.permits crew.world).map fun (task, permits, world) =>
      ⟨permits, crew.tasks.set number task, world⟩

/-- Let something happen, if it can. -/
def step?
    (environment : Environment σ)
    (config : Config)
    (crew : Crew σ) :
    Move σ → Option (Crew σ)
  | .receive download => some (crew.onReceive download)
  | .turn number => crew.turn? environment config number
  | .abandon number =>
      crew.tasks[number]?.map fun task =>
        { crew with tasks := crew.tasks.set number task.abandon }
  | .elsewhere change => some { crew with world := change crew.world }

/-- Let things happen one after another, if they can. -/
def run?
    (environment : Environment σ)
    (config : Config) :
    List (Move σ) → Crew σ → Option (Crew σ)
  | [], crew => some crew
  | move :: later, crew =>
      (crew.step? environment config move).bind (run? environment config later)

/-- The number of tasks that hold a permit. -/
def holders (crew : Crew σ) : Nat :=
  crew.tasks.countP Task.holdsPermit

/-- The downloads that tasks were set up for, the first first. -/
def downloads (crew : Crew σ) : List Download :=
  crew.tasks.map Task.download

end Crew

end MmsInbox.Receive
