import MmsInbox.Receive.Crew

namespace MmsInbox.Receive

/-!
# The tasks of a crew

What holds of a crew at all times (`Crew.Sound`). Each task is somewhere in the course of its run, and its
completion has signalled at the end of the run and at no other time (`Task.Sound`). The permits that are
taken are those that tasks hold, so that no permit is lost and none is given out twice.
-/

open Program

namespace Permits

variable {permits left : Permits}

/-- A permit can be taken as long as the bound is not reached. -/
theorem acquire?_eq_some_iff :
    permits.acquire? = some left ↔
      left = { permits with held := permits.held + 1 } ∧
        ∀ bound, permits.limit = some bound → permits.held < bound := by
  rcases permits with ⟨_ | bound, held⟩
  · simp [acquire?, eq_comm]
  · by_cases free : held < bound
    · simp [acquire?, free, eq_comm]
    · simp [acquire?, free]

/-- No permit can be taken once the bound is reached, and only then. -/
theorem acquire?_eq_none_iff :
    permits.acquire? = none ↔ ∃ bound, permits.limit = some bound ∧ bound ≤ permits.held := by
  rcases permits with ⟨_ | bound, held⟩
  · simp [acquire?]
  · by_cases free : held < bound
    · simp [acquire?, free]
    · simp [acquire?, free, Nat.le_of_not_lt free]

end Permits

/-- The bound of a configuration; a bound of zero is none. -/
def boundOf (config : Config) : Option Nat :=
  (config.maxConcurrentRuns.map UInt64.toNat).filter (0 < ·)

/-- An engine is set up with all the permits of its bound. -/
theorem Permits.eq_of_ofConfig
    {config : Config}
    {permits : Permits}
    (given : Permits.ofConfig config = .ok permits) :
    permits = ⟨boundOf config, 0⟩ := by
  unfold Permits.ofConfig at given
  split at given
  case h_1 unbounded => rw [boundOf, unbounded, ← Except.ok.inj given]
  case h_2 bound bounded =>
    split at given
    · rw [boundOf, bounded, ← Except.ok.inj given]
    · cases given

/-- A bound is not zero. -/
theorem boundOf_pos
    {config : Config}
    {bound : Nat}
    (bounded : boundOf config = some bound) :
    0 < bound := by
  have positive := (Option.filter_eq_some_iff.mp bounded).2
  simpa using positive

namespace Completion

/-- The guard is still there and has signalled nothing. -/
structure Fresh (completion : Completion) : Prop where
  armed : completion.armed = true
  unsignalled : completion.signalled = []

/-- The guard has signalled an outcome, and will not signal again. -/
structure Tells
    (completion : Completion)
    (outcome : Outcome) :
    Prop where
  disarmed : completion.armed = false
  signalled : completion.signalled = [outcome]

variable {completion : Completion}

/-- A fresh guard that is finished tells the outcome. -/
theorem Fresh.finish
    (fresh : completion.Fresh)
    (outcome : Outcome) :
    (completion.finish outcome).Tells outcome := by
  rw [finish_of_armed fresh.armed]
  exact ⟨rfl, by simp [fresh.unsignalled]⟩

/-- A fresh guard that is dropped tells that the run was aborted. -/
theorem Fresh.drop (fresh : completion.Fresh) : completion.drop.Tells .aborted := by
  rw [drop_of_armed fresh.armed]
  exact ⟨rfl, by simp [fresh.unsignalled]⟩

/-- Whoever waits for a completion that has not been signalled goes on waiting. -/
theorem Fresh.poll?_eq (fresh : completion.Fresh) : completion.poll? = none := by
  simp [poll?, fresh.armed, fresh.unsignalled]

/-- Whoever waits for a completion gets to know what it tells. -/
theorem Tells.poll?_eq
    {outcome : Outcome}
    (tells : completion.Tells outcome)
    (awaited : completion.awaited = true) :
    completion.poll? = some outcome := by
  simp [poll?, awaited, tells.signalled]

end Completion

namespace Task

variable
  {σ : Type}
  {environment : Environment σ}
  {config : Config}
  {permits left : Permits}
  {world later : σ}
  {task next : Task}

/-- All that a task can do when it gets its turn, and what it makes of the task, the permits and the
world. -/
inductive Turns
    (environment : Environment σ)
    (config : Config)
    (permits : Permits)
    (world : σ)
    (task : Task) :
    Task → Permits → σ → Prop where
  | admitted
      {left : Permits}
      (waiting : task.stage = .waiting)
      (acquired : permits.acquire? = some left) :
      Turns environment config permits world task
        { task with stage := .working (task.run config) } left world
  | advanced
      {rest further : Program Outcome}
      {record : History}
      {later : σ}
      (working : task.stage = .working rest)
      (stepped :
        rest.step? environment.recorded (world, task.record) = some (further, later, record)) :
      Turns environment config permits world task
        { task with stage := .working further, record := record } permits later
  | finished
      {outcome : Outcome}
      (working : task.stage = .working (.done outcome)) :
      Turns environment config permits world task
        { task with stage := .finished, completion := task.completion.finish outcome }
        permits world
  | unwound
      {panic : Panic}
      (working : task.stage = .working (.unwound panic)) :
      Turns environment config permits world task
        { task with stage := .unwinding } permits.release world
  | released (finished : task.stage = .finished) :
      Turns environment config permits world task
        { task with stage := .ended } permits.release world
  | dropped (unwinding : task.stage = .unwinding) :
      Turns environment config permits world task
        { task with stage := .ended, completion := task.completion.drop } permits world

theorem turns_of_turn?
    (turned : task.turn? environment config permits world = some (next, left, later)) :
    task.Turns environment config permits world next left later := by
  unfold turn? at turned
  split at turned
  case h_1 waiting =>
    simp only [Option.map_eq_some_iff, Prod.mk.injEq] at turned
    obtain ⟨_, acquired, rfl, rfl, rfl⟩ := turned
    exact .admitted waiting acquired
  case h_2 rest working =>
    unfold work? at turned
    split at turned
    case h_1 outcome =>
      simp only [Option.some.injEq, Prod.mk.injEq] at turned
      obtain ⟨rfl, rfl, rfl⟩ := turned
      exact .finished working
    case h_2 panic =>
      simp only [Option.some.injEq, Prod.mk.injEq] at turned
      obtain ⟨rfl, rfl, rfl⟩ := turned
      exact .unwound working
    case h_3 =>
      simp only [Option.map_eq_some_iff, Prod.mk.injEq] at turned
      obtain ⟨⟨further, reached, record⟩, stepped, rfl, rfl, rfl⟩ := turned
      exact .advanced working stepped
  case h_3 finished =>
    simp only [Option.some.injEq, Prod.mk.injEq] at turned
    obtain ⟨rfl, rfl, rfl⟩ := turned
    exact .released finished
  case h_4 unwinding =>
    simp only [Option.some.injEq, Prod.mk.injEq] at turned
    obtain ⟨rfl, rfl, rfl⟩ := turned
    exact .dropped unwinding
  case h_5 => cases turned

/-- How far the run and the completion of a task are at a stage. -/
def SoundAt
    (config : Config)
    (task : Task) :
    Stage → Prop
  | .waiting => task.record = [] ∧ task.completion.Fresh
  | .working rest => Leads (task.run config) task.record rest ∧ task.completion.Fresh
  | .finished =>
      ∃ outcome,
        Leads (task.run config) task.record (.done outcome) ∧ task.completion.Tells outcome
  | .unwinding =>
      ∃ panic, Leads (task.run config) task.record (.unwound panic) ∧ task.completion.Fresh
  | .ended =>
      ∃ result,
        Leads (task.run config) task.record (ended result) ∧
          task.completion.Tells (Receive.completion result)

/-- What holds of a task at all times. -/
def Sound
    (config : Config)
    (task : Task) :
    Prop :=
  task.SoundAt config task.stage

namespace Sound

theorem new
    (config : Config)
    (download : Download) :
    (Task.new download).Sound config :=
  ⟨rfl, rfl, rfl⟩

theorem at_stage
    {stage : Stage}
    (sound : task.Sound config)
    (reached : task.stage = stage) :
    task.SoundAt config stage :=
  reached ▸ sound

/-- It makes no difference to a task whether somebody waits for its completion. -/
theorem abandon (sound : task.Sound config) : task.abandon.Sound config := by
  have freshToo (fresh : task.completion.Fresh) : task.abandon.completion.Fresh :=
    ⟨fresh.armed, fresh.unsignalled⟩
  have tellsToo {outcome : Outcome} (tells : task.completion.Tells outcome) :
      task.abandon.completion.Tells outcome :=
    ⟨tells.disarmed, tells.signalled⟩
  suffices kept : ∀ stage, task.SoundAt config stage → task.abandon.SoundAt config stage from
    kept task.stage sound
  intro stage soundThere
  cases stage with
  | waiting =>
      obtain ⟨idle, fresh⟩ := soundThere
      exact ⟨idle, freshToo fresh⟩
  | working rest =>
      obtain ⟨course, fresh⟩ := soundThere
      exact ⟨course, freshToo fresh⟩
  | finished =>
      obtain ⟨outcome, course, tells⟩ := soundThere
      exact ⟨outcome, course, tellsToo tells⟩
  | unwinding =>
      obtain ⟨panic, course, fresh⟩ := soundThere
      exact ⟨panic, course, freshToo fresh⟩
  | ended =>
      obtain ⟨result, course, tells⟩ := soundThere
      exact ⟨result, course, tellsToo tells⟩

/-- A turn takes a task along its run, and its completion with it. -/
theorem turn
    (sound : task.Sound config)
    (turns : task.Turns environment config permits world next left later) :
    next.Sound config := by
  cases turns with
  | admitted waiting acquired =>
      obtain ⟨idle, fresh⟩ := sound.at_stage waiting
      refine ⟨?_, fresh⟩
      change Leads (task.run config) task.record (task.run config)
      rw [idle]
      exact .here _
  | advanced working stepped =>
      obtain ⟨course, fresh⟩ := sound.at_stage working
      obtain ⟨event, rfl, further⟩ := step?_recorded stepped
      exact ⟨course.trans further, fresh⟩
  | finished working =>
      obtain ⟨course, fresh⟩ := sound.at_stage working
      exact ⟨_, course, fresh.finish _⟩
  | unwound working =>
      obtain ⟨course, fresh⟩ := sound.at_stage working
      exact ⟨_, course, fresh⟩
  | released finished =>
      obtain ⟨outcome, course, tells⟩ := sound.at_stage finished
      exact ⟨.ok outcome, course, tells⟩
  | dropped unwinding =>
      obtain ⟨panic, course, fresh⟩ := sound.at_stage unwinding
      exact ⟨.error panic, course, fresh.drop⟩

end Sound

namespace Turns

/-- Only a turn that is admitted is in want of a permit. -/
theorem limit_eq (turns : task.Turns environment config permits world next left later) :
    left.limit = permits.limit := by
  cases turns with
  | admitted waiting acquired => rw [(Permits.acquire?_eq_some_iff.mp acquired).1]
  | advanced working stepped => rfl
  | finished working => rfl
  | unwound working => rfl
  | released finished => rfl
  | dropped unwinding => rfl

/-- The permits that are taken change with what the task holds. -/
theorem held_eq
    (turns : task.Turns environment config permits world next left later)
    (counted : task.holdsPermit.toNat ≤ permits.held) :
    left.held + task.holdsPermit.toNat = permits.held + next.holdsPermit.toNat := by
  cases turns with
  | admitted waiting acquired =>
      obtain ⟨rfl, _⟩ := Permits.acquire?_eq_some_iff.mp acquired
      simp [holdsPermit, Stage.holdsPermit, waiting]
  | advanced working stepped => simp [holdsPermit, Stage.holdsPermit, working]
  | finished working => simp [holdsPermit, Stage.holdsPermit, working]
  | unwound working =>
      simp only [holdsPermit, Stage.holdsPermit, working, Bool.toNat_true] at counted
      simp only [holdsPermit, Stage.holdsPermit, working, Permits.release, Bool.toNat_true, Bool.toNat_false]
      omega
  | released finished =>
      simp only [holdsPermit, Stage.holdsPermit, finished, Bool.toNat_true] at counted
      simp only [holdsPermit, Stage.holdsPermit, finished, Permits.release, Bool.toNat_true, Bool.toNat_false]
      omega
  | dropped unwinding => simp [holdsPermit, Stage.holdsPermit, unwinding]

/-- A task keeps its download. -/
theorem download_eq (turns : task.Turns environment config permits world next left later) :
    next.download = task.download := by
  cases turns with
  | admitted waiting acquired => rfl
  | advanced working stepped => rfl
  | finished working => rfl
  | unwound working => rfl
  | released finished => rfl
  | dropped unwinding => rfl

/-- A turn does not keep anybody from waiting for the completion. -/
theorem awaited_eq (turns : task.Turns environment config permits world next left later) :
    next.completion.awaited = task.completion.awaited := by
  cases turns with
  | admitted waiting acquired => rfl
  | advanced working stepped => rfl
  | finished working => simp [Completion.finish, Completion.drop]
  | unwound working => rfl
  | released finished => rfl
  | dropped unwinding => simp [Completion.drop]

/-- No turn takes a permit beyond the bound. -/
theorem within
    {bound : Nat}
    (turns : task.Turns environment config permits world next left later)
    (bounded : permits.limit = some bound)
    (within : permits.held ≤ bound) :
    left.held ≤ bound := by
  cases turns with
  | admitted waiting acquired =>
      obtain ⟨rfl, free⟩ := Permits.acquire?_eq_some_iff.mp acquired
      exact free bound bounded
  | advanced working stepped => exact within
  | finished working => exact within
  | unwound working => exact Nat.le_trans (Nat.sub_le _ _) within
  | released finished => exact Nat.le_trans (Nat.sub_le _ _) within
  | dropped unwinding => exact within

end Turns

end Task

namespace Crew

variable
  {σ : Type}
  {environment : Environment σ}
  {config : Config}
  {crew next : Crew σ}

/-- A task that gets its turn is the only one to change. -/
theorem turns_of_turn?
    {number : Nat}
    (turned : crew.turn? environment config number = some next) :
    ∃ task other left later,
      crew.tasks[number]? = some task ∧
        task.Turns environment config crew.permits crew.world other left later ∧
        next = ⟨left, crew.tasks.set number other, later⟩ := by
  obtain ⟨task, found, replaced⟩ := Option.bind_eq_some_iff.mp turned
  obtain ⟨⟨other, left, later⟩, went, rfl⟩ := Option.map_eq_some_iff.mp replaced
  exact ⟨task, other, left, later, found, Task.turns_of_turn? went, rfl⟩

/-- A task that takes the place of another for the same download changes nothing about the downloads. -/
theorem downloads_set
    {tasks : List Task}
    {number : Nat}
    {task other : Task}
    (found : tasks[number]? = some task)
    (same : other.download = task.download) :
    (tasks.set number other).map Task.download = tasks.map Task.download := by
  have there : (tasks.map Task.download)[number]? = some task.download := by
    rw [List.getElem?_map, found, Option.map_some]
  obtain ⟨inside, kept⟩ := List.getElem?_eq_some_iff.mp there
  rw [List.map_set, same, ← kept, List.set_getElem_self]

/-- A task that takes the place of another changes a count by whether each of them counts. -/
theorem countP_set
    (counts : Task → Bool)
    {tasks : List Task}
    {number : Nat}
    {task : Task}
    (found : tasks[number]? = some task)
    (other : Task) :
    (tasks.set number other).countP counts + (counts task).toNat =
        tasks.countP counts + (counts other).toNat ∧
      (counts task).toNat ≤ tasks.countP counts := by
  obtain ⟨inside, rfl⟩ := List.getElem?_eq_some_iff.mp found
  have counted : (counts tasks[number]).toNat ≤ tasks.countP counts := by
    cases present : counts tasks[number] with
    | false => exact Nat.zero_le _
    | true => exact List.countP_pos_iff.mpr ⟨_, List.getElem_mem inside, present⟩
  refine ⟨?_, counted⟩
  rw [List.countP_set inside]
  cases before : counts tasks[number] <;> cases counts other <;>
    simp only [before, Bool.toNat_true, Bool.toNat_false] at counted ⊢ <;> simp <;> omega

/-- Tasks stay sound if the one that takes the place of another is sound. -/
theorem sound_set
    {tasks : List Task}
    {number : Nat}
    {other : Task}
    (sound : ∀ task ∈ tasks, task.Sound config)
    (soundToo : other.Sound config) :
    ∀ task ∈ tasks.set number other, task.Sound config := by
  intro task member
  rcases List.mem_or_eq_of_mem_set member with old | rfl
  · exact sound task old
  · exact soundToo

/-- A turn changes nothing about the downloads. -/
theorem downloads_of_turn?
    {number : Nat}
    (turned : crew.turn? environment config number = some next) :
    next.downloads = crew.downloads := by
  obtain ⟨task, other, left, later, found, turns, rfl⟩ := turns_of_turn? turned
  exact downloads_set found turns.download_eq

/-- A crew has the same downloads as before, or one more. -/
theorem downloads_of_step?
    {move : Move σ}
    (stepped : crew.step? environment config move = some next) :
    next.downloads = crew.downloads ∨
      ∃ download, next.downloads = crew.downloads ++ [download] := by
  cases move with
  | receive download =>
      obtain rfl := Option.some.inj stepped
      refine .inr ⟨download, ?_⟩
      rw [downloads, onReceive, List.map_append]
      rfl
  | turn number => exact .inl (downloads_of_turn? stepped)
  | abandon number =>
      obtain ⟨task, found, rfl⟩ := Option.map_eq_some_iff.mp stepped
      exact .inl (downloads_set found rfl)
  | elsewhere change =>
      obtain rfl := Option.some.inj stepped
      exact .inl rfl

/-- What holds of a crew at all times. -/
structure Sound
    (config : Config)
    (crew : Crew σ) :
    Prop where
  limit : crew.permits.limit = boundOf config
  /-- The permits that are taken are those that tasks hold. -/
  held : crew.permits.held = crew.holders
  within {bound : Nat} (bounded : boundOf config = some bound) : crew.permits.held ≤ bound
  tasks : ∀ task ∈ crew.tasks, task.Sound config

namespace Sound

/-- A crew without tasks holds no permits. -/
theorem new
    {permits : Permits}
    (given : Permits.ofConfig config = .ok permits)
    (world : σ) :
    (Crew.new permits world).Sound config := by
  obtain rfl := Permits.eq_of_ofConfig given
  exact ⟨rfl, rfl, fun _ => Nat.zero_le _, fun _ member => absurd member List.not_mem_nil⟩

/-- A task that is set up holds no permit. -/
theorem onReceive
    (sound : crew.Sound config)
    (download : Download) :
    (crew.onReceive download).Sound config := by
  refine ⟨sound.limit, ?_, sound.within, ?_⟩
  · simp [Crew.onReceive, holders, Task.new, Task.holdsPermit, Stage.holdsPermit, sound.held]
  · intro task member
    rcases List.mem_append.mp member with old | fresh
    · exact sound.tasks task old
    · obtain rfl := List.mem_singleton.mp fresh
      exact .new config download

/-- A turn takes and gives back permits as the task does. -/
theorem turn
    {number : Nat}
    (sound : crew.Sound config)
    (turned : crew.turn? environment config number = some next) :
    next.Sound config := by
  obtain ⟨task, other, left, later, found, turns, rfl⟩ := turns_of_turn? turned
  obtain ⟨counts, counted⟩ := countP_set Task.holdsPermit found other
  have held : crew.permits.held = crew.tasks.countP Task.holdsPermit := sound.held
  have soundTask := sound.tasks task (List.mem_of_getElem? found)
  refine ⟨turns.limit_eq.trans sound.limit, ?_, ?_, sound_set sound.tasks (soundTask.turn turns)⟩
  · have balance := turns.held_eq (held ▸ counted)
    change left.held = (crew.tasks.set number other).countP Task.holdsPermit
    omega
  · intro bound bounded
    exact turns.within (sound.limit.trans bounded) (sound.within bounded)

/-- It makes no difference to a crew whether somebody waits for a completion. -/
theorem abandon
    {number : Nat}
    {task : Task}
    (sound : crew.Sound config)
    (found : crew.tasks[number]? = some task) :
    Sound config { crew with tasks := crew.tasks.set number task.abandon } := by
  obtain ⟨counts, _⟩ := countP_set Task.holdsPermit found task.abandon
  have held : crew.permits.held = crew.tasks.countP Task.holdsPermit := sound.held
  have same : task.abandon.holdsPermit = task.holdsPermit := rfl
  rw [same] at counts
  have soundTask := sound.tasks task (List.mem_of_getElem? found)
  refine ⟨sound.limit, ?_, sound.within, sound_set sound.tasks soundTask.abandon⟩
  change crew.permits.held = (crew.tasks.set number task.abandon).countP Task.holdsPermit
  omega

theorem elsewhere
    (sound : crew.Sound config)
    (world : σ) :
    Sound config { crew with world := world } :=
  ⟨sound.limit, sound.held, sound.within, sound.tasks⟩

/-- Whatever happens in a crew keeps its permits and its completions in order. -/
theorem step
    {move : Move σ}
    (sound : crew.Sound config)
    (stepped : crew.step? environment config move = some next) :
    next.Sound config := by
  cases move with
  | receive download =>
      obtain rfl := Option.some.inj stepped
      exact sound.onReceive download
  | turn number => exact sound.turn stepped
  | abandon number =>
      obtain ⟨task, found, rfl⟩ := Option.map_eq_some_iff.mp stepped
      exact sound.abandon found
  | elsewhere change =>
      obtain rfl := Option.some.inj stepped
      exact sound.elsewhere _

theorem run
    {moves : List (Move σ)}
    (sound : crew.Sound config)
    (ran : run? environment config moves crew = some next) :
    next.Sound config := by
  induction moves generalizing crew with
  | nil =>
      obtain rfl := Option.some.inj ran
      exact sound
  | cons move later inductionHypothesis =>
      obtain ⟨between, stepped, ranOn⟩ := Option.bind_eq_some_iff.mp ran
      exact inductionHypothesis (sound.step stepped) ranOn

end Sound

end Crew

end MmsInbox.Receive
