import MmsInbox.Proofs.Receive.Serving

namespace MmsInbox.Receive

/-!
# One run after another

A task that gets one turn after another goes through its run as the program does
(`Crew.turnsTo_conclude`). So a reception that takes a download while a permit is free may go on with it to
the end, and take note of its completion, before anything else happens (`Shift.run?_servingOne`). Then the
permit is free again.
-/

open Program

/-- A guard that is dropped signals what it signals at the end of an aborted run. -/
theorem Completion.finish_aborted (completion : Completion) :
    completion.finish .aborted = completion.drop := by
  cases armed : completion.armed with
  | true => rw [finish_of_armed armed, drop_of_armed armed]
  | false => simp [finish, drop, signal, armed]

/-- A permit that is given back is free as before. -/
theorem Permits.release_of_acquire?
    {permits left : Permits}
    (acquired : permits.acquire? = some left) :
    left.release = permits := by
  unfold acquire? at acquired
  split at acquired
  case h_1 =>
    obtain rfl := Option.some.inj acquired
    rfl
  case h_2 =>
    rw [Option.ite_none_right_eq_some] at acquired
    obtain ⟨_, same⟩ := acquired
    obtain rfl := Option.some.inj same
    rfl

/-- A step takes a program along its run. -/
theorem run_of_step?
    {σ α : Type}
    {environment : Environment σ}
    {program further : Program α}
    {state later : σ}
    (stepped : program.step? environment state = some (further, later)) :
    program.run environment state = further.run environment later := by
  cases program with
  | done value => cases stepped
  | unwound panic => cases stepped
  | ask call answered panicked =>
      rcases asked : environment.answer call state with ⟨panic | answer, reached⟩
      · simp only [step?, asked, Option.some.injEq, Prod.mk.injEq] at stepped
        obtain ⟨rfl, rfl⟩ := stepped
        simp only [run, asked]
      · simp only [step?, asked, Option.some.injEq, Prod.mk.injEq] at stepped
        obtain ⟨rfl, rfl⟩ := stepped
        simp only [run, asked]
  | act action next =>
      cases stepped
      rfl

namespace Task

variable
  {σ : Type}
  {environment : Environment σ}
  {config : Config}
  {permits : Permits}
  {world later : σ}
  {task : Task}
  {rest further : Program Outcome}
  {record : History}

/-- The task in the middle of its run. -/
def atWork
    (rest : Program Outcome)
    (record : History)
    (task : Task) :
    Task :=
  { task with stage := .working rest, record := record }

/-- The task at its end, after what is left of its run. -/
def conclude
    (environment : Environment σ)
    (rest : Program Outcome)
    (world : σ)
    (task : Task) :
    Task :=
  { task with
    stage := .ended
    record := task.record ++ rest.history environment world
    completion := task.completion.finish (Receive.completion (rest.run environment world).1) }

/-- Whoever waits for the completion gets to know what the run came to. -/
@[simp] theorem poll?_conclude_new (download : Download) :
    ((Task.new download).conclude environment rest world).completion.poll? =
      some (Receive.completion (rest.run environment world).1) := rfl

/-- A turn in the middle of a run is a step of the run. -/
theorem turn?_of_step?
    (config : Config)
    (permits : Permits)
    (working : task.stage = .working rest)
    (stepped : rest.step? environment.recorded (world, task.record) = some (further, later, record)) :
    task.turn? environment config permits world =
      some (task.atWork further record, permits, later) := by
  rw [turn?, working]
  cases rest with
  | done value => cases stepped
  | unwound panic => cases stepped
  | ask call answered panicked => simp [work?, stepped, atWork]
  | act action next => simp [work?, stepped, atWork]

/-- It makes no difference to the end whether a step of the run is still to come. -/
theorem conclude_of_step?
    (stepped : rest.step? environment.recorded (world, task.record) = some (further, later, record)) :
    (task.atWork further record).conclude environment further later =
        task.conclude environment rest world ∧
      (further.run environment later).2 = (rest.run environment world).2 := by
  have same := run_of_step? stepped
  rw [run_recorded, run_recorded] at same
  simp only [Prod.mk.injEq] at same
  obtain ⟨sameResult, sameWorld, sameRecord⟩ := same
  simp [conclude, atWork, sameResult, sameWorld, sameRecord]

end Task

namespace Crew

variable
  {σ : Type}
  {environment : Environment σ}
  {config : Config}
  {crew next reached : Crew σ}
  {number : Nat}
  {task : Task}

theorem turn?_eq
    {other : Task}
    {left : Permits}
    {later : σ}
    (found : crew.tasks[number]? = some task)
    (turned :
      task.turn? environment config crew.permits crew.world = some (other, left, later)) :
    crew.turn? environment config number =
      some ⟨left, crew.tasks.set number other, later⟩ := by
  rw [turn?, found, Option.bind_some, turned, Option.map_some]

/-- A task gets one turn after another. -/
def TurnsTo
    (environment : Environment σ)
    (config : Config)
    (number : Nat)
    (crew reached : Crew σ) :
    Prop :=
  ∃ count, run? environment config (List.replicate count (.turn number)) crew = some reached

theorem TurnsTo.turn
    (turned : crew.turn? environment config number = some next)
    (onward : TurnsTo environment config number next reached) :
    TurnsTo environment config number crew reached := by
  obtain ⟨count, ran⟩ := onward
  exact ⟨count + 1, Option.bind_eq_some_iff.mpr ⟨next, turned, ran⟩⟩

/-- The crew after what is left of the run of a task. -/
def conclude
    (environment : Environment σ)
    (number : Nat)
    (task : Task)
    (rest : Program Outcome)
    (crew : Crew σ) :
    Crew σ where
  permits := crew.permits.release
  tasks := crew.tasks.set number (task.conclude environment rest crew.world)
  world := (rest.run environment crew.world).2

/-- A task in the middle of its run goes on as it would have after the next step. -/
theorem TurnsTo.of_step?
    {rest further : Program Outcome}
    {record : History}
    {later : σ}
    (found : crew.tasks[number]? = some task)
    (working : task.stage = .working rest)
    (stepped :
      rest.step? environment.recorded (crew.world, task.record) = some (further, later, record))
    (onward :
      ∀ {crew : Crew σ} {task : Task},
        crew.tasks[number]? = some task →
          task.stage = .working further →
            TurnsTo environment config number crew
              (crew.conclude environment number task further)) :
    TurnsTo environment config number crew (crew.conclude environment number task rest) := by
  have inside := (List.getElem?_eq_some_iff.mp found).1
  have turned := turn?_eq found (Task.turn?_of_step? config crew.permits working stepped)
  obtain ⟨sameEnd, sameWorld⟩ := Task.conclude_of_step? stepped
  have reached :
      conclude environment number (task.atWork further record) further
          ⟨crew.permits, crew.tasks.set number (task.atWork further record), later⟩ =
        crew.conclude environment number task rest := by
    simp [conclude, sameEnd, sameWorld]
  rw [← reached]
  exact .turn turned (onward (List.getElem?_set_self inside) rfl)

/-- A task that has a permit goes through the rest of its run and gives the permit back. -/
theorem turnsTo_conclude
    (environment : Environment σ)
    (config : Config)
    {rest : Program Outcome}
    (found : crew.tasks[number]? = some task)
    (working : task.stage = .working rest) :
    TurnsTo environment config number crew (crew.conclude environment number task rest) := by
  induction rest generalizing crew task with
  | done outcome =>
      have inside := (List.getElem?_eq_some_iff.mp found).1
      have signals :
          task.turn? environment config crew.permits crew.world =
            some
              ({ task with stage := .finished, completion := task.completion.finish outcome },
                crew.permits, crew.world) := by
        rw [Task.turn?, working]
        rfl
      refine .turn (turn?_eq found signals)
        (.turn (turn?_eq (List.getElem?_set_self inside) rfl) ⟨0, ?_⟩)
      simp [run?, conclude, Task.conclude, Program.run, history, completion]
  | unwound panic =>
      have inside := (List.getElem?_eq_some_iff.mp found).1
      have unwinds :
          task.turn? environment config crew.permits crew.world =
            some ({ task with stage := .unwinding }, crew.permits.release, crew.world) := by
        rw [Task.turn?, working]
        rfl
      refine .turn (turn?_eq found unwinds)
        (.turn (turn?_eq (List.getElem?_set_self inside) rfl) ⟨0, ?_⟩)
      simp [run?, conclude, Task.conclude, Program.run, history, completion, Completion.finish_aborted]
  | ask call answered panicked answeredEnds panickedEnds =>
      rcases asked : environment.answer call crew.world with ⟨panic | answer, later⟩
      · have stepped :
            (Program.ask call answered panicked).step? environment.recorded
                (crew.world, task.record) =
              some (panicked panic, later, task.record ++ [.panicked call panic]) := by
          simp [Program.step?, Environment.recorded_answer_of_error asked]
        exact .of_step? found working stepped (panickedEnds panic)
      · have stepped :
            (Program.ask call answered panicked).step? environment.recorded
                (crew.world, task.record) =
              some (answered answer, later, task.record ++ [.answered call answer]) := by
          simp [Program.step?, Environment.recorded_answer_of_ok asked]
        exact .of_step? found working stepped (answeredEnds answer)
  | act action next nextEnds => exact .of_step? found working rfl (nextEnds _)

/-- The crew after the run of a download that has just been received. -/
def receiveAlone
    (environment : Environment σ)
    (config : Config)
    (crew : Crew σ)
    (download : Download) :
    Crew σ where
  permits := crew.permits
  tasks := crew.tasks ++
    [(Task.new download).conclude environment ((Task.new download).run config) crew.world]
  world := (((Task.new download).run config).run environment crew.world).2

/-- A download that is received while a permit is free is run to its end, and the permit is free again. -/
theorem turnsTo_receiveAlone
    (environment : Environment σ)
    (config : Config)
    (download : Download)
    (free : crew.permits.acquire? ≠ none) :
    TurnsTo environment config crew.tasks.length (crew.onReceive download)
      (crew.receiveAlone environment config download) := by
  obtain ⟨left, acquired⟩ := Option.ne_none_iff_exists'.mp free
  let working := (Task.new download).atWork ((Task.new download).run config) []
  have found : (crew.onReceive download).tasks[crew.tasks.length]? = some (.new download) :=
    List.getElem?_concat_length
  have inside := (List.getElem?_eq_some_iff.mp found).1
  have admitted :
      (Task.new download).turn? environment config crew.permits crew.world =
        some (working, left, crew.world) := by
    simp [Task.turn?, Task.new, acquired, working, Task.atWork]
  let begun : Crew σ :=
    ⟨left, (crew.onReceive download).tasks.set crew.tasks.length working, crew.world⟩
  have foundAtWork : begun.tasks[crew.tasks.length]? = some working :=
    List.getElem?_set_self inside
  have ends :
      TurnsTo environment config crew.tasks.length begun
        (begun.conclude environment crew.tasks.length working ((Task.new download).run config)) :=
    turnsTo_conclude environment config foundAtWork rfl
  have reached :
      begun.conclude environment crew.tasks.length working ((Task.new download).run config) =
        crew.receiveAlone environment config download := by
    simp [begun, conclude, receiveAlone, onReceive, Permits.release_of_acquire? acquired]
    rfl
  rw [← reached]
  exact .turn (turn?_eq found admitted) ends

end Crew

namespace Shift

variable
  {σ : Type}
  {environment : Environment σ}
  {config : Config}
  {shift next : Shift σ}

theorem run?_append
    (first second : List (Move σ))
    (shift : Shift σ) :
    run? environment config (first ++ second) shift =
      (run? environment config first shift).bind (run? environment config second) := by
  induction first generalizing shift with
  | nil => rfl
  | cons move first inductionHypothesis =>
      rw [List.cons_append, run?, run?]
      cases shift.step? environment config move with
      | none => rfl
      | some next => exact inductionHypothesis next

/-- One turn after another leads a shift from one state to another, as its crew. -/
theorem run?_turns
    {number : Nat}
    {reached : Crew σ}
    (turnsTo : Crew.TurnsTo environment config number shift.crew reached) :
    ∃ count,
      run? environment config (List.replicate count (.turn number)) shift =
        some { shift with crew := reached } := by
  obtain ⟨count, ran⟩ := turnsTo
  refine ⟨count, ?_⟩
  induction count generalizing shift with
  | zero =>
      obtain rfl := Option.some.inj ran
      rfl
  | succ count inductionHypothesis =>
      obtain ⟨between, turned, ranOn⟩ := Option.bind_eq_some_iff.mp ran
      have stepped :
          shift.step? environment config (.turn number) = some { shift with crew := between } := by
        exact Option.map_eq_some_iff.mpr ⟨between, turned, rfl⟩
      exact Option.bind_eq_some_iff.mpr ⟨_, stepped, inductionHypothesis ranOn⟩

/-- The reception takes a download, its task gets so many turns, the rest of the world goes on, and the
reception takes note of the completion. -/
def servingOne
    (number count : Nat)
    (change : σ → σ) :
    List (Move σ) :=
  .take :: (List.replicate count (.turn number) ++ [.elsewhere change, .join number])

@[simp] theorem arrived_servingOne
    (number count : Nat)
    (change : σ → σ) :
    arrived (servingOne number count change) = [] := by
  simp [arrived, servingOne]

/-- A reception may take a download while a permit is free, go on with its run to the end and take note of
the completion before anything else happens. -/
theorem run?_servingOne
    (environment : Environment σ)
    (config : Config)
    {download : Download}
    {later : List Download}
    (serving : shift.reception.phase = .serving)
    (first : shift.reception.arrivals = download :: later)
    (unwatched : shift.watched = [])
    (free : shift.crew.permits.acquire? ≠ none)
    (change : σ → σ) :
    ∃ count,
      run? environment config (servingOne shift.crew.tasks.length count change) shift =
        some ⟨{ shift.reception with arrivals := later },
          { shift.crew.receiveAlone environment config download with
            world := change (shift.crew.receiveAlone environment config download).world },
          []⟩ := by
  let started :=
    shift.start download
      { shift.reception with arrivals := later, underWay := shift.reception.underWay + 1 }
  have taken : shift.step? environment config .take = some started := by
    simp [step?, Reception.take?, serving, first, started]
  have goesOn :
      Crew.TurnsTo environment config shift.crew.tasks.length started.crew
        (shift.crew.receiveAlone environment config download) :=
    Crew.turnsTo_receiveAlone environment config download free
  obtain ⟨count, ran⟩ := run?_turns goesOn
  refine ⟨count, ?_⟩
  rw [servingOne, run?, taken, Option.bind_some, run?_append, ran, Option.bind_some]
  simp [run?, step?, started, start, unwatched, serving, hasResolved, Crew.receiveAlone,
    Reception.resolve]

end Shift

end MmsInbox.Receive
