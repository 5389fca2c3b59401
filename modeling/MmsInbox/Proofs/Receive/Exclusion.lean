import MmsInbox.Proofs.Receive.Alternation
import MmsInbox.Proofs.Receive.Releasing
import MmsInbox.Proofs.Receive.Tasks
import MmsInbox.Receive.Fetching

namespace MmsInbox

/-!
# One download or run at a location

The download step marks locations as in flight and runs take them off again. A location is occupied while it
is fetched, while its download waits for the crew, and until its run has released it. However fetches and
runs go on side by side, a location is never occupied twice, and it is in flight exactly as long as it is
occupied (`Receive.Fetching.orderly_and_exclusive`).

Each location is therefore counted: the places where it is occupied are as many as it is times in flight
(`Receive.Fetching.Sound`). A beginning and a release change both sides, all else changes neither.
-/

open Program

/-- Somebody who has an answer to everything. -/
noncomputable def Environment.obliging : Environment Unit where
  answer call world := (.ok call.nonempty_answer.some, world)
  perform action world := (action.nonempty_answer.some, world)

/-- Whatever has happened in a program, it may come to an end after that. -/
theorem Program.Leads.exists_end
    {α : Type}
    {program rest : Program α}
    {history : History}
    (leads : Leads program history rest) :
    ∃ later result, Leads program (history ++ later) (ended result) :=
  ⟨_, _, leads.trans (leads_run .obliging rest ())⟩

namespace Receive

/-- Up to any point a run has released nothing or its download. -/
theorem released_eq_of_leads
    {standard : Subscription}
    {download : Download}
    {history : History}
    {rest : Program Outcome}
    (leads : Leads (process standard download) history rest) :
    history.released = [] ∨ history.released = [download.location] := by
  obtain ⟨later, result, complete⟩ := leads.exists_end
  have atEnd := (unfolds_of_leads complete).released_eq
  rw [History.released_append] at atEnd
  rcases atEnd with ⟨_, nothing⟩ | ⟨_, released⟩
  · exact .inl (List.append_eq_nil_iff.mp nothing).1
  · rcases List.append_eq_singleton_iff.mp released with ⟨sofar, _⟩ | ⟨sofar, _⟩
    · exact .inl sofar
    · exact .inr sofar

namespace Task

/-- The run has not released its location, be it because it has yet to come that far. -/
def occupies (task : Task) : Bool :=
  task.record.released.isEmpty

/-- The run has not released its location, which is the given one. -/
def occupiesAt
    (location : String)
    (task : Task) :
    Bool :=
  task.occupies && task.download.location == location

variable
  {σ : Type}
  {environment : Environment (σ × Downloads)}
  {config : Config}
  {permits left : Permits}
  {world later : σ × Downloads}
  {task next : Task}

/-- A run that releases a location had not released anything before, and the location is its own. -/
theorem occupies_of_released
    {rest further : Program Outcome}
    {event : Event}
    {location : String}
    (sound : task.Sound config)
    (working : task.stage = .working rest)
    (leads : Leads rest [event] further)
    (releases : event.released? = some location) :
    task.occupies = true ∧ task.download.location = location := by
  have course := (sound.at_stage working).1.trans leads
  have shown : History.released [event] = [location] := by
    simp [History.released, releases]
  have released := released_eq_of_leads course
  rw [History.released_append, shown] at released
  rcases released with nothing | released
  · simp at nothing
  · rcases List.append_eq_singleton_iff.mp released with ⟨before, same⟩ | ⟨_, nothing⟩
    · exact ⟨by rw [occupies, before, List.isEmpty_nil], (List.singleton_inj.mp same).symm⟩
    · cases nothing

/-- A turn takes the location of the task off the downloads in flight as the run releases it, and changes
nothing else about them. -/
theorem Turns.releases
    (turns : task.Turns environment config permits world next left later)
    (keeps : KeepsDownloads environment Prod.snd)
    (sound : task.Sound config) :
    next.occupies = task.occupies ∧ later.2 = world.2 ∨
      task.occupies = true ∧ next.occupies = false ∧
        later.2 = (world.2.finish task.download.location).2 := by
  cases turns with
  | admitted waiting acquired => exact .inl ⟨rfl, rfl⟩
  | finished working => exact .inl ⟨rfl, rfl⟩
  | unwound working => exact .inl ⟨rfl, rfl⟩
  | released finished => exact .inl ⟨rfl, rfl⟩
  | dropped unwinding => exact .inl ⟨rfl, rfl⟩
  | advanced working stepped =>
      obtain ⟨event, leads, yields, rfl⟩ := step?_recorded_eq_some_iff.mp stepped
      have kept := keeps.downloads_of_yields yields
      cases releases : event.released? with
      | none =>
          rw [releases] at kept
          refine .inl ⟨?_, kept⟩
          simp [occupies, History.released, releases]
      | some location =>
          obtain ⟨occupied, rfl⟩ := occupies_of_released sound working leads releases
          rw [releases] at kept
          refine .inr ⟨occupied, ?_, kept⟩
          simp [occupies, History.released, releases]

/-- As a task that occupies a location is in flight there, a turn gives the location up and takes it off the
downloads in flight at once. -/
theorem Turns.balanced
    (turns : task.Turns environment config permits world next left later)
    (keeps : KeepsDownloads environment Prod.snd)
    (sound : task.Sound config)
    (location : String)
    (tracked : task.occupiesAt location = true → world.2.isInProgress location = true) :
    (next.occupiesAt location).toNat + (world.2.isInProgress location).toNat =
      (task.occupiesAt location).toNat + (later.2.isInProgress location).toNat := by
  have same := turns.download_eq
  rcases turns.releases keeps sound with ⟨alike, kept⟩ | ⟨occupied, gone, released⟩
  · simp only [occupiesAt, alike, same, kept]
  · rw [released, Downloads.isInProgress_finish]
    simp only [occupiesAt, occupied, gone, same, Bool.true_and, Bool.false_and] at tracked ⊢
    by_cases here : task.download.location = location
    · subst here
      simp [tracked]
    · rw [beq_false_of_ne here, bne_iff_ne.mpr here, Bool.true_and]

end Task

namespace Fetching

variable
  {σ : Type}
  {environment : Environment (σ × Downloads)}
  {config : Config}
  {fetching next : Fetching σ}

/-- The locations that are fetched, or whose downloads wait for the crew, or whose runs have not released
them. -/
def occupied (fetching : Fetching σ) : List String :=
  fetching.begun ++ fetching.handedOver.map Download.location ++
    (fetching.crew.tasks.filter Task.occupies).map (·.download.location)

/-- How often a location is occupied. -/
theorem count_occupied
    (fetching : Fetching σ)
    (location : String) :
    fetching.occupied.count location =
      fetching.begun.count location +
        (fetching.handedOver.map Download.location).count location +
          fetching.crew.tasks.countP (Task.occupiesAt location) := by
  have runs :
      ((fetching.crew.tasks.filter Task.occupies).map (·.download.location)).count location =
        fetching.crew.tasks.countP (Task.occupiesAt location) := by
    rw [List.count, List.countP_map, List.countP_filter]
    refine List.countP_congr fun task _ => ?_
    simp [Task.occupiesAt, and_comm]
  rw [occupied, List.count_append, List.count_append, runs]

/-- What is taken out of a list at a place counts for one. -/
theorem count_eraseIdx
    {list : List String}
    {number : Nat}
    {taken : String}
    (found : list[number]? = some taken)
    (location : String) :
    (list.eraseIdx number).count location + [taken].count location = list.count location := by
  obtain ⟨inside, rfl⟩ := List.getElem?_eq_some_iff.mp found
  rw [← (List.getElem_cons_eraseIdx_perm inside).count_eq, Nat.add_comm, ← List.count_append,
    List.singleton_append]

/-- A location that is in flight is not begun again. -/
theorem begin_of_inProgress
    {location : String}
    (inProgress : fetching.downloads.isInProgress location = true)
    (now : Nat) :
    fetching.begin location now = fetching := by
  simp only [Fetching.begin, Downloads.begin_of_inProgress inProgress]
  rfl

/-- A location that is begun is occupied once more. -/
theorem count_occupied_begin
    {location : String}
    (idle : fetching.downloads.isInProgress location = false)
    (now : Nat)
    (other : String) :
    (fetching.begin location now).occupied.count other =
      fetching.occupied.count other + [location].count other := by
  have begun : (fetching.begin location now).begun = fetching.begun ++ [location] := by
    simp only [Fetching.begin, Downloads.begin_of_idle idle, if_true]
  rw [count_occupied, count_occupied, begun, List.count_append]
  change _ + (fetching.handedOver.map Download.location).count other +
    fetching.crew.tasks.countP (Task.occupiesAt other) = _
  omega

/-- What holds of both sides at all times. -/
structure Sound
    (config : Config)
    (fetching : Fetching σ) :
    Prop where
  tasks : ∀ task ∈ fetching.crew.tasks, task.Sound config
  /-- A location is occupied once if it is in flight, and not at all otherwise. -/
  counted :
    ∀ location,
      fetching.occupied.count location = (fetching.downloads.isInProgress location).toNat
  /-- Both sides only begin and finish locations. -/
  reached : Downloads.Shared.Reaches fetching.downloads

namespace Sound

theorem new
    (config : Config)
    (permits : Permits)
    (world : σ) :
    (Fetching.new permits world).Sound config where
  tasks _ member := absurd member List.not_mem_nil
  counted location := by
    simp [occupied, Fetching.new, Crew.new, downloads, Downloads.isInProgress, Downloads.empty]
  reached := .empty

/-- A beginning occupies a location that was not in flight. -/
theorem begin
    (sound : fetching.Sound config)
    (location : String)
    (now : Nat) :
    (fetching.begin location now).Sound config := by
  refine ⟨sound.tasks, fun other => ?_, sound.reached.apply (.begin location now)⟩
  cases inProgress : fetching.downloads.isInProgress location with
  | true =>
      rw [begin_of_inProgress inProgress]
      exact sound.counted other
  | false =>
      have inFlight :
          (fetching.begin location now).downloads.isInProgress other =
            (location == other || fetching.downloads.isInProgress other) :=
        Downloads.isInProgress_begin inProgress
      rw [count_occupied_begin inProgress, sound.counted, inFlight]
      by_cases here : location = other
      · subst here
        simp [inProgress]
      · have absent : [location].count other = 0 := by simp [here]
        rw [absent, Nat.add_zero, beq_false_of_ne here, Bool.false_or]

/-- A location stays occupied as its download is handed over. -/
theorem handOver
    {number : Nat}
    {download : Download}
    (sound : fetching.Sound config)
    (handed : fetching.handOver? number download = some next) :
    next.Sound config := by
  unfold handOver? at handed
  split at handed
  case isFalse => cases handed
  case isTrue found =>
    obtain rfl := Option.some.inj handed
    refine ⟨sound.tasks, fun location => ?_, sound.reached⟩
    have before := sound.counted location
    have moved := count_eraseIdx found location
    rw [count_occupied] at before ⊢
    rw [List.map_append, List.count_append]
    simp only [List.map_cons, List.map_nil]
    change _ = (fetching.downloads.isInProgress location).toNat
    omega

/-- A location stays occupied as its download is received. -/
theorem receive
    {number : Nat}
    (sound : fetching.Sound config)
    (received : fetching.receive? number = some next) :
    next.Sound config := by
  obtain ⟨download, found, rfl⟩ := Option.map_eq_some_iff.mp received
  refine ⟨?_, fun location => ?_, sound.reached⟩
  · intro task member
    rcases List.mem_append.mp member with old | fresh
    · exact sound.tasks task old
    · obtain rfl := List.mem_singleton.mp fresh
      exact .new config download
  · have before := sound.counted location
    have there : (fetching.handedOver.map Download.location)[number]? = some download.location := by
      rw [List.getElem?_map, found, Option.map_some]
    have moved := count_eraseIdx there location
    rw [List.eraseIdx_map] at moved
    rw [count_occupied] at before ⊢
    have waits :
        [Task.new download].countP (Task.occupiesAt location) = [download.location].count location :=
      rfl
    simp only [Crew.onReceive, List.countP_append, waits]
    change _ = (fetching.downloads.isInProgress location).toNat
    omega

/-- A location that a run occupies is in flight. -/
theorem tracked
    (sound : fetching.Sound config)
    {task : Task}
    (member : task ∈ fetching.crew.tasks)
    {location : String}
    (occupies : task.occupiesAt location = true) :
    fetching.downloads.isInProgress location = true := by
  have before := sound.counted location
  have counted : 0 < fetching.crew.tasks.countP (Task.occupiesAt location) :=
    List.countP_pos_iff.mpr ⟨task, member, occupies⟩
  rw [count_occupied] at before
  cases inProgress : fetching.downloads.isInProgress location with
  | true => rfl
  | false =>
      rw [inProgress, Bool.toNat_false] at before
      omega

/-- A location is given up as its run releases it. -/
theorem turn
    {number : Nat}
    (keeps : KeepsDownloads environment Prod.snd)
    (sound : fetching.Sound config)
    (went : fetching.within? environment config (.turn number) = some next) :
    next.Sound config := by
  obtain ⟨crew, turned, rfl⟩ := Option.map_eq_some_iff.mp went
  obtain ⟨task, other, left, later, found, turns, rfl⟩ := Crew.turns_of_turn? turned
  have soundTask := sound.tasks task (List.mem_of_getElem? found)
  refine ⟨Crew.sound_set sound.tasks (soundTask.turn turns), fun location => ?_, ?_⟩
  · have before := sound.counted location
    obtain ⟨balance, _⟩ := Crew.countP_set (Task.occupiesAt location) found other
    have traded :=
      turns.balanced keeps soundTask location (sound.tracked (List.mem_of_getElem? found))
    rw [count_occupied] at before ⊢
    simp only [downloads] at before ⊢
    omega
  · change Downloads.Shared.Reaches later.2
    rcases turns.releases keeps soundTask with ⟨_, kept⟩ | ⟨_, _, released⟩
    · rw [kept]
      exact sound.reached
    · rw [released]
      exact sound.reached.apply (.finish task.download.location)

/-- Nothing is given up as nobody waits for a completion any more. -/
theorem abandon
    {number : Nat}
    (sound : fetching.Sound config)
    (went : fetching.within? environment config (.abandon number) = some next) :
    next.Sound config := by
  obtain ⟨crew, abandoned, rfl⟩ := Option.map_eq_some_iff.mp went
  obtain ⟨task, found, rfl⟩ := Option.map_eq_some_iff.mp abandoned
  have soundTask := sound.tasks task (List.mem_of_getElem? found)
  refine ⟨Crew.sound_set sound.tasks soundTask.abandon, fun location => ?_, sound.reached⟩
  have before := sound.counted location
  obtain ⟨balance, _⟩ := Crew.countP_set (Task.occupiesAt location) found task.abandon
  have same : Task.occupiesAt location task.abandon = Task.occupiesAt location task := rfl
  rw [same] at balance
  rw [count_occupied] at before ⊢
  simp only [downloads] at before ⊢
  omega

/-- Whatever happens on either side, each location stays counted. -/
theorem step
    {move : Move σ}
    (keeps : KeepsDownloads environment Prod.snd)
    (sound : fetching.Sound config)
    (stepped : fetching.step? environment config move = some next) :
    next.Sound config := by
  cases move with
  | begin location now =>
      obtain rfl := Option.some.inj stepped
      exact sound.begin location now
  | handOver number download => exact sound.handOver stepped
  | receive number => exact sound.receive stepped
  | turn number => exact sound.turn keeps stepped
  | abandon number => exact sound.abandon stepped
  | elsewhere change =>
      obtain rfl := Option.some.inj stepped
      exact ⟨sound.tasks, sound.counted, sound.reached⟩

theorem run
    {moves : List (Move σ)}
    (keeps : KeepsDownloads environment Prod.snd)
    (sound : fetching.Sound config)
    (ran : run? environment config moves fetching = some next) :
    next.Sound config := by
  induction moves generalizing fetching with
  | nil =>
      obtain rfl := Option.some.inj ran
      exact sound
  | cons move later inductionHypothesis =>
      obtain ⟨between, stepped, ranOn⟩ := Option.bind_eq_some_iff.mp ran
      exact inductionHypothesis (sound.step keeps stepped) ranOn

end Sound

/-- No location is occupied twice, and the locations in flight are those that are occupied. -/
structure Exclusive (fetching : Fetching σ) : Prop where
  /-- At a location there is one fetch, or one download that waits, or one run that has not released it, and
  nothing besides. -/
  once : fetching.occupied.Nodup
  inFlight :
    ∀ location,
      location ∈ fetching.occupied ↔ fetching.downloads.isInProgress location = true
  /-- The locations in flight have come about by calls on clones alone. -/
  reached : Downloads.Shared.Reaches fetching.downloads

theorem Sound.exclusive (sound : fetching.Sound config) : fetching.Exclusive where
  once := by
    rw [List.nodup_iff_count_le_one]
    intro location
    rw [sound.counted]
    exact Bool.toNat_le _
  inFlight location := by
    rw [← List.count_pos_iff, sound.counted]
    cases fetching.downloads.isInProgress location <;> simp
  reached := sound.reached

/-- In every sequence of calls on clones, beginnings and ends of a location take turns. Therefore, however
fetches and runs go on side by side, no location is occupied twice, and the locations in flight are those
that are occupied. -/
theorem orderly_and_exclusive
    (keeps : KeepsDownloads environment Prod.snd)
    (config : Config)
    (permits : Permits)
    (world : σ) :
    (∀ operations, (Downloads.Shared.after operations).Orderly) ∧
      ∀ moves fetching,
        run? environment config moves (.new permits world) = some fetching →
          fetching.Exclusive := by
  refine ⟨Downloads.Shared.orderly_after, fun moves fetching ran => ?_⟩
  exact ((Sound.new config permits world).run keeps ran).exclusive

/-- A greeting begins twice, and is fetched once. After its run has released the location this begins again,
and another one besides. -/
def greetingTwice : List (Move Unit) :=
  [.begin staleGreeting.location 5, .begin staleGreeting.location 6, .handOver 0 staleGreeting,
    .receive 0] ++
  List.replicate 14 (.turn 0) ++
  [.begin staleGreeting.location 9, .begin "http://relay.example/8" 10]

/-- Two locations are fetched after a greeting was received, each of them once. -/
theorem orderly_and_exclusive_greetingTwice :
    KeepsDownloads (withDownloads smoothWorld) Prod.snd ∧
      ∃ fetching : Fetching Unit,
        run? (withDownloads smoothWorld) .standard greetingTwice (.new ⟨none, 0⟩ ()) =
            some fetching ∧
          fetching.occupied = [staleGreeting.location, "http://relay.example/8"] ∧
          fetching.downloads.inFlight.toList =
            [(staleGreeting.location, 9), ("http://relay.example/8", 10)] ∧
          (Downloads.Shared.after [.begin "a" 1, .begin "a" 2, .finish "a", .begin "a" 3]).Orderly ∧
          fetching.Exclusive := by
  have keeps := keepsDownloads_withDownloads smoothWorld
  obtain ⟨orderly, exclusive⟩ := orderly_and_exclusive keeps .standard ⟨none, 0⟩ ()
  have final :
      (run? (withDownloads smoothWorld) .standard greetingTwice (.new ⟨none, 0⟩ ())).map
          (fun fetching => (fetching.occupied, fetching.downloads.inFlight.toList)) =
        some ([staleGreeting.location, "http://relay.example/8"],
          [(staleGreeting.location, 9), ("http://relay.example/8", 10)]) := by
    decide +kernel
  obtain ⟨fetching, ran, same⟩ := Option.map_eq_some_iff.mp final
  obtain ⟨occupied, inFlight⟩ := Prod.mk.inj same
  exact ⟨keeps, fetching, ran, occupied, inFlight, orderly _, exclusive _ _ ran⟩

end Fetching

end Receive

end MmsInbox
