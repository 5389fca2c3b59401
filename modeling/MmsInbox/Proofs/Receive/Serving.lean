import MmsInbox.Proofs.Receive.Completing
import MmsInbox.Receive.Shift

namespace MmsInbox.Receive

/-!
# Each download is served once

In whatever order downloads arrive, tasks get their turns, completions resolve and signals come, the crew
has the downloads that have arrived, one task for each and in the order of arrival, but for those that
still wait in the channel (`Shift.Sound`). If the reception ends because the channel closed, nothing
waits there and all completions have resolved. If it ends on a signal, what waits is never started, while
the tasks that were started go on to their end (`Shift.serves_each_once`).
-/

open Program

/-- What the application is told of an outcome. -/
def callbacksOf : Outcome → List Call
  | .received id => [.onMessageReceived id]
  | .failed error => [.onError error]
  | .blocked => []
  | .aborted => []

/-- What a run has told the application fits how it ended. -/
inductive Informs (history : History) : Except Panic Outcome → Prop where
  /-- The application was told of the outcome and of nothing else. -/
  | informed
      {outcome : Outcome}
      (told : history.calls.filter isCallback = callbacksOf outcome) :
      Informs history (.ok outcome)
  /-- A panic ended the run as stale notifications were removed, before anything was told. -/
  | uninformed
      {panic : Panic}
      (location : String)
      (broke : .panicked (.deletePending location) panic ∈ history)
      (untold : history.calls.filter isCallback = []) :
      Informs history (.error panic)
  /-- The application itself ended the run with a panic as it was told. -/
  | interrupted
      {panic : Panic}
      {outcome : Outcome}
      {call : Call}
      (broke : .panicked call panic ∈ history)
      (told : history.calls.filter isCallback = [call])
      (meant : callbacksOf outcome = [call]) :
      Informs history (.error panic)

section Informed

variable
  {download : Download}
  {subscription : Subscription}
  {outcome : Outcome}
  {history : History}

/-- In the first part of a run the application is told nothing, panics or not. -/
theorem Attempts.untold (attempts : Attempts download subscription outcome history) :
    history.calls.filter isCallback = [] := by
  cases attempts with
  | received calm receives => exact receives.untold
  | @brokenOff _ done later call answer panic receives =>
      have untold := receives.untold
      rw [History.calls_append, History.calls_answered, List.filter_append,
        List.append_eq_nil_iff] at untold
      obtain ⟨untoldBefore, untoldAfter⟩ := untold
      have other : isCallback call = false := by
        cases callback : isCallback call with
        | false => rfl
        | true =>
            rw [List.filter_cons_of_pos callback] at untoldAfter
            cases untoldAfter
      simp [untoldBefore, other]

/-- A report tells the application of its outcome. -/
theorem Reports.told
    {location : String}
    (reports : Reports location outcome history) :
    history.calls.filter isCallback = callbacksOf outcome := by
  cases reports with
  | received id => rfl
  | failed error => rfl
  | blocked => rfl
  | aborted => rfl

/-- A report can be cut short at the callback only. -/
theorem Reports.cut
    {location : String}
    {done later : History}
    {call : Call}
    {answer : call.Answer}
    (reports : Reports location outcome (done ++ .answered call answer :: later)) :
    done.calls = [] ∧ callbacksOf outcome = [call] ∧ isCallback call = true := by
  generalize split : done ++ .answered call answer :: later = reporting at reports
  cases reports with
  | received id =>
      obtain ⟨rfl, rfl⟩ := cut_at_first rfl split.symm
      exact ⟨rfl, rfl, rfl⟩
  | failed error =>
      cases done with
      | nil => cases split
      | cons event done =>
          obtain ⟨rfl, rest⟩ := List.cons.inj split
          obtain ⟨rfl, rfl⟩ := cut_at_first rfl rest.symm
          exact ⟨rfl, rfl, rfl⟩
  | blocked => simp at split
  | aborted => simp at split

/-- However a run unfolds, it tells the application what fits its end. -/
theorem Unfolds.informs
    {result : Except Panic Outcome}
    (unfolds : Unfolds download subscription result history) :
    Informs history result := by
  cases unfolds with
  | reported began attempts cleans reports =>
      apply Informs.informed
      simp [attempts.untold, cleans.untold, reports.told]
  | @unreported _ attempting cleaning done later call answer began panic attempts cleans reports =>
      obtain ⟨silent, meant, callback⟩ := reports.cut
      have broke :
          .panicked call panic ∈
            attempting ++
              (cleaning ++ .acted (.finishDownload download.location) began ::
                (done ++ [.panicked call panic])) := by
        simp
      apply Informs.interrupted broke ?_ meant
      simp [attempts.untold, cleans.untold, silent, callback]
  | uncleaned panic attempts stale =>
      apply Informs.uninformed download.location
      · simp
      · simp [attempts.untold, isCallback]

end Informed

/-- A download has been served to the end: its task is over, the completion has resolved to what the run
came to, and the application was told what fits that. -/
structure Task.Served
    (config : Config)
    (download : Download)
    (task : Task)
    (result : Except Panic Outcome) :
    Prop where
  own : task.download = download
  atEnd : task.stage = .ended
  settled : task.Settled config result
  resolved : task.completion.poll? = some (Receive.completion result)
  informs : Informs task.record result

namespace Shift

variable
  {σ : Type}
  {environment : Environment σ}
  {config : Config}
  {shift next : Shift σ}

/-- All that can happen in a shift. -/
inductive Happens
    (environment : Environment σ)
    (config : Config)
    (shift : Shift σ) :
    Move σ → Shift σ → Prop where
  | arrived
      {download : Download}
      (opened : shift.reception.sourceOpen = true)
      (unended : shift.reception.phase ≠ .stopped) :
      Happens environment config shift (.arrive download)
        { shift with reception := shift.reception.arrive download }
  | closed :
      Happens environment config shift .closeSource
        { shift with reception := shift.reception.closeSource }
  | taken
      {download : Download}
      {later : List Download}
      (serving : shift.reception.phase = .serving)
      (first : shift.reception.arrivals = download :: later) :
      Happens environment config shift .take
        (shift.start download
          { shift.reception with
            arrivals := later
            underWay := shift.reception.underWay + 1 })
  | joined
      {number : Nat}
      {task : Task}
      (watched : number ∈ shift.watched)
      (found : shift.crew.tasks[number]? = some task)
      (resolved : task.completion.poll? ≠ none) :
      Happens environment config shift (.join number)
        { shift with
          reception := shift.reception.resolve
          watched := shift.watched.erase number }
  | noticed
      (serving : shift.reception.phase = .serving)
      (empty : shift.reception.arrivals = [])
      (closed : shift.reception.sourceOpen = false) :
      Happens environment config shift .noticeClosed
        { shift with reception := { shift.reception with phase := .awaitingRuns } }
  | finished
      (awaiting : shift.reception.phase = .awaitingRuns)
      (awaited : shift.reception.underWay = 0) :
      Happens environment config shift .finish
        { shift with reception := { shift.reception with phase := .stopped } }
  | signalled (signal : Signal) :
      Happens environment config shift (.signal signal)
        { shift with
          reception :=
            { shift.reception with signals := shift.reception.signals.push signal } }
  | disconnected :
      Happens environment config shift .disconnect
        { shift with
          reception := { shift.reception with signals := shift.reception.signals.disconnect } }
  | heeded
      (signals : SignalInbox)
      (world : σ)
      (serving : shift.reception.phase = .serving) :
      Happens environment config shift .heed
        { shift with
          reception := { shift.reception with signals := signals, phase := .stopped }
          crew := { shift.crew with world := world } }
  | turned
      {number : Nat}
      {crew : Crew σ}
      (turned : shift.crew.turn? environment config number = some crew) :
      Happens environment config shift (.turn number) { shift with crew := crew }
  | elsewhere
      (change : σ → σ)
      (world : σ) :
      Happens environment config shift (.elsewhere change)
        { shift with crew := { shift.crew with world := world } }

theorem happens_of_step?
    {move : Move σ}
    (stepped : shift.step? environment config move = some next) :
    shift.Happens environment config move next := by
  cases move with
  | arrive download =>
      simp only [step?, Option.ite_none_right_eq_some, Option.some.injEq] at stepped
      obtain ⟨⟨opened, unended⟩, rfl⟩ := stepped
      exact .arrived opened unended
  | closeSource =>
      obtain rfl := Option.some.inj stepped
      exact .closed
  | take =>
      simp only [step?, Option.map_eq_some_iff, Reception.take?] at stepped
      obtain ⟨⟨download, reception⟩, taken, rfl⟩ := stepped
      split at taken
      case h_2 => cases taken
      case h_1 first later serving arrived =>
        obtain ⟨rfl, rfl⟩ := Prod.mk.inj (Option.some.inj taken)
        exact .taken serving arrived
  | join number =>
      simp only [step?, Option.ite_none_right_eq_some, Option.some.injEq] at stepped
      obtain ⟨⟨_, watched, resolved⟩, rfl⟩ := stepped
      obtain ⟨task, found, polled⟩ := (Option.any_eq_true _ _).mp resolved
      exact .joined watched found (Option.isSome_iff_ne_none.mp polled)
  | noticeClosed =>
      simp only [step?, Option.map_eq_some_iff, Reception.noticeClosed?,
        Option.ite_none_right_eq_some, Option.some.injEq] at stepped
      obtain ⟨_, ⟨⟨serving, empty, closed⟩, rfl⟩, rfl⟩ := stepped
      exact .noticed serving empty closed
  | finish =>
      simp only [step?, Option.map_eq_some_iff, Reception.finish?, Option.ite_none_right_eq_some,
        Option.some.injEq] at stepped
      obtain ⟨_, ⟨⟨awaiting, awaited⟩, rfl⟩, rfl⟩ := stepped
      exact .finished awaiting awaited
  | signal signal =>
      obtain rfl := Option.some.inj stepped
      exact .signalled signal
  | disconnect =>
      obtain rfl := Option.some.inj stepped
      exact .disconnected
  | heed =>
      simp only [step?, Option.map_eq_some_iff, Reception.heed?, Option.ite_none_right_eq_some]
        at stepped
      obtain ⟨⟨loss, reception⟩, ⟨serving, ⟨news, signals⟩, _, same⟩, rfl⟩ := stepped
      obtain ⟨_, rfl⟩ := Prod.mk.inj same
      exact .heeded signals _ serving
  | turn number =>
      obtain ⟨crew, turned, rfl⟩ := Option.map_eq_some_iff.mp stepped
      exact .turned turned
  | elsewhere change =>
      obtain rfl := Option.some.inj stepped
      exact .elsewhere change _

/-- Whatever happens in a shift is something that can happen in its crew, or nothing for it. -/
theorem Happens.crew
    {move : Move σ}
    (happens : shift.Happens environment config move next) :
    Crew.Goes environment config shift.crew next.crew := by
  have idle : Crew.Goes environment config shift.crew shift.crew := ⟨.elsewhere id, rfl⟩
  cases happens with
  | arrived opened unended => exact idle
  | closed => exact idle
  | @taken download later serving first => exact ⟨.receive download, rfl⟩
  | joined watched found resolved => exact idle
  | noticed serving empty closed => exact idle
  | finished awaiting awaited => exact idle
  | signalled signal => exact idle
  | disconnected => exact idle
  | heeded signals world serving => exact ⟨.elsewhere fun _ => world, rfl⟩
  | @turned number crew turned => exact ⟨.turn number, turned⟩
  | elsewhere change world => exact ⟨.elsewhere fun _ => world, rfl⟩

/-- What has arrived, the first first. -/
def arrived (moves : List (Move σ)) : List Download :=
  moves.filterMap fun move =>
    match move with
    | .arrive download => some download
    | _ => none

/-- What holds of a shift at all times, given what has arrived so far. -/
structure Sound
    (config : Config)
    (arrived : List Download)
    (shift : Shift σ) :
    Prop where
  crew : shift.crew.Sound config
  /-- What has arrived was handed to the crew in order, or it waits in the channel. -/
  handed : shift.crew.downloads ++ shift.reception.arrivals = arrived
  underWay : shift.reception.underWay = shift.watched.length
  closed :
    shift.reception.phase = .awaitingRuns →
      shift.reception.arrivals = [] ∧ shift.reception.sourceOpen = false
  /-- The reception does not drop a completion. -/
  awaited : ∀ task ∈ shift.crew.tasks, task.completion.awaited = true
  /-- The reception watches every task whose completion has not resolved. -/
  watched
    {number : Nat}
    {task : Task}
    (found : shift.crew.tasks[number]? = some task) :
    number ∈ shift.watched ∨ ∃ result, task.Settled config result

namespace Sound

variable {before : List Download}

theorem new
    {permits : Permits}
    (given : Permits.ofConfig config = .ok permits)
    (signalCapacity : Nat)
    (world : σ) :
    (Shift.new permits signalCapacity world).Sound config [] where
  crew := .new given world
  handed := rfl
  underWay := rfl
  closed awaiting := by cases awaiting
  awaited task member := absurd member List.not_mem_nil
  watched found := by cases found

/-- The next download in the channel is handed to the crew, and its task is watched. -/
theorem take
    {download : Download}
    {later : List Download}
    (sound : shift.Sound config before)
    (serving : shift.reception.phase = .serving)
    (first : shift.reception.arrivals = download :: later) :
    (shift.start download
      { shift.reception with
        arrivals := later
        underWay := shift.reception.underWay + 1 }).Sound config before where
  crew := sound.crew.onReceive download
  handed := by
    have handed := sound.handed
    rw [first] at handed
    simpa [start, Crew.downloads, Crew.onReceive, Task.new] using handed
  underWay := by simp [start, sound.underWay]
  closed awaiting := by cases serving.symm.trans awaiting
  awaited := by
    intro task member
    rcases List.mem_append.mp member with old | fresh
    · exact sound.awaited task old
    · obtain rfl := List.mem_singleton.mp fresh
      rfl
  watched := by
    intro number task found
    change (shift.crew.tasks ++ [Task.new download])[number]? = some task at found
    by_cases inside : number < shift.crew.tasks.length
    · rw [List.getElem?_append_left inside] at found
      rcases sound.watched found with watched | settled
      · exact .inl (List.mem_append_left _ watched)
      · exact .inr settled
    · have bound := (List.getElem?_eq_some_iff.mp found).1
      rw [List.length_append, List.length_singleton] at bound
      have last : number = shift.crew.tasks.length := by omega
      exact .inl (List.mem_append_right _ (List.mem_singleton.mpr last))

/-- The reception may forget about a task whose completion has resolved. -/
theorem join
    {number : Nat}
    {task : Task}
    (sound : shift.Sound config before)
    (watched : number ∈ shift.watched)
    (found : shift.crew.tasks[number]? = some task)
    (resolved : task.completion.poll? ≠ none) :
    Sound config before
      { shift with
        reception := shift.reception.resolve
        watched := shift.watched.erase number } where
  crew := sound.crew
  handed := sound.handed
  underWay := by
    rw [List.length_erase_of_mem watched, ← sound.underWay]
    rfl
  closed := sound.closed
  awaited := sound.awaited
  watched := by
    intro other one foundOther
    by_cases same : other = number
    · subst same
      obtain rfl := Option.some.inj (found.symm.trans foundOther)
      rcases (sound.crew.tasks task (List.mem_of_getElem? found)).pending_or_settled with
        pending | settled
      · exact absurd pending.unresolved resolved
      · exact .inr settled
    · rcases sound.watched foundOther with stillWatched | settled
      · exact .inl ((List.mem_erase_of_ne same).mpr stillWatched)
      · exact .inr settled

/-- A turn of a task leaves what is settled settled. -/
theorem turn
    {number : Nat}
    {crew : Crew σ}
    (sound : shift.Sound config before)
    (turned : shift.crew.turn? environment config number = some crew) :
    Sound config before { shift with crew := crew } := by
  have crewSound : crew.Sound config := sound.crew.turn turned
  obtain ⟨task, other, left, later, found, turns, rfl⟩ := Crew.turns_of_turn? turned
  have member := List.mem_of_getElem? found
  refine ⟨crewSound, ?_, sound.underWay, sound.closed, ?_, ?_⟩
  · change Crew.downloads ⟨left, shift.crew.tasks.set number other, later⟩ ++ _ = before
    rw [Crew.downloads_of_turn? turned]
    exact sound.handed
  · intro one present
    rcases List.mem_or_eq_of_mem_set present with old | rfl
    · exact sound.awaited one old
    · rw [turns.awaited_eq]
      exact sound.awaited task member
  · intro position one foundOne
    change (shift.crew.tasks.set number other)[position]? = some one at foundOne
    by_cases same : number = position
    · subst same
      rw [List.getElem?_set_self (List.getElem?_eq_some_iff.mp found).1] at foundOne
      obtain rfl := Option.some.inj foundOne
      rcases sound.watched found with watched | ⟨result, settled⟩
      · exact .inl watched
      · exact .inr ⟨result, settled.turn (sound.crew.tasks task member) turns⟩
    · rw [List.getElem?_set_ne same] at foundOne
      exact sound.watched foundOne

/-- What leaves the tasks, what waits in the channel and the count alone keeps the books. -/
theorem aside
    {reception : Reception}
    {world : σ}
    (sound : shift.Sound config before)
    (sameArrivals : reception.arrivals = shift.reception.arrivals)
    (sameCount : reception.underWay = shift.reception.underWay)
    (closed :
      reception.phase = .awaitingRuns →
        reception.arrivals = [] ∧ reception.sourceOpen = false) :
    Sound config before
      { shift with reception := reception, crew := { shift.crew with world := world } } where
  crew := sound.crew.elsewhere world
  handed := by
    rw [sameArrivals]
    exact sound.handed
  underWay := sameCount.trans sound.underWay
  closed := closed
  awaited := sound.awaited
  watched := sound.watched

/-- Whatever happens in a shift keeps its books. -/
theorem step
    {move : Move σ}
    (sound : shift.Sound config before)
    (happens : shift.Happens environment config move next) :
    next.Sound config (before ++ arrived [move]) := by
  have nothingMore {next : Shift σ} (kept : next.Sound config before) :
      next.Sound config (before ++ []) := by
    rwa [List.append_nil]
  cases happens with
  | @arrived download opened unended =>
      refine ⟨sound.crew, ?_, sound.underWay, ?_, sound.awaited, sound.watched⟩
      · change _ ++ (shift.reception.arrivals ++ [download]) = before ++ [download]
        rw [← List.append_assoc, sound.handed]
      · intro awaiting
        have shut := (sound.closed awaiting).2
        cases opened.symm.trans shut
  | closed =>
      refine nothingMore (sound.aside rfl rfl ?_)
      intro awaiting
      exact ⟨(sound.closed awaiting).1, rfl⟩
  | taken serving first => exact nothingMore (sound.take serving first)
  | joined watched found resolved => exact nothingMore (sound.join watched found resolved)
  | noticed serving empty closed =>
      refine nothingMore (sound.aside rfl rfl ?_)
      intro _
      exact ⟨empty, closed⟩
  | finished awaiting awaited => exact nothingMore (sound.aside rfl rfl nofun)
  | signalled signal => exact nothingMore (sound.aside rfl rfl sound.closed)
  | disconnected => exact nothingMore (sound.aside rfl rfl sound.closed)
  | heeded signals world serving => exact nothingMore (sound.aside rfl rfl nofun)
  | turned turned => exact nothingMore (sound.turn turned)
  | elsewhere change world => exact nothingMore (sound.aside rfl rfl sound.closed)

theorem run
    {moves : List (Move σ)}
    (sound : shift.Sound config before)
    (ran : run? environment config moves shift = some next) :
    next.Sound config (before ++ arrived moves) := by
  induction moves generalizing shift before with
  | nil =>
      obtain rfl := Option.some.inj ran
      rw [arrived, List.filterMap_nil, List.append_nil]
      exact sound
  | cons move later inductionHypothesis =>
      obtain ⟨between, stepped, ranOn⟩ := Option.bind_eq_some_iff.mp ran
      have onwards := inductionHypothesis (sound.step (happens_of_step? stepped)) ranOn
      rw [List.append_assoc, arrived, arrived, ← List.filterMap_append] at onwards
      exact onwards

end Sound

/-- A reception that has ended starts nothing more, and what waits in its channel stays there. -/
theorem Happens.of_stopped
    {move : Move σ}
    (happens : shift.Happens environment config move next)
    (stopped : shift.reception.phase = .stopped) :
    next.reception.phase = .stopped ∧
      next.crew.downloads = shift.crew.downloads ∧
      next.reception.arrivals = shift.reception.arrivals := by
  cases happens with
  | arrived opened unended => exact absurd stopped unended
  | closed => exact ⟨stopped, rfl, rfl⟩
  | taken serving first => cases serving.symm.trans stopped
  | joined watched found resolved => exact ⟨stopped, rfl, rfl⟩
  | noticed serving empty closed => cases serving.symm.trans stopped
  | finished awaiting awaited => cases awaiting.symm.trans stopped
  | signalled signal => exact ⟨stopped, rfl, rfl⟩
  | disconnected => exact ⟨stopped, rfl, rfl⟩
  | heeded signals world serving => cases serving.symm.trans stopped
  | turned turned => exact ⟨stopped, Crew.downloads_of_turn? turned, rfl⟩
  | elsewhere change world => exact ⟨stopped, rfl, rfl⟩

theorem run?_of_stopped
    {moves : List (Move σ)}
    (stopped : shift.reception.phase = .stopped)
    (ran : run? environment config moves shift = some next) :
    next.crew.downloads = shift.crew.downloads ∧
      next.reception.arrivals = shift.reception.arrivals := by
  induction moves generalizing shift with
  | nil =>
      obtain rfl := Option.some.inj ran
      exact ⟨rfl, rfl⟩
  | cons move later inductionHypothesis =>
      obtain ⟨between, stepped, ranOn⟩ := Option.bind_eq_some_iff.mp ran
      obtain ⟨stillStopped, sameDownloads, sameArrivals⟩ :=
        (happens_of_step? stepped).of_stopped stopped
      obtain ⟨downloads, arrivals⟩ := inductionHypothesis stillStopped ranOn
      exact ⟨downloads.trans sameDownloads, arrivals.trans sameArrivals⟩

/-- Something happens in a shift. -/
def Goes
    (environment : Environment σ)
    (config : Config)
    (shift next : Shift σ) :
    Prop :=
  ∃ move, shift.step? environment config move = some next

/-- The crew of a shift takes a course of its own. -/
theorem Goes.crew (goes : Goes environment config shift next) :
    Crew.Goes environment config shift.crew next.crew := by
  obtain ⟨move, stepped⟩ := goes
  exact (happens_of_step? stepped).crew

/-- Whatever has led to the end of all tasks is part of a course that is fair to the crew. -/
theorem exists_fair_of_run?
    {moves : List (Move σ)}
    (ran : run? environment config moves shift = some next)
    (ended : ∀ task ∈ next.crew.tasks, task.stage = .ended) :
    ∃ course : Endless (Goes environment config) shift,
      Crew.Fair environment config fun now => (course.state now).crew := by
  induction moves generalizing shift with
  | nil =>
      obtain rfl := Option.some.inj ran
      exact ⟨.idle ⟨.elsewhere id, rfl⟩, Crew.fair_of_ended ended⟩
  | cons move later inductionHypothesis =>
      obtain ⟨between, stepped, ranOn⟩ := Option.bind_eq_some_iff.mp ran
      obtain ⟨course, fair⟩ := inductionHypothesis ranOn
      exact ⟨course.prepend ⟨move, stepped⟩, .of_later fair⟩

/-- The reception ends as the channel is closed once all that arrived was started and has resolved. -/
theorem Sound.finish
    {arrived : List Download}
    (sound : shift.Sound config arrived)
    (finished : shift.step? environment config .finish = some next) :
    next.crew.downloads = arrived ∧
      ∀ task ∈ next.crew.tasks,
        ∃ result,
          task.Settled config result ∧
            task.completion.poll? = some (Receive.completion result) := by
  cases happens_of_step? finished with
  | finished awaiting awaited =>
      constructor
      · have handed := sound.handed
        rw [(sound.closed awaiting).1, List.append_nil] at handed
        exact handed
      · intro task member
        obtain ⟨number, found⟩ := List.mem_iff_getElem?.mp member
        have unwatched : shift.watched = [] :=
          List.eq_nil_of_length_eq_zero (sound.underWay.symm.trans awaited)
        rcases sound.watched found with watched | ⟨result, settled⟩
        · rw [unwatched] at watched
          cases watched
        · exact ⟨result, settled, settled.resolved (sound.awaited task member)⟩

/-- Every task of a shift comes to its end, whether the reception goes on or not. -/
theorem Sound.served
    {arrived : List Download}
    (sound : shift.Sound config arrived)
    (course : Endless (Goes environment config) shift)
    (fair : Crew.Fair environment config fun now => (course.state now).crew)
    {number : Nat}
    {download : Download}
    (started : shift.crew.downloads[number]? = some download) :
    ∃ later, ∃ task : Task, ∃ result,
      (course.state later).crew.tasks[number]? = some task ∧
        task.Served config download result := by
  let crews := course.part Shift.crew Goes.crew
  have fairToCrew : Crew.Fair environment config crews.state := fair
  have startedThere : (crews.state 0).downloads[number]? = some download := by
    rw [crews.begins]
    exact started
  obtain ⟨later, task, result, _, found, own, atEnd, settled⟩ :=
    Crew.exists_settled fairToCrew sound.crew startedThere
  have soundThere : ∃ arrived, (course.state later).Sound config arrived := by
    apply course.always (fun shift => ∃ arrived, shift.Sound config arrived) ⟨arrived, sound⟩
    intro shift next holds goes
    obtain ⟨arrived, soundBefore⟩ := holds
    obtain ⟨move, stepped⟩ := goes
    exact ⟨_, soundBefore.step (happens_of_step? stepped)⟩
  obtain ⟨_, soundLater⟩ := soundThere
  have awaited := soundLater.awaited task (List.mem_of_getElem? found)
  exact ⟨later, task, result, found, own, atEnd, settled, settled.resolved awaited,
    (unfolds_of_leads settled.course).informs⟩

/-- Whatever happens in whatever order: the reception has started what arrived, each download once and in
the order of arrival, but for what waits in the channel. If it ends as the channel is closed, all that
arrived was started and all completions have resolved. If it ends on a signal or on a loss of signals, what
waits in the channel is never started, and every task that was started goes on to its end, as far as the
crew is fair to its tasks. -/
theorem serves_each_once
    (environment : Environment σ)
    {permits : Permits}
    (given : Permits.ofConfig config = .ok permits)
    (signalCapacity : Nat)
    (world : σ)
    {moves : List (Move σ)}
    (ran :
      run? environment config moves (.new permits signalCapacity world) = some shift) :
    shift.crew.downloads ++ shift.reception.arrivals = arrived moves ∧
      (∀ ended,
        shift.step? environment config .finish = some ended →
          ended.crew.downloads = arrived moves ∧
            ∀ task ∈ ended.crew.tasks,
              ∃ result,
                task.Settled config result ∧
                  task.completion.poll? = some (Receive.completion result)) ∧
      ∀ ended,
        shift.step? environment config .heed = some ended →
          (∀ later after,
            run? environment config later ended = some after →
              after.crew.downloads = shift.crew.downloads ∧
                after.reception.arrivals = shift.reception.arrivals) ∧
          ∀ course : Endless (Goes environment config) ended,
            (Crew.Fair environment config fun now => (course.state now).crew) →
              ∀ (number : Nat) (download : Download),
                shift.crew.downloads[number]? = some download →
                  ∃ later, ∃ task : Task, ∃ result,
                    (course.state later).crew.tasks[number]? = some task ∧
                      task.Served config download result := by
  have sound := (Sound.new given signalCapacity world).run ran
  rw [List.nil_append] at sound
  refine ⟨sound.handed, fun ended finished => sound.finish finished, ?_⟩
  intro ended heeded
  have soundAfter := sound.step (happens_of_step? heeded)
  cases happens_of_step? heeded with
  | heeded signals world serving =>
      constructor
      · intro later after ranOn
        obtain ⟨downloads, arrivals⟩ := run?_of_stopped (by rfl) ranOn
        exact ⟨downloads, arrivals⟩
      · intro course fair number download started
        exact soundAfter.served course fair started

/-- Three greetings arrive and two are taken. The run of the first ends in a panic as stale notifications
are removed, and a signal comes. -/
def untilSignal : List (Move (Unit × Nat)) :=
  [.arrive staleGreeting, .arrive staleGreeting, .arrive staleGreeting, .take, .take] ++
    List.replicate 14 (.turn 0) ++ [.signal .shutdown]

/-- The channel closes after a greeting. A signal comes while its run is awaited, and the run ends in a
panic as stale notifications are removed. -/
def untilClosed : List (Move (Unit × Nat)) :=
  [.arrive staleGreeting, .closeSource, .take, .noticeClosed, .signal .shutdown] ++
    List.replicate 14 (.turn 0) ++ [.join 0]

/-- A reception that ends on a signal leaves a greeting in the channel and a run to its end; one that ends
as its channel is closed has waited for the run. -/
theorem serves_each_once_greetings :
    Permits.ofConfig Crew.oneAtATime = .ok ⟨some 1, 0⟩ ∧
      (∃ shift ended : Shift (Unit × Nat),
        run? (smoothWorld.disturbed faultyRemoval) Crew.oneAtATime untilSignal
            (.new ⟨some 1, 0⟩ 1 ((), 0)) = some shift ∧
          shift.step? (smoothWorld.disturbed faultyRemoval) Crew.oneAtATime .heed = some ended ∧
          shift.crew.downloads ++ shift.reception.arrivals = arrived untilSignal ∧
          shift.crew.downloads[1]? = some staleGreeting ∧
          ∃ course : Endless (Goes (smoothWorld.disturbed faultyRemoval) Crew.oneAtATime) ended,
            (Crew.Fair (smoothWorld.disturbed faultyRemoval) Crew.oneAtATime fun now =>
              (course.state now).crew) ∧
              ∃ later, ∃ task : Task, ∃ result,
                (course.state later).crew.tasks[1]? = some task ∧
                  task.Served Crew.oneAtATime staleGreeting result) ∧
      ∃ shift ended : Shift (Unit × Nat),
        run? (smoothWorld.disturbed faultyRemoval) Crew.oneAtATime untilClosed
            (.new ⟨some 1, 0⟩ 1 ((), 0)) = some shift ∧
          shift.step? (smoothWorld.disturbed faultyRemoval) Crew.oneAtATime .finish = some ended ∧
          ended.crew.downloads = [staleGreeting] ∧
          ∀ task ∈ ended.crew.tasks,
            ∃ result,
              task.Settled Crew.oneAtATime result ∧
                task.completion.poll? = some (Receive.completion result) := by
  have given : Permits.ofConfig Crew.oneAtATime = .ok ⟨some 1, 0⟩ := rfl
  refine ⟨given, ?_, ?_⟩
  · have final :
        ((run? (smoothWorld.disturbed faultyRemoval) Crew.oneAtATime untilSignal
            (.new ⟨some 1, 0⟩ 1 ((), 0))).bind fun shift =>
          (shift.step? (smoothWorld.disturbed faultyRemoval) Crew.oneAtATime .heed).bind fun ended =>
            (run? (smoothWorld.disturbed faultyRemoval) Crew.oneAtATime
              (List.replicate 17 (.turn 1)) ended).map fun after =>
                (shift.crew.downloads[1]?, after.crew.tasks.all (·.stage.isEnded))) =
          some (some staleGreeting, true) := by
      decide +kernel
    obtain ⟨shift, ran, final⟩ := Option.bind_eq_some_iff.mp final
    obtain ⟨ended, heeded, final⟩ := Option.bind_eq_some_iff.mp final
    obtain ⟨after, ranOn, same⟩ := Option.map_eq_some_iff.mp final
    simp only [Prod.mk.injEq, List.all_eq_true] at same
    obtain ⟨second, atEnd⟩ := same
    obtain ⟨course, fair⟩ :=
      exists_fair_of_run? ranOn fun task member => Stage.eq_ended_of_isEnded (atEnd task member)
    obtain ⟨handed, _, heeds⟩ :=
      serves_each_once (smoothWorld.disturbed faultyRemoval) given 1 ((), 0) ran
    exact ⟨shift, ended, ran, heeded, handed, second, course, fair,
      (heeds ended heeded).2 course fair 1 staleGreeting second⟩
  · have final :
        ((run? (smoothWorld.disturbed faultyRemoval) Crew.oneAtATime untilClosed
            (.new ⟨some 1, 0⟩ 1 ((), 0))).bind fun shift =>
          (shift.step? (smoothWorld.disturbed faultyRemoval) Crew.oneAtATime .finish).map
            fun ended => ended.crew.downloads) =
          some [staleGreeting] := by
      decide +kernel
    obtain ⟨shift, ran, final⟩ := Option.bind_eq_some_iff.mp final
    obtain ⟨ended, finished, downloads⟩ := Option.map_eq_some_iff.mp final
    obtain ⟨_, finishes, _⟩ :=
      serves_each_once (smoothWorld.disturbed faultyRemoval) given 1 ((), 0) ran
    exact ⟨shift, ended, ran, finished, downloads, (finishes ended finished).2⟩

end Shift

end MmsInbox.Receive
