import MmsInbox.Ack.Submission
import MmsInbox.Proofs.Ack.Accounting
import MmsInbox.Proofs.Ack.Merging

namespace MmsInbox

/-!
# Every submitted task is accounted for

Among any number of submitters, whatever happens on and around the lane, each task that was ever submitted
is attempted, discarded, refused, still queued or still to be pushed (`Submitters.accounted_of_run?`). Once
the worker has ended nothing is queued, and what it has heard says what has become of the queue.
-/

namespace Traffic

variable {σ : Type}

@[simp] theorem push_pushes
    (environment : Environment σ)
    (owner : Nat)
    (task : AckTask)
    (traffic : Traffic σ) :
    (traffic.push environment owner task).pushes =
      traffic.pushes ++ [⟨owner, task, traffic.lane.accepting⟩] := by
  cases accepting : traffic.lane.accepting with
  | true => rw [push_of_accepting accepting]
  | false => rw [push_of_closed accepting]

theorem pushes_of_work?
    {environment : Environment σ}
    {settings : AckSettings}
    {traffic later : Traffic σ}
    (worked : traffic.work? environment settings = some later) :
    later.pushes = traffic.pushes := by
  obtain ⟨_, _, _, _, _, rfl⟩ := works_of_work? worked
  rfl

/-- Nothing but a push is entered among the pushes. -/
theorem pushes_of_step?
    {surroundings : Surroundings σ}
    {settings : AckSettings}
    {traffic later : Traffic σ}
    {move : Move σ}
    (other : ∀ owner task, move ≠ .push owner task)
    (stepped : traffic.step? surroundings settings move = some later) :
    later.pushes = traffic.pushes := by
  cases happens_of_step? stepped with
  | pushes owner task => exact absurd rfl (other owner task)
  | works worked => exact pushes_of_work? worked
  | around _ _ => rfl

/-- A push adds to what its submitter has pushed. -/
theorem pushedBy_push
    (environment : Environment σ)
    (owner number : Nat)
    (task : AckTask)
    (traffic : Traffic σ) :
    (traffic.push environment owner task).pushedBy number =
      traffic.pushedBy number ++ if owner = number then [task] else [] := by
  by_cases own : owner = number
  · simp [pushedBy, own]
  · simp [pushedBy, own]

/-- A submitter that is not known yet has pushed nothing. -/
theorem pushedBy_eq_nil
    {traffic : Traffic σ}
    {count number : Nat}
    (known : ∀ push ∈ traffic.pushes, push.owner < count)
    (fresh : count ≤ number) :
    traffic.pushedBy number = [] := by
  refine List.map_eq_nil_iff.mpr (List.filter_eq_nil_iff.mpr fun push member => ?_)
  have owner := known push member
  simp only [decide_eq_true_eq]
  omega

/-- Every push was accepted or refused. -/
theorem pushes_perm (traffic : Traffic σ) :
    (traffic.pushes.map (·.task)).Perm (traffic.accepted ++ traffic.refused) := by
  simp only [accepted, refused, ← List.map_append]
  exact (List.filter_append_perm (·.accepted) traffic.pushes).symm.map _

theorem accepted_of_unrefused
    {traffic : Traffic σ}
    (unrefused : traffic.refused = []) :
    traffic.accepted = traffic.pushes.map (·.task) := by
  have taken : ∀ push ∈ traffic.pushes, push.accepted = true := by
    simpa [refused] using unrefused
  rw [accepted, List.filter_eq_self.mpr taken]

end Traffic

namespace Submitters

variable {σ : Type}

/-- Nothing is broadcast by the move, and the sender of signals stays. -/
def Move.isSilent : Move σ → Bool
  | .signal _ => false
  | .disconnect => false
  | _ => true

/-- What can happen among submitters: a submission begins, it pushes its next task, or something other than a
push happens on or around the lane. -/
inductive Happens
    (surroundings : Surroundings σ)
    (settings : AckSettings)
    (submitters : Submitters σ) :
    Move σ → Submitters σ → Prop where
  | submits (tasks : List AckTask) :
      Happens surroundings settings submitters (.submit tasks)
        { submitters with submissions := submitters.submissions ++ [⟨tasks, tasks⟩] }
  | pushes
      {number : Nat}
      {tasks remaining : List AckTask}
      {task : AckTask}
      (present : submitters.submissions[number]? = some ⟨tasks, task :: remaining⟩) :
      Happens surroundings settings submitters (.push number)
        { traffic := submitters.traffic.push surroundings.others number task
          submissions := submitters.submissions.set number ⟨tasks, remaining⟩ }
  | passes
      {move : Move σ}
      {onLane : Traffic.Move σ}
      {traffic : Traffic σ}
      (other : ∀ owner task, onLane ≠ .push owner task)
      (silent : move.isSilent = true → onLane.isSilent = true)
      (stepped : submitters.traffic.step? surroundings settings onLane = some traffic) :
      Happens surroundings settings submitters move { submitters with traffic := traffic }

/-- Whatever happens is one of these. -/
theorem happens_of_step?
    {surroundings : Surroundings σ}
    {settings : AckSettings}
    {submitters later : Submitters σ}
    {move : Move σ}
    (stepped : submitters.step? surroundings settings move = some later) :
    Happens surroundings settings submitters move later := by
  have passes :
      ∀ {onLane : Traffic.Move σ}, (∀ owner task, onLane ≠ .push owner task) →
        (move.isSilent = true → onLane.isSilent = true) →
        submitters.pass? surroundings settings onLane = some later →
        Happens surroundings settings submitters move later := by
    intro onLane other silent passed
    simp only [pass?, Option.map_eq_some_iff] at passed
    obtain ⟨traffic, moved, rfl⟩ := passed
    exact .passes other silent moved
  cases move with
  | submit tasks =>
      simp only [step?] at stepped
      split at stepped
      · cases stepped
      · obtain rfl := Option.some.inj stepped
        exact .submits tasks
  | push number =>
      simp only [step?] at stepped
      split at stepped
      · obtain rfl := Option.some.inj stepped
        exact .pushes ‹_›
      · cases stepped
  | clone => exact passes (by simp) id stepped
  | drop =>
      simp only [step?] at stepped
      split at stepped
      · cases stepped
      · exact passes (by simp) id stepped
  | signal signal => exact passes (by simp) id stepped
  | disconnect => exact passes (by simp) id stepped
  | work => exact passes (by simp) id stepped
  | elsewhere change => exact passes (by simp) id stepped

/-- What holds of submitters at all times. -/
structure Kept
    (settings : AckSettings)
    (submitters : Submitters σ) :
    Prop where
  accounts : submitters.traffic.record.Calm → submitters.traffic.Accounts settings
  owned
    {number : Nat}
    {submission : Submission}
    (present : submitters.submissions[number]? = some submission) :
    submission.tasks = submitters.traffic.pushedBy number ++ submission.remaining
  known
    {push : Push}
    (member : push ∈ submitters.traffic.pushes) :
    push.owner < submitters.submissions.length
  whole :
    submitters.submitted.Perm (submitters.traffic.pushes.map (·.task) ++ submitters.unpushed)

theorem remaining_perm_of_set
    {submissions : List Submission}
    {number : Nat}
    {tasks remaining : List AckTask}
    {task : AckTask}
    (present : submissions[number]? = some ⟨tasks, task :: remaining⟩) :
    (submissions.flatMap Submission.remaining).Perm
      (task :: (submissions.set number ⟨tasks, remaining⟩).flatMap Submission.remaining) := by
  have head : (submissions.map Submission.remaining)[number]? = some (task :: remaining) := by
    simp [present]
  simpa [List.flatMap_def, List.map_set] using flatten_perm_of_set head

theorem tasks_of_set
    {submissions : List Submission}
    {number : Nat}
    {tasks remaining left : List AckTask}
    (present : submissions[number]? = some ⟨tasks, remaining⟩) :
    (submissions.set number ⟨tasks, left⟩).flatMap Submission.tasks =
      submissions.flatMap Submission.tasks := by
  induction submissions generalizing number with
  | nil => simp at present
  | cons submission later inductionHypothesis =>
      cases number with
      | zero =>
          obtain rfl := Option.some.inj present
          simp
      | succ number =>
          have found : later[number]? = some ⟨tasks, remaining⟩ := by simpa using present
          have same := inductionHypothesis found
          simp [same]

namespace Kept

variable
  {surroundings : Surroundings σ}
  {settings : AckSettings}
  {submitters later : Submitters σ}

theorem new
    (signalCapacity : Nat)
    (world : σ) :
    (Submitters.new signalCapacity world).Kept settings where
  accounts _ := .new signalCapacity world
  owned present := by simp [Submitters.new] at present
  known member := by simp [Submitters.new, Traffic.new] at member
  whole := by simp [Submitters.new, Traffic.new, submitted, unpushed]

/-- What is no push leaves the submissions as they are. -/
theorem pass
    {move : Traffic.Move σ}
    {traffic : Traffic σ}
    (kept : submitters.Kept settings)
    (other : ∀ owner task, move ≠ .push owner task)
    (stepped : submitters.traffic.step? surroundings settings move = some traffic) :
    Kept settings { submitters with traffic := traffic } := by
  have same := Traffic.pushes_of_step? other stepped
  refine ⟨fun calm => ?_, fun present => ?_, fun member => ?_, ?_⟩
  · obtain ⟨more, grown⟩ := Traffic.record_of_step? stepped
    have calmBefore : submitters.traffic.record.Calm := by
      rw [show (traffic.record : History) = submitters.traffic.record ++ more from grown] at calm
      exact ((History.calm_append _ _).mp calm).1
    exact (kept.accounts calmBefore).step stepped calm
  · simpa [Traffic.pushedBy, same] using kept.owned present
  · exact kept.known (same ▸ member)
  · simpa [submitted, unpushed, same] using kept.whole

/-- A submission that begins has all its tasks before it. -/
theorem submit
    (kept : submitters.Kept settings)
    (tasks : List AckTask) :
    Kept settings { submitters with submissions := submitters.submissions ++ [⟨tasks, tasks⟩] } where
  accounts := kept.accounts
  owned {number submission} present := by
    rcases Nat.lt_or_ge number submitters.submissions.length with old | fresh
    · rw [List.getElem?_append_left old] at present
      exact kept.owned present
    · rw [List.getElem?_append_right fresh, List.getElem?_singleton] at present
      split at present
      · obtain rfl := Option.some.inj present
        have unpushed : submitters.traffic.pushedBy number = [] :=
          Traffic.pushedBy_eq_nil (fun _ => kept.known) fresh
        simp [unpushed]
      · simp at present
  known member := by
    have before := kept.known member
    simp only [List.length_append, List.length_singleton]
    omega
  whole := by
    have before := kept.whole
    simp only [submitted, Submitters.unpushed, List.flatMap_append, List.flatMap_singleton,
      ← List.append_assoc] at before ⊢
    exact before.append_right tasks

/-- A submission pushes its next task. -/
theorem push
    {number : Nat}
    {tasks remaining : List AckTask}
    {task : AckTask}
    (kept : submitters.Kept settings)
    (present : submitters.submissions[number]? = some ⟨tasks, task :: remaining⟩) :
    Kept settings
      { traffic := submitters.traffic.push surroundings.others number task
        submissions := submitters.submissions.set number ⟨tasks, remaining⟩ } where
  accounts calm :=
    (kept.accounts (by simpa using calm)).push number task
  owned {other submission} found := by
    have handed := kept.owned present
    rw [Traffic.pushedBy_push]
    by_cases own : number = other
    · subst own
      have within := (List.getElem?_eq_some_iff.mp present).1
      rw [List.getElem?_set_self within] at found
      obtain rfl := Option.some.inj found
      simpa using handed
    · rw [List.getElem?_set_ne own] at found
      simpa [own] using kept.owned found
  known {push} member := by
    simp only [Traffic.push_pushes, List.mem_append, List.mem_singleton, List.length_set] at member ⊢
    rcases member with earlier | rfl
    · exact kept.known earlier
    · exact (List.getElem?_eq_some_iff.mp present).1
  whole := by
    have moved := remaining_perm_of_set present
    have same : (submitters.submissions.set number ⟨tasks, remaining⟩).flatMap Submission.tasks =
        submitters.submitted := tasks_of_set present
    simp only [submitted, unpushed, Traffic.push_pushes, List.map_append, List.map_cons,
      List.map_nil, same, List.append_assoc, List.singleton_append]
    exact kept.whole.trans (moved.append_left _)

/-- Whatever happens, it is kept. -/
theorem step
    {move : Move σ}
    (kept : submitters.Kept settings)
    (stepped : submitters.step? surroundings settings move = some later) :
    later.Kept settings := by
  cases happens_of_step? stepped with
  | submits tasks => exact kept.submit tasks
  | pushes present => exact kept.push present
  | passes other _ passed => exact kept.pass other passed

/-- Whatever happens one after another, it is kept. -/
theorem run
    {moves : List (Move σ)}
    (kept : submitters.Kept settings)
    (ran : run? surroundings settings moves submitters = some later) :
    later.Kept settings := by
  induction moves generalizing submitters with
  | nil =>
      obtain rfl := Option.some.inj ran
      exact kept
  | cons move moves inductionHypothesis =>
      obtain ⟨next, stepped, ranOn⟩ := Option.bind_eq_some_iff.mp ran
      exact inductionHypothesis (kept.step stepped) ranOn

end Kept

/-- The tasks among submitters are accounted for, each of them once. -/
structure Accounted
    (submitters : Submitters σ) :
    Prop where
  /-- In the order in which the queue accepted them, tasks are attempted, then discarded, then queued. -/
  inOrder :
    submitters.traffic.accepted =
      submitters.traffic.attempted ++ submitters.traffic.discarded ++
        submitters.traffic.lane.queue
  /-- At most one send is going on. -/
  oneAtATime :
    submitters.traffic.attempted.length =
      submitters.traffic.sendsOver + if submitters.traffic.lane.isSending then 1 else 0
  /-- A submission has pushed its tasks in order, up to those that it has still to push. -/
  inTurn
    {number : Nat}
    {submission : Submission}
    (present : submitters.submissions[number]? = some submission) :
    submission.tasks = submitters.traffic.pushedBy number ++ submission.remaining
  /-- Every task is in one place. -/
  onceEach :
    submitters.submitted.Perm
      (submitters.traffic.attempted ++ submitters.traffic.discarded ++
        submitters.traffic.lane.queue ++ submitters.traffic.refused ++ submitters.unpushed)
  /-- For every discarded task, and for no other, the worker has written a notice. -/
  discardsTold :
    submitters.traffic.record.filter losses.sees =
      submitters.traffic.discarded.map Chronicle.dropNotice
  /-- For every refused task, and for no other, its submitter has written a notice. -/
  refusalsTold :
    submitters.traffic.notes = submitters.traffic.refused.map Traffic.refusalNotice
  /-- After a shutdown or a loss of signals was heard, no attempt has begun. -/
  obedient
    {before after : List LaneEvent}
    {news : Except SignalLoss Signal}
    (shape : submitters.traffic.log = before ++ .heard news :: after)
    (serious : news ≠ .ok .finalised) :
    after.filterMap LaneEvent.attempted? = []

/-- The worker has ended, and nothing has been left behind. -/
structure Settled
    (settings : AckSettings)
    (submitters : Submitters σ) :
    Prop where
  /-- Every task that was pushed has been attempted, discarded or refused. -/
  onceEach :
    submitters.submitted.Perm
      (submitters.traffic.attempted ++ submitters.traffic.discarded ++
        submitters.traffic.refused ++ submitters.unpushed)
  /-- Every attempt was a whole delivery. -/
  chronicle : Chronicle settings submitters.traffic.log submitters.traffic.record
  sendsOver : submitters.traffic.sendsOver = submitters.traffic.attempted.length
  /-- The worker has ended because the handles are gone or because of what it has heard. -/
  cause :
    submitters.traffic.news = [] ∧ submitters.traffic.lane.handles = 0 ∨
      ∃ order, submitters.traffic.news = [order]
  /-- Nothing was discarded because the handles are gone or because of the order to finish. -/
  spared :
    submitters.traffic.news = [] ∨ submitters.traffic.news = [.ok .finalised] →
      submitters.traffic.discarded = []

/-- As long as nobody panics in the worker's dealings with the world, the tasks are accounted for. -/
theorem Kept.accounted
    {settings : AckSettings}
    {submitters : Submitters σ}
    (kept : submitters.Kept settings)
    (calm : submitters.traffic.record.Calm) :
    submitters.Accounted := by
  have accounts := kept.accounts calm
  refine ⟨accounts.balanced, accounts.chronicled.attempts_over calm, kept.owned, ?_,
    accounts.chronicled.losses_told calm, accounts.noted, accounts.obedient _ _ _⟩
  have pushed :
      (submitters.traffic.pushes.map (·.task)).Perm
        (submitters.traffic.attempted ++ submitters.traffic.discarded ++
          submitters.traffic.lane.queue ++ submitters.traffic.refused) := by
    have split := submitters.traffic.pushes_perm
    rwa [accounts.balanced] at split
  exact kept.whole.trans (pushed.append_right _)

/-- When the worker has ended without a panic, nothing has been left behind. -/
theorem Kept.settled
    {settings : AckSettings}
    {submitters : Submitters σ}
    (kept : submitters.Kept settings)
    (calm : submitters.traffic.record.Calm)
    (ended : submitters.traffic.lane.hasEnded = true) :
    submitters.Settled settings := by
  have accounted := kept.accounted calm
  obtain ⟨chronicle, empty, cause, spared⟩ := (kept.accounts calm).of_hasEnded calm ended
  refine ⟨?_, chronicle, chronicle.attempts_over.symm, cause, spared⟩
  simpa [empty] using accounted.onceEach

/-- Among any number of submitters, whatever happens on and around a new lane and in whatever order, all
tasks are accounted for as long as nobody panics in the worker's dealings with the world; and once the
worker has ended, nothing has been left behind. -/
theorem accounted_of_run?
    (surroundings : Surroundings σ)
    (settings : AckSettings)
    (signalCapacity : Nat)
    (world : σ)
    (moves : List (Move σ))
    {submitters : Submitters σ}
    (ran : run? surroundings settings moves (.new signalCapacity world) = some submitters)
    (calm : submitters.traffic.record.Calm) :
    submitters.Accounted ∧
      (submitters.traffic.lane.hasEnded = true → submitters.Settled settings) := by
  have kept : submitters.Kept settings := (Kept.new signalCapacity world).run ran
  exact ⟨kept.accounted calm, kept.settled calm⟩

/-- A world in which no unit can be composed, so that every delivery fails at once. -/
def mute : Environment Unit where
  answer call _ :=
    match call with
    | .compose _ => (.ok (.error (.truncated 0)), ())
    | _ => (.error ⟨"out of reach"⟩, ())
  perform action _ :=
    match action with
    | .readFile _ => (.ok [], ())
    | .removeFile _ => (.ok (), ())
    | .finishDownload _ => (none, ())
    | .audit _ => ((), ())
    | .note _ => ((), ())

/-- The response to a notification. -/
def response (transactionId : String) : AckTask where
  attempt := .notificationResponse transactionId
  location := "http://relay.example/" ++ transactionId
  subscription := .standard

/-- Nobody can compose anything. -/
def muteness : Surroundings Unit :=
  ⟨mute, mute⟩

/-- Two submitters and a shutdown while the first task is being sent: one task more is queued and one comes
too late. -/
def rush : List (Move Unit) :=
  [.submit [response "a", response "b"], .clone, .submit [response "c"],
    .push 0, .work, .push 1, .signal .shutdown, .work, .work, .work, .work, .push 0, .work, .work]

/-- In the rush nobody panics, and the worker ends. -/
theorem rush_ends :
    (run? muteness .standard rush (.new 1 ())).any (fun submitters =>
      submitters.traffic.record.all (!·.isPanic) && submitters.traffic.lane.hasEnded) = true := by
  decide +kernel

/-- All tasks of the rush are accounted for, and nothing has been left behind. -/
theorem accounted_of_rush :
    ∃ submitters,
      run? muteness .standard rush (.new 1 ()) = some submitters ∧
        submitters.traffic.record.Calm ∧
        submitters.traffic.lane.hasEnded = true ∧
        submitters.Accounted ∧
          (submitters.traffic.lane.hasEnded = true → submitters.Settled .standard) := by
  obtain ⟨submitters, ran, holds⟩ := (Option.any_eq_true _ _).mp rush_ends
  obtain ⟨quiet, ended⟩ := Bool.and_eq_true_iff.mp holds
  have calm : submitters.traffic.record.Calm := by
    intro event member
    simpa using List.all_eq_true.mp quiet event member
  exact ⟨submitters, ran, calm, ended, accounted_of_run? muteness .standard 1 () rush ran calm⟩

end Submitters

end MmsInbox
