import MmsInbox.Ack.Settle
import MmsInbox.Ack.Submission
import MmsInbox.Program.Mirror

namespace MmsInbox

/-!
# Settling is a run

A lane that is left alone goes on in steps of its worker (`Lane.reaches_settle`), and tasks that are submitted
all at once are pushed one by one. So both are runs among submitters (`Submitters.run?_settle`,
`Submitters.run?_submitAll`), and what holds of all runs holds of them. If no question has to wait, a lane that
has settled has nothing left to do (`Lane.step?_settle`).
-/

namespace Program

/-- A program that never has to wait is advanced to its end. -/
theorem hasEnded_advance
    {σ α : Type}
    (environment : Environment σ)
    (program : Program α)
    (state : σ) :
    (program.advance environment (fun _ => false) state).1.hasEnded = true := by
  induction program generalizing state with
  | done value => rfl
  | unwound panic => rfl
  | ask call answered panicked answeredEnds panickedEnds =>
      simp only [advance, Bool.false_eq_true, ↓reduceIte]
      rcases environment.answer call state with ⟨panic | answer, later⟩
      · exact panickedEnds panic later
      · exact answeredEnds answer later
  | act action next nextEnds => exact nextEnds _ _

end Program

namespace Lane

variable
  {σ : Type}
  {environment : Environment σ}
  {settings : AckSettings}

/-- The worker of a lane gets from one state to another in a number of steps. -/
inductive Reaches
    (environment : Environment σ)
    (settings : AckSettings) :
    Lane → σ → Lane → σ → Prop where
  | here
      (lane : Lane)
      (state : σ) :
      Reaches environment settings lane state lane state
  | step
      {lane next last : Lane}
      {state later final : σ}
      (stepped : lane.step? environment settings state = some (next, later))
      (onward : Reaches environment settings next later last final) :
      Reaches environment settings lane state last final

theorem Reaches.trans
    {lane next last : Lane}
    {state later final : σ}
    (first : Reaches environment settings lane state next later)
    (second : Reaches environment settings next later last final) :
    Reaches environment settings lane state last final := by
  induction first with
  | here lane state => exact second
  | step stepped _ inductionHypothesis => exact .step stepped (inductionHypothesis second)

theorem step?_of_sending
    {lane : Lane}
    {rest remaining : Program Unit}
    {draining : Bool}
    {state later : σ}
    (sending : lane.worker = .sending rest draining)
    (stepped : rest.step? environment state = some (remaining, later)) :
    lane.step? environment settings state = some (lane.afterSend remaining draining, later) := by
  simp [step?, sending, stepped]

/-- A send that is not over goes on as it would have. -/
theorem reaches_afterSend
    {waits : Call → Bool}
    {remaining : Program Unit}
    {draining : Bool}
    (goesOn :
      ∀ (lane : Lane) (state : σ),
        lane.worker = .sending remaining draining →
          Reaches environment settings lane state
            (lane.afterSend (remaining.advance environment waits state).1 draining)
            (remaining.advance environment waits state).2)
    (lane : Lane)
    (state : σ) :
    Reaches environment settings (lane.afterSend remaining draining) state
      (lane.afterSend (remaining.advance environment waits state).1 draining)
      (remaining.advance environment waits state).2 := by
  cases remaining with
  | done value => exact .here _ _
  | unwound panic => exact .here _ _
  | ask call answered panicked =>
      have onward :=
        goesOn { lane with worker := .sending (.ask call answered panicked) draining } state rfl
      generalize (Program.ask call answered panicked).advance environment waits state = reached
        at onward ⊢
      obtain ⟨rest, later⟩ := reached
      cases rest <;> exact onward
  | act action next =>
      have onward := goesOn { lane with worker := .sending (.act action next) draining } state rfl
      generalize (Program.act action next).advance environment waits state = reached
        at onward ⊢
      obtain ⟨rest, later⟩ := reached
      cases rest <;> exact onward

/-- The worker goes on with a send up to a question that has to wait, or to the end of the send. -/
theorem reaches_advance
    {draining : Bool}
    (waits : Call → Bool)
    (rest : Program Unit) :
    ∀ (lane : Lane) (state : σ),
      lane.worker = .sending rest draining →
        Reaches environment settings lane state
          (lane.afterSend (rest.advance environment waits state).1 draining)
          (rest.advance environment waits state).2 := by
  induction rest with
  | done value =>
      intro lane state sending
      have atEnd :
          lane.step? environment settings state =
            some (lane.afterSend (.done value) draining, state) := by
        simp [step?, sending, Program.step?]
      exact .step atEnd (.here _ _)
  | unwound panic =>
      intro lane state sending
      have atEnd :
          lane.step? environment settings state =
            some (lane.afterSend (.unwound panic) draining, state) := by
        simp [step?, sending, Program.step?]
      exact .step atEnd (.here _ _)
  | ask call answered panicked answeredReaches panickedReaches =>
      intro lane state sending
      simp only [Program.advance]
      split
      · have same : lane.afterSend (.ask call answered panicked) draining = lane := by
          simp [afterSend, ← sending]
        exact same ▸ .here _ _
      · rcases asked : environment.answer call state with ⟨panic | answer, later⟩
        · exact .step (step?_of_sending sending (by simp [Program.step?, asked]))
            (reaches_afterSend (panickedReaches panic) lane later)
        · exact .step (step?_of_sending sending (by simp [Program.step?, asked]))
            (reaches_afterSend (answeredReaches answer) lane later)
  | act action next nextReaches =>
      intro lane state sending
      exact .step (step?_of_sending sending (by simp [Program.step?]))
        (reaches_afterSend (nextReaches _) lane _)

theorem step?_of_idle
    {lane : Lane}
    {state : σ}
    (idle : ∀ rest draining, lane.worker = .sending rest draining → False) :
    lane.step? environment settings state = lane.move? environment settings state := by
  unfold step?
  split
  · exact (idle _ _ ‹_›).elim
  · rfl

/-- A worker that is left alone goes on in steps. -/
theorem reaches_settle
    (waits : Call → Bool)
    (lane : Lane)
    (state : σ) :
    Reaches environment settings lane state
      (lane.settle environment settings waits state).1
      (lane.settle environment settings waits state).2 := by
  fun_induction settle environment settings waits lane state with
  | case1 lane state rest draining busy remaining later advanced _ inductionHypothesis =>
      have onward : Reaches environment settings lane state _ _ :=
        reaches_advance waits rest lane state busy
      rw [advanced] at onward
      exact onward.trans inductionHypothesis
  | case2 lane state rest draining busy remaining later advanced _ =>
      have onward : Reaches environment settings lane state _ _ :=
        reaches_advance waits rest lane state busy
      rwa [advanced] at onward
  | case3 lane state next later moved idle inductionHypothesis =>
      exact .step ((step?_of_idle idle).trans moved) inductionHypothesis
  | case4 lane state _ _ => exact .here lane state

/-- A worker with nothing left to do waits for work, or has ended. -/
theorem idle_of_step?
    {lane : Lane}
    {state : σ}
    (resting : lane.step? environment settings state = none) :
    lane.worker = .waiting ∧ lane.queue = [] ∧ lane.handles ≠ 0 ∨ lane.hasEnded = true := by
  unfold step? move? at resting
  cases doing : lane.worker with
  | waiting =>
      simp only [doing] at resting
      cases received : lane.signals.receive? with
      | some heard => simp [received] at resting
      | none =>
          cases queued : lane.queue with
          | cons task later => simp [received, queued] at resting
          | nil =>
              by_cases unhandled : lane.handles = 0
              · simp [received, queued, unhandled] at resting
              · exact .inl ⟨rfl, rfl, unhandled⟩
  | sending rest draining =>
      simp only [doing] at resting
      split at resting <;> cases resting
  | draining => cases queued : lane.queue <;> simp [doing, queued] at resting
  | discarding => cases queued : lane.queue <;> simp [doing, queued] at resting
  | stopped => exact .inr (by simp [hasEnded, doing])
  | panicked panic => exact .inr (by simp [hasEnded, doing])

/-- If no question has to wait, a worker that is left alone goes on until it has nothing left to do. -/
theorem step?_settle
    (lane : Lane)
    (state : σ) :
    (lane.settle environment settings (fun _ => false) state).1.step? environment settings
        (lane.settle environment settings (fun _ => false) state).2 =
      none := by
  fun_induction settle environment settings (fun _ => false) lane state with
  | case1 lane state rest draining busy remaining later advanced _ inductionHypothesis =>
      exact inductionHypothesis
  | case2 lane state rest draining busy remaining later advanced going =>
      have ended := rest.hasEnded_advance environment state
      rw [advanced] at ended
      exact absurd ended going
  | case3 lane state next later moved idle inductionHypothesis => exact inductionHypothesis
  | case4 lane state still idle => exact (step?_of_idle idle).trans still

/-- A worker makes the same step in a mirror. -/
theorem step?_of_mirrors
    {τ : Type}
    {image : σ → τ}
    {mirror : Environment τ}
    (mirrors : environment.Mirrors image mirror)
    (settings : AckSettings)
    (lane : Lane)
    (state : σ) :
    lane.step? mirror settings (image state) =
      (lane.step? environment settings state).map (Prod.map id image) := by
  unfold step? move?
  cases lane.worker with
  | waiting =>
      rcases lane.signals.receive? with _ | ⟨news, signals⟩
      · cases lane.queue with
        | nil => dsimp only; split <;> rfl
        | cons task later => rfl
      · rcases news with loss | signal
        · simp [heed, mirrors.noted]
        · cases signal <;> rfl
  | sending rest draining =>
      simp only [Program.step?_of_mirrors mirrors]
      cases rest.step? environment state <;> rfl
  | draining => cases lane.queue <;> rfl
  | discarding =>
      cases lane.queue with
      | nil => rfl
      | cons task later => simp [mirrors.noted]
  | stopped => rfl
  | panicked panic => rfl

/-- Keeping a record of what happens changes nothing for the worker. -/
theorem step?_recorded
    (lane : Lane)
    (state : σ)
    (record : History) :
    (lane.step? environment.recorded settings (state, record)).map
        (fun (next, later, _) => (next, later)) =
      lane.step? environment settings state :=
  (step?_of_mirrors environment.mirrors_of_recorded settings lane (state, record)).symm

end Lane

namespace Submitters

variable
  {σ : Type}
  {surroundings : Surroundings σ}
  {settings : AckSettings}

theorem step?_work
    {submitters : Submitters σ}
    {next : Lane}
    {later : σ}
    (stepped :
      submitters.traffic.lane.step? surroundings.lane settings submitters.traffic.world =
        some (next, later)) :
    ∃ after,
      submitters.step? surroundings settings .work = some after ∧
        after.submissions = submitters.submissions ∧
        after.traffic.lane = next ∧ after.traffic.world = later := by
  rw [← Lane.step?_recorded _ _ submitters.traffic.record] at stepped
  obtain ⟨⟨_, _, record⟩, recorded, same⟩ := Option.map_eq_some_iff.mp stepped
  cases same
  simp [Submitters.step?, pass?, Traffic.step?, Traffic.work?, recorded]

/-- What the worker of the lane reaches, it reaches among submitters. -/
theorem run?_of_reaches
    {lane next : Lane}
    {state later : σ}
    (reaches : lane.Reaches surroundings.lane settings state next later)
    {submitters : Submitters σ}
    (sameLane : submitters.traffic.lane = lane)
    (sameWorld : submitters.traffic.world = state) :
    ∃ count reached,
      run? surroundings settings (List.replicate count .work) submitters = some reached ∧
        reached.submissions = submitters.submissions ∧
        reached.traffic.lane = next ∧ reached.traffic.world = later := by
  induction reaches generalizing submitters with
  | here lane state => exact ⟨0, submitters, rfl, rfl, sameLane, sameWorld⟩
  | step stepped _ inductionHypothesis =>
      subst sameLane sameWorld
      obtain ⟨after, worked, submissions, lane, world⟩ := step?_work stepped
      obtain ⟨count, reached, ran, kept, arrived⟩ := inductionHypothesis lane world
      exact ⟨count + 1, reached, Option.bind_eq_some_iff.mpr ⟨after, worked, ran⟩,
        kept.trans submissions, arrived⟩

/-- A settling of the lane is a run among submitters in which only the worker moves. -/
theorem run?_settle
    (waits : Call → Bool)
    (submitters : Submitters σ) :
    ∃ count reached,
      run? surroundings settings (List.replicate count .work) submitters = some reached ∧
        reached.submissions = submitters.submissions ∧
        (reached.traffic.lane, reached.traffic.world) =
          submitters.traffic.lane.settle surroundings.lane settings waits
            submitters.traffic.world := by
  have reaches :
      submitters.traffic.lane.Reaches surroundings.lane settings submitters.traffic.world _ _ :=
    Lane.reaches_settle waits _ _
  obtain ⟨count, reached, ran, submissions, lane, world⟩ := run?_of_reaches reaches rfl rfl
  exact ⟨count, reached, ran, submissions, by rw [lane, world]⟩

/-- A push takes the next task off its submission, and deals with it as a submission of one task. -/
theorem step?_push
    {number : Nat}
    {tasks remaining : List AckTask}
    {task : AckTask}
    {submitters : Submitters σ}
    (present : submitters.submissions[number]? = some ⟨tasks, task :: remaining⟩) :
    ∃ after,
      submitters.step? surroundings settings (.push number) = some after ∧
        after.submissions = submitters.submissions.set number ⟨tasks, remaining⟩ ∧
        ∀ later,
          submitters.traffic.lane.submitAll surroundings.others (task :: later)
              submitters.traffic.world =
            after.traffic.lane.submitAll surroundings.others later after.traffic.world := by
  refine ⟨_, by simp [Submitters.step?, present]; rfl, rfl, fun later => ?_⟩
  unfold Traffic.push
  cases accepting : submitters.traffic.lane.accepting with
  | true => simp [Lane.submitAll, Lane.submit?, accepting]
  | false =>
      simp [Lane.submitAll, Lane.submit?, accepting]
      rfl

/-- A submission pushes its tasks one by one, as if all at once. -/
theorem run?_pushAll
    (surroundings : Surroundings σ)
    (settings : AckSettings)
    {number : Nat}
    {tasks remaining : List AckTask}
    {submitters : Submitters σ}
    (present : submitters.submissions[number]? = some ⟨tasks, remaining⟩) :
    ∃ reached,
      run? surroundings settings (List.replicate remaining.length (.push number)) submitters =
          some reached ∧
        reached.submissions = submitters.submissions.set number ⟨tasks, []⟩ ∧
        (reached.traffic.lane, reached.traffic.world) =
          submitters.traffic.lane.submitAll surroundings.others remaining
            submitters.traffic.world := by
  obtain ⟨within, shape⟩ := List.getElem?_eq_some_iff.mp present
  induction remaining generalizing submitters with
  | nil => exact ⟨submitters, rfl, by rw [← shape, List.set_getElem_self], rfl⟩
  | cons task remaining inductionHypothesis =>
      obtain ⟨after, pushed, submissions, lane⟩ := step?_push present
      have found : after.submissions[number]? = some ⟨tasks, remaining⟩ := by
        rw [submissions, List.getElem?_set_self within]
      obtain ⟨withinAfter, shapeAfter⟩ := List.getElem?_eq_some_iff.mp found
      obtain ⟨reached, ran, kept, arrived⟩ := inductionHypothesis found withinAfter shapeAfter
      refine ⟨reached, Option.bind_eq_some_iff.mpr ⟨after, pushed, ran⟩, ?_,
        arrived.trans (lane _).symm⟩
      rw [kept, submissions, List.set_set]

/-- Tasks that are submitted all at once are pushed one by one. -/
theorem run?_submitAll
    (tasks : List AckTask)
    (submitters : Submitters σ)
    (handled : submitters.traffic.lane.handles ≠ 0) :
    ∃ reached,
      run? surroundings settings
          (.submit tasks :: List.replicate tasks.length (.push submitters.submissions.length))
          submitters = some reached ∧
        reached.submissions = submitters.submissions ++ [⟨tasks, []⟩] ∧
        (reached.traffic.lane, reached.traffic.world) =
          submitters.traffic.lane.submitAll surroundings.others tasks submitters.traffic.world := by
  have begun :
      submitters.step? surroundings settings (.submit tasks) =
        some { submitters with submissions := submitters.submissions ++ [⟨tasks, tasks⟩] } :=
    if_neg handled
  have present :
      ({ submitters with
          submissions := submitters.submissions ++ [⟨tasks, tasks⟩] } :
        Submitters σ).submissions[submitters.submissions.length]? = some ⟨tasks, tasks⟩ := by
    simp
  obtain ⟨reached, ran, submissions, arrived⟩ := run?_pushAll surroundings settings present
  refine ⟨reached, Option.bind_eq_some_iff.mpr ⟨_, begun, ran⟩, ?_, arrived⟩
  simpa using submissions

end Submitters

end MmsInbox
