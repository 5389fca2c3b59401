import Mathlib.Tactic.ByContra
import MmsInbox.Endless
import MmsInbox.Proofs.Receive.Releasing
import MmsInbox.Proofs.Receive.Tasks

namespace MmsInbox.Receive

/-!
# Permits that come back and completions that resolve

A crew may go on for ever, and more downloads may be received all the time. If every task that can do
something again and again gets its turn in the end (`Crew.Fair`), then every task comes to its end
(`Crew.exists_ended`). A task in the middle of its run gets there as the run is finite whatever it is
answered. A task that waits gets a permit in the end, because whoever holds one gives it back.

Together with what holds at all times this says that the bound is kept, that no permit is lost, and that
every completion resolves once (`Crew.orderly_and_settled`).
-/

open Program

namespace Stage

/-- One stage follows another. -/
inductive Follows : Stage → Stage → Prop where
  | admitted (run : Program Outcome) :
      Follows .waiting (.working run)
  | advanced
      {rest further : Program Outcome}
      {event : Event}
      (leads : Leads rest [event] further) :
      Follows (.working rest) (.working further)
  | finished (outcome : Outcome) :
      Follows (.working (.done outcome)) .finished
  | unwound (panic : Panic) :
      Follows (.working (.unwound panic)) .unwinding
  | released : Follows .finished .ended
  | dropped : Follows .unwinding .ended

/-- There is something to do that does not need a permit first. -/
def IsMoving (stage : Stage) : Prop :=
  stage ≠ .waiting ∧ stage ≠ .ended

/-- Whoever holds a permit has something to do. -/
theorem isMoving_of_holdsPermit
    {stage : Stage}
    (holds : stage.holdsPermit = true) :
    stage.IsMoving := by
  constructor
  · rintro rfl
    cases holds
  · rintro rfl
    cases holds

end Stage

namespace Task

variable
  {σ : Type}
  {environment : Environment σ}
  {config : Config}
  {permits left : Permits}
  {world later : σ}
  {task next : Task}

theorem Turns.follows
    (turns : task.Turns environment config permits world next left later) :
    task.stage.Follows next.stage := by
  cases turns with
  | admitted waiting acquired =>
      rw [waiting]
      exact .admitted _
  | advanced working stepped =>
      obtain ⟨event, _, leads⟩ := step?_recorded stepped
      rw [working]
      exact .advanced leads
  | finished working =>
      rw [working]
      exact .finished _
  | unwound working =>
      rw [working]
      exact .unwound _
  | released finished =>
      rw [finished]
      exact .released
  | dropped unwinding =>
      rw [unwinding]
      exact .dropped

/-- A task that waits can go on once there is a permit. -/
theorem turn?_eq_none_of_waiting
    (waiting : task.stage = .waiting)
    (stuck : task.turn? environment config permits world = none) :
    permits.acquire? = none := by
  rw [turn?, waiting] at stuck
  exact Option.map_eq_none_iff.mp stuck

/-- A task that has something to do can go on at once. -/
theorem turn?_ne_none_of_isMoving
    (environment : Environment σ)
    (config : Config)
    (permits : Permits)
    (world : σ)
    (moving : task.stage.IsMoving) :
    task.turn? environment config permits world ≠ none := by
  intro stuck
  cases reached : task.stage with
  | waiting => exact moving.1 reached
  | ended => exact moving.2 reached
  | finished =>
      rw [turn?, reached] at stuck
      cases stuck
  | unwinding =>
      rw [turn?, reached] at stuck
      cases stuck
  | working rest =>
      rw [turn?, reached] at stuck
      cases rest with
      | done outcome => cases stuck
      | unwound panic => cases stuck
      | act action answered => cases stuck
      | ask call answered panicked =>
          rcases asked : environment.answer call world with ⟨panic | answer, later⟩
          · simp only [work?, step?, Environment.recorded_answer_of_error asked] at stuck
            cases stuck
          · simp only [work?, step?, Environment.recorded_answer_of_ok asked] at stuck
            cases stuck

/-- The completion of a task has yet to resolve. -/
structure Pending (task : Task) : Prop where
  unended : task.stage ≠ .ended
  unsignalled : task.completion.signalled = []
  unresolved : task.completion.poll? = none

/-- The run of a task has ended. The completion has been signalled once, with what the run came to, and
that is what somebody who waits gets to know. -/
structure Settled
    (config : Config)
    (task : Task)
    (result : Except Panic Outcome) :
    Prop where
  course : Leads (task.run config) task.record (ended result)
  signalled : task.completion.signalled = [Receive.completion result]
  resolved
    (awaited : task.completion.awaited = true) :
    task.completion.poll? = some (Receive.completion result)

/-- A task that is over has settled its completion. -/
theorem Sound.settled_of_ended
    (sound : task.Sound config)
    (atEnd : task.stage = .ended) :
    ∃ result, task.Settled config result := by
  obtain ⟨result, course, tells⟩ := sound.at_stage atEnd
  exact ⟨result, course, tells.signalled, tells.poll?_eq⟩

/-- A completion is pending until it is settled. -/
theorem Sound.pending_or_settled (sound : task.Sound config) :
    task.Pending ∨ ∃ result, task.Settled config result := by
  have unended {stage : Stage} (reached : task.stage = stage) (other : stage ≠ .ended) :
      task.stage ≠ .ended :=
    reached ▸ other
  cases reached : task.stage with
  | waiting =>
      obtain ⟨_, fresh⟩ := sound.at_stage reached
      exact .inl ⟨unended reached nofun, fresh.unsignalled, fresh.poll?_eq⟩
  | working rest =>
      obtain ⟨_, fresh⟩ := sound.at_stage reached
      exact .inl ⟨unended reached nofun, fresh.unsignalled, fresh.poll?_eq⟩
  | unwinding =>
      obtain ⟨_, _, fresh⟩ := sound.at_stage reached
      exact .inl ⟨unended reached nofun, fresh.unsignalled, fresh.poll?_eq⟩
  | finished =>
      obtain ⟨outcome, course, tells⟩ := sound.at_stage reached
      exact .inr ⟨.ok outcome, course, tells.signalled, tells.poll?_eq⟩
  | ended => exact .inr (sound.settled_of_ended reached)

/-- What is settled stays settled. -/
theorem Settled.turn
    {result : Except Panic Outcome}
    (settled : task.Settled config result)
    (sound : task.Sound config)
    (turns : task.Turns environment config permits world next left later) :
    next.Settled config result := by
  have unfresh : ¬ task.completion.Fresh := by
    intro fresh
    cases fresh.unsignalled.symm.trans settled.signalled
  cases turns with
  | admitted waiting acquired => exact absurd (sound.at_stage waiting).2 unfresh
  | advanced working stepped => exact absurd (sound.at_stage working).2 unfresh
  | finished working => exact absurd (sound.at_stage working).2 unfresh
  | unwound working => exact absurd (sound.at_stage working).2 unfresh
  | released finished => exact ⟨settled.course, settled.signalled, settled.resolved⟩
  | dropped unwinding =>
      obtain ⟨_, _, fresh⟩ := sound.at_stage unwinding
      exact absurd fresh unfresh

end Task

namespace Crew

variable
  {σ : Type}
  {environment : Environment σ}
  {config : Config}
  {crew next : Crew σ}
  {number : Nat}
  {stage : Stage}

/-- Something happens in a crew. -/
def Goes
    (environment : Environment σ)
    (config : Config)
    (crew next : Crew σ) :
    Prop :=
  ∃ move, crew.step? environment config move = some next

/-- A task has come to a stage. -/
def At
    (crew : Crew σ)
    (number : Nat)
    (stage : Stage) :
    Prop :=
  ∃ task, crew.tasks[number]? = some task ∧ task.stage = stage

/-- A task is at one stage at a time. -/
theorem At.unique
    {other : Stage}
    (here : crew.At number stage)
    (hereToo : crew.At number other) :
    stage = other := by
  obtain ⟨task, found, rfl⟩ := here
  obtain ⟨same, foundToo, rfl⟩ := hereToo
  rw [Option.some.inj (found.symm.trans foundToo)]

/-- A download that was received keeps its number. -/
theorem downloads_of_goes
    {download : Download}
    (received : crew.downloads[number]? = some download)
    (goes : Goes environment config crew next) :
    next.downloads[number]? = some download := by
  obtain ⟨move, stepped⟩ := goes
  rcases downloads_of_step? stepped with same | ⟨other, more⟩
  · rw [same]
    exact received
  · have inside := (List.getElem?_eq_some_iff.mp received).1
    rw [more, List.getElem?_append_left inside]
    exact received

/-- What happens in a crew leaves a task where it is, unless the task gets its turn. -/
theorem At.goes
    (here : crew.At number stage)
    (goes : Goes environment config crew next) :
    next.At number stage ∨ crew.turn? environment config number = some next := by
  obtain ⟨task, found, rfl⟩ := here
  have inside := (List.getElem?_eq_some_iff.mp found).1
  obtain ⟨move, stepped⟩ := goes
  cases move with
  | receive download =>
      obtain rfl := Option.some.inj stepped
      exact .inl ⟨task, (List.getElem?_append_left inside).trans found, rfl⟩
  | turn mover =>
      by_cases own : mover = number
      · subst own
        exact .inr stepped
      · obtain ⟨_, other, left, later, _, _, rfl⟩ := turns_of_turn? stepped
        exact .inl ⟨task, (List.getElem?_set_ne own).trans found, rfl⟩
  | abandon abandoned =>
      obtain ⟨other, foundToo, rfl⟩ := Option.map_eq_some_iff.mp stepped
      by_cases own : abandoned = number
      · subst own
        obtain rfl := Option.some.inj (found.symm.trans foundToo)
        exact .inl ⟨task.abandon, List.getElem?_set_self inside, rfl⟩
      · exact .inl ⟨task, (List.getElem?_set_ne own).trans found, rfl⟩
  | elsewhere change =>
      obtain rfl := Option.some.inj stepped
      exact .inl ⟨task, found, rfl⟩

/-- A task that gets its turn comes to the next stage. -/
theorem At.turn
    (here : crew.At number stage)
    (turned : crew.turn? environment config number = some next) :
    ∃ further, stage.Follows further ∧ next.At number further := by
  obtain ⟨task, found, rfl⟩ := here
  obtain ⟨same, other, left, later, foundToo, turns, rfl⟩ := turns_of_turn? turned
  obtain rfl := Option.some.inj (found.symm.trans foundToo)
  have inside := (List.getElem?_eq_some_iff.mp found).1
  exact ⟨other.stage, turns.follows, other, List.getElem?_set_self inside, rfl⟩

/-- A task that has something to do can get its turn. -/
theorem At.exists_turn
    (here : crew.At number stage)
    (moving : stage.IsMoving) :
    ∃ next, crew.turn? environment config number = some next := by
  obtain ⟨task, found, rfl⟩ := here
  obtain ⟨gone, went⟩ :=
    Option.ne_none_iff_exists'.mp
      (task.turn?_ne_none_of_isMoving environment config crew.permits crew.world moving)
  exact ⟨_, by rw [turn?, found, Option.bind_some, went, Option.map_some]⟩

/-- A task that waits and cannot get its turn finds all permits taken. -/
theorem At.acquire?_eq_none
    (waits : crew.At number .waiting)
    (stuck : crew.turn? environment config number = none) :
    crew.permits.acquire? = none := by
  obtain ⟨task, found, waiting⟩ := waits
  rw [turn?, found, Option.bind_some, Option.map_eq_none_iff] at stuck
  exact Task.turn?_eq_none_of_waiting waiting stuck

/-- As a task gives its permit back, fewer permits are taken than before. -/
theorem At.held_lt
    (here : crew.At number stage)
    (sound : crew.Sound config)
    (holds : stage.holdsPermit = true)
    (goes : Goes environment config crew next)
    (freed : ∀ other, next.At number other → other.holdsPermit = false) :
    next.permits.held < crew.permits.held := by
  rcases here.goes goes with stays | turned
  · cases holds.symm.trans (freed stage stays)
  · obtain ⟨task, found, rfl⟩ := here
    obtain ⟨same, other, left, later, foundToo, turns, rfl⟩ := turns_of_turn? turned
    obtain rfl := Option.some.inj (found.symm.trans foundToo)
    have inside := (List.getElem?_eq_some_iff.mp found).1
    have empty : other.holdsPermit = false :=
      freed other.stage ⟨other, List.getElem?_set_self inside, rfl⟩
    have full : task.holdsPermit = true := holds
    have counted : task.holdsPermit.toNat ≤ crew.permits.held :=
      sound.held ▸ (countP_set Task.holdsPermit found other).2
    have balance := turns.held_eq counted
    rw [full, empty] at balance
    change left.held < crew.permits.held
    simp only [Bool.toNat_true, Bool.toNat_false] at balance
    omega

section Endless

variable
  {start : Crew σ}
  {course : Endless (Goes environment config) start}
  {now : Nat}

/-- A task that can do something again and again gets its turn in the end. -/
def Fair
    (environment : Environment σ)
    (config : Config)
    (crews : Nat → Crew σ) :
    Prop :=
  ∀ number now,
    (∀ later, now ≤ later →
      ∃ again next,
        later ≤ again ∧ (crews again).turn? environment config number = some next) →
    ∃ later,
      now ≤ later ∧
        (crews later).turn? environment config number = some (crews (later + 1))

/-- It does not depend on the beginning whether a course is fair. -/
theorem Fair.of_later
    {crews : Nat → Crew σ}
    (fair : Fair environment config fun now => crews (now + 1)) :
    Fair environment config crews := by
  intro number now possible
  have possibleLater :
      ∀ later, now ≤ later →
        ∃ again next,
          later ≤ again ∧ (crews (again + 1)).turn? environment config number = some next := by
    intro later after
    obtain ⟨again, next, afterwards, turned⟩ :=
      possible (later + 1) (Nat.le_succ_of_le after)
    cases again with
    | zero => exact absurd afterwards (Nat.not_succ_le_zero later)
    | succ before => exact ⟨before, next, Nat.le_of_succ_le_succ afterwards, turned⟩
  obtain ⟨later, after, turned⟩ := fair number now possibleLater
  exact ⟨later + 1, Nat.le_succ_of_le after, turned⟩

/-- Where all tasks are over there is nothing to be unfair about. -/
theorem fair_of_ended (ended : ∀ task ∈ crew.tasks, task.stage = .ended) :
    Fair environment config fun _ => crew := by
  intro number now possible
  obtain ⟨_, next, _, turned⟩ := possible now (Nat.le_refl now)
  obtain ⟨task, other, _, _, found, turns, _⟩ := turns_of_turn? turned
  have follows := turns.follows
  rw [ended task (List.mem_of_getElem? found)] at follows
  cases follows

/-- Whatever has led to the end of all tasks is part of a fair course. -/
theorem exists_fair_of_run?
    {moves : List (Move σ)}
    (ran : run? environment config moves start = some crew)
    (ended : ∀ task ∈ crew.tasks, task.stage = .ended) :
    ∃ course : Endless (Goes environment config) start,
      Fair environment config course.state ∧ ∃ now, course.state now = crew := by
  induction moves generalizing start with
  | nil =>
      obtain rfl := Option.some.inj ran
      exact ⟨.idle ⟨.elsewhere id, rfl⟩, fair_of_ended ended, 0, rfl⟩
  | cons move later inductionHypothesis =>
      obtain ⟨between, stepped, ranOn⟩ := Option.bind_eq_some_iff.mp ran
      obtain ⟨course, fair, now, reached⟩ := inductionHypothesis ranOn
      exact ⟨course.prepend ⟨move, stepped⟩, .of_later fair, now + 1, reached⟩

/-- A crew stays sound at all times. -/
theorem sound_at
    (course : Endless (Goes environment config) start)
    (sound : start.Sound config)
    (now : Nat) :
    (course.state now).Sound config := by
  apply course.always (Sound config) sound
  intro crew next soundNow goes
  obtain ⟨move, stepped⟩ := goes
  exact soundNow.step stepped

/-- A task that has something to do comes to its next stage in the end. -/
theorem exists_next
    (fair : Fair environment config course.state)
    (here : (course.state now).At number stage)
    (moving : stage.IsMoving) :
    ∃ later further,
      now ≤ later ∧ stage.Follows further ∧ (course.state later).At number further := by
  by_contra never
  have unturned :
      ∀ later, now ≤ later → (course.state later).At number stage →
        (course.state later).turn? environment config number ≠
          some (course.state (later + 1)) := by
    intro later after there turned
    obtain ⟨further, follows, reached⟩ := there.turn turned
    exact never ⟨later + 1, further, Nat.le_succ_of_le after, follows, reached⟩
  have stays : ∀ later, now ≤ later → (course.state later).At number stage := by
    intro later after
    induction after with
    | refl => exact here
    | @step last after there =>
        exact (there.goes (course.goesOn last)).resolve_right (unturned last after there)
  obtain ⟨later, after, turned⟩ := fair number now fun later after => by
    obtain ⟨next, turned⟩ := (stays later after).exists_turn moving
    exact ⟨later, next, Nat.le_refl later, turned⟩
  exact unturned later after (stays later after) turned

/-- A task with one thing left to do comes to its end. -/
theorem exists_ended_of_follows
    (fair : Fair environment config course.state)
    (here : (course.state now).At number stage)
    (moving : stage.IsMoving)
    (last : ∀ further, stage.Follows further → further = .ended) :
    ∃ later, now ≤ later ∧ (course.state later).At number .ended := by
  obtain ⟨later, further, after, follows, reached⟩ := exists_next fair here moving
  obtain rfl := last further follows
  exact ⟨later, after, reached⟩

theorem exists_ended_of_finished
    (fair : Fair environment config course.state)
    (here : (course.state now).At number .finished) :
    ∃ later, now ≤ later ∧ (course.state later).At number .ended := by
  apply exists_ended_of_follows fair here ⟨nofun, nofun⟩
  rintro _ ⟨⟩
  rfl

theorem exists_ended_of_unwinding
    (fair : Fair environment config course.state)
    (here : (course.state now).At number .unwinding) :
    ∃ later, now ≤ later ∧ (course.state later).At number .ended := by
  apply exists_ended_of_follows fair here ⟨nofun, nofun⟩
  rintro _ ⟨⟩
  rfl

/-- A task in the middle of its run comes to its end. The induction is on what is left of the run. -/
theorem exists_ended_of_working
    (fair : Fair environment config course.state)
    {rest : Program Outcome}
    (here : (course.state now).At number (.working rest)) :
    ∃ later, now ≤ later ∧ (course.state later).At number .ended := by
  have moving {rest : Program Outcome} : (Stage.working rest).IsMoving := ⟨nofun, nofun⟩
  induction rest generalizing now with
  | done outcome =>
      obtain ⟨first, _, after, follows, there⟩ := exists_next fair here moving
      cases follows with
      | advanced leads => cases leads
      | finished =>
          obtain ⟨second, afterwards, reached⟩ := exists_ended_of_finished fair there
          exact ⟨second, Nat.le_trans after afterwards, reached⟩
  | unwound panic =>
      obtain ⟨first, _, after, follows, there⟩ := exists_next fair here moving
      cases follows with
      | advanced leads => cases leads
      | unwound =>
          obtain ⟨second, afterwards, reached⟩ := exists_ended_of_unwinding fair there
          exact ⟨second, Nat.le_trans after afterwards, reached⟩
  | ask call answered panicked answeredEnds panickedEnds =>
      obtain ⟨first, _, after, follows, there⟩ := exists_next fair here moving
      cases follows with
      | advanced leads =>
          cases leads with
          | answered answer further =>
              obtain rfl := leads_nil.mp further
              obtain ⟨later, afterwards, reached⟩ := answeredEnds answer there
              exact ⟨later, Nat.le_trans after afterwards, reached⟩
          | panicked panic further =>
              obtain rfl := leads_nil.mp further
              obtain ⟨later, afterwards, reached⟩ := panickedEnds panic there
              exact ⟨later, Nat.le_trans after afterwards, reached⟩
  | act action next nextEnds =>
      obtain ⟨first, _, after, follows, there⟩ := exists_next fair here moving
      cases follows with
      | advanced leads =>
          cases leads with
          | acted answer further =>
              obtain rfl := leads_nil.mp further
              obtain ⟨later, afterwards, reached⟩ := nextEnds answer there
              exact ⟨later, Nat.le_trans after afterwards, reached⟩

/-- A task that is not waiting comes to its end. -/
theorem exists_ended_of_not_waiting
    (fair : Fair environment config course.state)
    (here : (course.state now).At number stage)
    (admitted : stage ≠ .waiting) :
    ∃ later, now ≤ later ∧ (course.state later).At number .ended := by
  cases stage with
  | waiting => exact absurd rfl admitted
  | working rest => exact exists_ended_of_working fair here
  | finished => exact exists_ended_of_finished fair here
  | unwinding => exact exists_ended_of_unwinding fair here
  | ended => exact ⟨now, Nat.le_refl now, here⟩

/-- If all permits are taken, one of them is given back in the end. -/
theorem exists_free
    (fair : Fair environment config course.state)
    (sound : start.Sound config)
    (full : (course.state now).permits.acquire? = none) :
    ∃ later, now ≤ later ∧ (course.state later).permits.acquire? ≠ none := by
  obtain ⟨bound, limit, reached⟩ := Permits.acquire?_eq_none_iff.mp full
  have bounded : boundOf config = some bound :=
    (sound_at course sound now).limit.symm.trans limit
  -- somebody holds a permit, and comes to an end
  have taken : 0 < (course.state now).holders := by
    rw [← (sound_at course sound now).held]
    exact Nat.lt_of_lt_of_le (boundOf_pos bounded) reached
  obtain ⟨task, member, holds⟩ := List.countP_pos_iff.mp taken
  obtain ⟨holder, found⟩ := List.mem_iff_getElem?.mp member
  have here : (course.state now).At holder task.stage := ⟨task, found, rfl⟩
  obtain ⟨till, after, atEnd⟩ :=
    exists_ended_of_not_waiting fair here (Stage.isMoving_of_holdsPermit holds).1
  -- there is a last moment at which it holds the permit
  have empty : ¬ ∃ stage, (course.state till).At holder stage ∧ stage.holdsPermit = true := by
    rintro ⟨stage, there, holdsThere⟩
    cases atEnd.unique there
    cases holdsThere
  obtain ⟨last, since, ⟨stage, there, holdsThere⟩, gone⟩ :=
    course.exists_last (fun crew => ∃ stage, crew.At holder stage ∧ stage.holdsPermit = true)
      after ⟨task.stage, here, holds⟩ empty
  have fewer : (course.state (last + 1)).permits.held < (course.state last).permits.held := by
    apply there.held_lt (sound_at course sound last) holdsThere (course.goesOn last)
    intro other thereAfter
    cases full : other.holdsPermit with
    | false => rfl
    | true => exact absurd ⟨other, thereAfter, full⟩ gone
  refine ⟨last + 1, Nat.le_succ_of_le since, ?_⟩
  intro stuck
  obtain ⟨other, limitThere, reachedThere⟩ := Permits.acquire?_eq_none_iff.mp stuck
  have boundedThere : boundOf config = some other :=
    (sound_at course sound (last + 1)).limit.symm.trans limitThere
  have within := (sound_at course sound last).within boundedThere
  omega

/-- Every task comes to its end. -/
theorem exists_ended
    (fair : Fair environment config course.state)
    (sound : start.Sound config)
    (here : (course.state now).At number stage) :
    ∃ later, now ≤ later ∧ (course.state later).At number .ended := by
  by_contra never
  -- it would wait for ever
  have waits : ∀ later, now ≤ later → (course.state later).At number .waiting := by
    intro later after
    have there : ∃ stage, (course.state later).At number stage := by
      induction after with
      | refl => exact ⟨stage, here⟩
      | @step last after there =>
          obtain ⟨stage, there⟩ := there
          rcases there.goes (course.goesOn last) with stays | turned
          · exact ⟨stage, stays⟩
          · obtain ⟨further, _, reached⟩ := there.turn turned
            exact ⟨further, reached⟩
    obtain ⟨stage, there⟩ := there
    by_cases waiting : stage = .waiting
    · exact waiting ▸ there
    · obtain ⟨till, afterwards, atEnd⟩ := exists_ended_of_not_waiting fair there waiting
      exact absurd ⟨till, Nat.le_trans after afterwards, atEnd⟩ never
  -- yet a permit is free again and again, so that it gets its turn
  obtain ⟨later, after, turned⟩ := fair number now fun later after => by
    by_cases full : (course.state later).permits.acquire? = none
    · obtain ⟨again, afterwards, free⟩ := exists_free fair sound full
      cases turns : (course.state again).turn? environment config number with
      | none =>
          exact absurd
            ((waits again (Nat.le_trans after afterwards)).acquire?_eq_none turns) free
      | some next => exact ⟨again, next, afterwards, turns⟩
    · cases turns : (course.state later).turn? environment config number with
      | none => exact absurd ((waits later after).acquire?_eq_none turns) full
      | some next => exact ⟨later, next, Nat.le_refl later, turns⟩
  obtain ⟨_, follows, reached⟩ := (waits later after).turn turned
  cases follows
  cases reached.unique (waits (later + 1) (Nat.le_succ_of_le after))

/-- Every download that was received comes to the end of its run, and its completion is settled. -/
theorem exists_settled
    (fair : Fair environment config course.state)
    (sound : start.Sound config)
    {download : Download}
    (received : (course.state now).downloads[number]? = some download) :
    ∃ later task result,
      now ≤ later ∧
        (course.state later).tasks[number]? = some task ∧
        task.download = download ∧
        task.stage = .ended ∧
        task.Settled config result := by
  obtain ⟨started, found, _⟩ := Option.map_eq_some_iff.mp (List.getElem?_map.symm.trans received)
  obtain ⟨later, after, task, foundLater, atEnd⟩ := exists_ended fair sound ⟨started, found, rfl⟩
  have soundLater := (sound_at course sound later).tasks task (List.mem_of_getElem? foundLater)
  obtain ⟨result, settled⟩ := soundLater.settled_of_ended atEnd
  have same : (course.state later).downloads[number]? = some download :=
    course.always_from (fun crew => crew.downloads[number]? = some download) received
      downloads_of_goes after
  rw [downloads, List.getElem?_map, foundLater, Option.map_some] at same
  exact ⟨later, task, result, after, foundLater, Option.some.inj same, atEnd, settled⟩

end Endless

/-- The bound of a configuration that has one. -/
theorem boundOf_of_pos
    {bound : UInt64}
    (configured : config.maxConcurrentRuns = some bound)
    (positive : 0 < bound) :
    boundOf config = some bound.toNat := by
  have pos : 0 < bound.toNat := UInt64.lt_iff_toNat_lt.mp positive
  simp [boundOf, configured, pos]

/-- A configuration without a bound, or with a bound of zero. -/
theorem boundOf_of_unbounded
    (unbounded : config.maxConcurrentRuns = none ∨ config.maxConcurrentRuns = some 0) :
    boundOf config = none := by
  rcases unbounded with absent | zero
  · simp [boundOf, absent]
  · simp [boundOf, zero]

/-- The permits and the completions of a crew are in order. -/
structure Orderly
    (environment : Environment σ)
    (config : Config)
    (crew : Crew σ) :
    Prop where
  /-- No more tasks hold a permit than the bound allows. -/
  bounded
    {bound : UInt64}
    (configured : config.maxConcurrentRuns = some bound)
    (positive : 0 < bound) :
    crew.holders ≤ bound.toNat
  /-- The free permits and those that tasks hold make up the bound. -/
  balanced
    {bound : UInt64}
    (configured : config.maxConcurrentRuns = some bound)
    (positive : 0 < bound) :
    ∃ free, crew.permits.free? = some free ∧ free + crew.holders = bound.toNat
  /-- After all tasks have ended all permits are free. -/
  restored
    {bound : UInt64}
    (configured : config.maxConcurrentRuns = some bound)
    (positive : 0 < bound)
    (ended : ∀ task ∈ crew.tasks, task.stage = .ended) :
    crew.permits.free? = some bound.toNat
  /-- Without a bound no task has to wait for a permit. -/
  unhindered
    (unbounded : config.maxConcurrentRuns = none ∨ config.maxConcurrentRuns = some 0)
    {number : Nat}
    (waits : crew.At number .waiting) :
    ∃ next rest,
      crew.turn? environment config number = some next ∧ next.At number (.working rest)
  /-- A completion has resolved to what the run came to, once, or it has yet to resolve. -/
  resolved : ∀ task ∈ crew.tasks, task.Pending ∨ ∃ result, task.Settled config result

/-- A sound crew is in order. -/
theorem Sound.orderly (sound : crew.Sound config) : crew.Orderly environment config := by
  have balanced
      {bound : UInt64}
      (configured : config.maxConcurrentRuns = some bound)
      (positive : 0 < bound) :
      crew.permits.free? = some (bound.toNat - crew.holders) ∧
        crew.holders ≤ bound.toNat := by
    have bounded := boundOf_of_pos configured positive
    constructor
    · rw [Permits.free?, sound.limit, bounded, Option.map_some, sound.held]
    · exact sound.held ▸ sound.within bounded
  constructor
  case bounded =>
    intro bound configured positive
    exact (balanced configured positive).2
  case balanced =>
    intro bound configured positive
    obtain ⟨free, within⟩ := balanced configured positive
    exact ⟨_, free, Nat.sub_add_cancel within⟩
  case restored =>
    intro bound configured positive ended
    have empty : crew.holders = 0 := by
      apply List.countP_eq_zero.mpr
      intro task member
      rw [Task.holdsPermit, ended task member]
      exact Bool.false_ne_true
    rw [(balanced configured positive).1, empty, Nat.sub_zero]
  case unhindered =>
    intro unbounded number waits
    cases turned : crew.turn? environment config number with
    | some next =>
        obtain ⟨_, follows, reached⟩ := waits.turn turned
        cases follows with
        | admitted rest => exact ⟨next, rest, rfl, reached⟩
    | none =>
        obtain ⟨bound, limit, _⟩ := Permits.acquire?_eq_none_iff.mp (waits.acquire?_eq_none turned)
        cases (boundOf_of_unbounded unbounded).symm.trans (sound.limit.symm.trans limit)
  case resolved =>
    intro task member
    exact (sound.tasks task member).pending_or_settled

/-- However downloads are received and tasks get their turns, and wherever runs end in a panic: the bound
is kept, no permit is lost, and every completion resolves once, to what its run came to; and it does
resolve, if every task that can do something again and again gets its turn in the end. -/
theorem orderly_and_settled
    (environment : Environment σ)
    {permits : Permits}
    (given : Permits.ofConfig config = .ok permits)
    (world : σ) :
    (∀ moves crew,
      run? environment config moves (.new permits world) = some crew →
        crew.Orderly environment config) ∧
    ∀ course : Endless (Goes environment config) (.new permits world),
      Fair environment config course.state →
        ∀ (now number : Nat) (download : Download),
          (course.state now).downloads[number]? = some download →
            ∃ later, ∃ task : Task, ∃ result,
              now ≤ later ∧
                (course.state later).tasks[number]? = some task ∧
                task.download = download ∧
                task.stage = .ended ∧
                task.Settled config result := by
  have start := Sound.new given world
  constructor
  · intro moves crew ran
    exact (start.run ran).orderly
  · intro course fair now number download received
    exact exists_settled fair start received

end Crew

/-- There is nothing left to do. -/
def Stage.isEnded : Stage → Bool
  | .ended => true
  | _ => false

theorem Stage.eq_ended_of_isEnded
    {stage : Stage}
    (atEnd : stage.isEnded = true) :
    stage = .ended := by
  cases stage with
  | ended => rfl
  | _ => cases atEnd

namespace Crew

/-- A configuration that allows for one run at a time. -/
def oneAtATime : Config :=
  { Config.standard with maxConcurrentRuns := some 1 }

/-- Two greetings are received. Nobody waits for the first run, which ends in a panic as stale
notifications are removed; then the second run gets the permit. -/
def afterAPanic : List (Move (Unit × Nat)) :=
  [.receive staleGreeting, .receive staleGreeting, .abandon 0] ++ List.replicate 14 (.turn 0) ++
    List.replicate 17 (.turn 1)

/-- A single permit survives a panic, and a fair course settles both completions. -/
theorem orderly_and_settled_afterAPanic :
    Permits.ofConfig oneAtATime = .ok ⟨some 1, 0⟩ ∧
      ∃ crew : Crew (Unit × Nat),
        run? (smoothWorld.disturbed faultyRemoval) oneAtATime afterAPanic
            (.new ⟨some 1, 0⟩ ((), 0)) = some crew ∧
          crew.permits.free? = some 1 ∧
          crew.tasks.map (·.completion.signalled) = [[.aborted], [.received (.ofNat 7)]] ∧
          crew.Orderly (smoothWorld.disturbed faultyRemoval) oneAtATime ∧
          ∃ (course : Endless (Goes (smoothWorld.disturbed faultyRemoval) oneAtATime)
              (.new ⟨some 1, 0⟩ ((), 0))) (now : Nat),
            Fair (smoothWorld.disturbed faultyRemoval) oneAtATime course.state ∧
              (course.state now).downloads[1]? = some staleGreeting ∧
              ∃ later, ∃ task : Task, ∃ result,
                now ≤ later ∧
                  (course.state later).tasks[1]? = some task ∧
                  task.download = staleGreeting ∧
                  task.stage = .ended ∧
                  task.Settled oneAtATime result := by
  have given : Permits.ofConfig oneAtATime = .ok ⟨some 1, 0⟩ := rfl
  obtain ⟨always, inTheEnd⟩ :=
    orderly_and_settled (smoothWorld.disturbed faultyRemoval) given ((), 0)
  have final :
      (run? (smoothWorld.disturbed faultyRemoval) oneAtATime afterAPanic
          (.new ⟨some 1, 0⟩ ((), 0))).map
        (fun crew => (crew.tasks.all (·.stage.isEnded), crew.permits.free?, crew.downloads[1]?,
          crew.tasks.map (·.completion.signalled))) =
        some (true, some 1, some staleGreeting, [[.aborted], [.received (.ofNat 7)]]) := by
    decide +kernel
  obtain ⟨crew, ran, same⟩ := Option.map_eq_some_iff.mp final
  simp only [Prod.mk.injEq, List.all_eq_true] at same
  obtain ⟨atEnd, free, second, signalled⟩ := same
  have ended : ∀ task ∈ crew.tasks, task.stage = .ended :=
    fun task member => Stage.eq_ended_of_isEnded (atEnd task member)
  obtain ⟨course, fair, now, reached⟩ := exists_fair_of_run? ran ended
  have received : (course.state now).downloads[1]? = some staleGreeting := reached ▸ second
  exact ⟨given, crew, ran, free, signalled, always afterAPanic crew ran, course, now, fair, received,
    inTheEnd course fair now 1 staleGreeting received⟩

end Crew

end MmsInbox.Receive
