import MmsInbox.Program.Assurance
import MmsInbox.Program.Passage

namespace MmsInbox

/-!
# Two programs side by side

Two programs go on in one world, one question or action of either at a time, as a schedule says
(`Duo.run?`). Each of them has an environment of its own over the states that they share.

If whatever happens in the one commutes with whatever happens in the other (`Environment.Independent`),
the schedule does not matter. Each program ends as it does alone, having done what it does alone, and the
world is left as if the second had begun after the first had ended (`Duo.eq_completed_of_run?`). The
schedules that bring both to their end are those that give each as many steps as it takes alone
(`Duo.ends_iff`).
-/

open Program

namespace Environment

variable {σ α : Type}

/-- In states that are kept apart, what happens in two environments commutes: neither the one event nor
the other changes what the other environment yields, and either order leads to the same state. -/
structure Independent
    (first second : Environment σ)
    (own foreign : Event → Prop)
    (apart : σ → Prop) :
    Prop where
  ownKept
    {event : Event}
    {state later : σ}
    (happens : own event)
    (yields : first.Yields event state later)
    (kept : apart state) :
    apart later
  foreignKept
    {event : Event}
    {state later : σ}
    (happens : foreign event)
    (yields : second.Yields event state later)
    (kept : apart state) :
    apart later
  meet
    {event other : Event}
    {state between beside : σ}
    (happens : own event)
    (otherHappens : foreign other)
    (kept : apart state)
    (yields : first.Yields event state between)
    (otherYields : second.Yields other state beside) :
    ∃ after, second.Yields other between after ∧ first.Yields event beside after

namespace Independent

variable
  {first second : Environment σ}
  {own foreign : Event → Prop}
  {apart : σ → Prop}

theorem symm (independent : Independent first second own foreign apart) :
    Independent second first foreign own apart where
  ownKept := independent.foreignKept
  foreignKept := independent.ownKept
  meet happens otherHappens kept yields otherYields := by
    obtain ⟨after, otherAfter, eventAfter⟩ :=
      independent.meet otherHappens happens kept otherYields yields
    exact ⟨after, eventAfter, otherAfter⟩

/-- What happens in the second environment before a history passes in the first one might as well happen
after it. -/
theorem passes_beside
    (independent : Independent first second own foreign apart)
    {history : History}
    (ownHistory : ∀ event ∈ history, own event)
    {event : Event}
    (happens : foreign event)
    {state later beside : σ}
    (kept : apart state)
    (passes : history.Passes first.Yields state later)
    (yields : second.Yields event state beside) :
    ∃ after, history.Passes first.Yields beside after ∧ second.Yields event later after := by
  -- The event goes past the history one step at a time, in states that stay apart.
  induction history generalizing state beside with
  | nil =>
      obtain rfl := History.passes_nil.mp passes
      exact ⟨beside, rfl, yields⟩
  | cons earlier remaining inductionHypothesis =>
      obtain ⟨between, steps, passes⟩ := passes
      obtain ⟨isOwn, ownRemaining⟩ := List.forall_mem_cons.mp ownHistory
      obtain ⟨moved, yieldsBetween, stepsBeside⟩ :=
        independent.meet isOwn happens kept steps yields
      have betweenKept : apart between := independent.ownKept isOwn steps kept
      obtain ⟨after, passesMoved, yieldsLater⟩ :=
        inductionHypothesis ownRemaining betweenKept passes yieldsBetween
      exact ⟨after, ⟨moved, stepsBeside, passesMoved⟩, yieldsLater⟩

/-- A program does not notice what happens in the second environment before it is run in the first one,
and it might as well happen afterwards. -/
theorem undisturbed
    (independent : Independent first second own foreign apart)
    {program : Program α}
    (keeps : program.KeepsTo own)
    {event : Event}
    {state beside : σ}
    (happens : foreign event)
    (kept : apart state)
    (yields : second.Yields event state beside) :
    (program.run first beside).1 = (program.run first state).1 ∧
      program.history first beside = program.history first state ∧
      second.Yields event (program.run first state).2 (program.run first beside).2 := by
  have leads := leads_run first program state
  obtain ⟨ownHistory, _⟩ := keeps.of_leads leads
  obtain ⟨after, passesBeside, yieldsAfter⟩ :=
    independent.passes_beside ownHistory happens kept (passes_run first program state) yields
  have ran : program.run first beside = ((program.run first state).1, after) := by
    rw [run_of_leads leads passesBeside, run_ended]
  have happened : program.history first beside = program.history first state := by
    rw [history_of_leads leads passesBeside, history_ended, List.append_nil]
  rw [ran]
  exact ⟨rfl, happened, yieldsAfter⟩

end Independent

end Environment

/-- One of two programs. -/
inductive Side where
  | first
  | second
  deriving Repr, DecidableEq

/-- A program under way: what is left of it, and what has happened in it. -/
@[ext]
structure Strand (α : Type) where
  rest : Program α
  record : History

namespace Strand

variable {σ α : Type}

/-- Put the next question or take the next action. -/
def step?
    (environment : Environment σ)
    (strand : Strand α)
    (state : σ) :
    Option (Strand α × σ) :=
  (strand.rest.step? environment.recorded (state, strand.record)).map
    fun (rest, later, record) => (⟨rest, record⟩, later)

theorem step?_eq_some_iff
    {environment : Environment σ}
    {strand moved : Strand α}
    {state later : σ} :
    strand.step? environment state = some (moved, later) ↔
      ∃ event,
        Leads strand.rest [event] moved.rest ∧ environment.Yields event state later ∧
          moved.record = strand.record ++ [event] := by
  rw [← step?_recorded_eq_some_iff, step?, Option.map_eq_some_iff]
  constructor
  · rintro ⟨⟨rest, after, record⟩, stepped, same⟩
    cases same
    exact stepped
  · intro stepped
    exact ⟨_, stepped, rfl⟩

/-- A program in which something is to happen makes a step. -/
theorem exists_step
    {environment : Environment σ}
    {strand : Strand α}
    {state : σ}
    (busy : strand.rest.history environment state ≠ []) :
    ∃ moved, strand.step? environment state = some moved := by
  obtain ⟨event, remaining, happens⟩ := List.exists_cons_of_ne_nil busy
  obtain ⟨rest, later, leads, yields⟩ := exists_step_of_history happens
  exact ⟨(⟨rest, strand.record ++ [event]⟩, later),
    step?_eq_some_iff.mpr ⟨event, leads, yields, rfl⟩⟩

/-- A program under way will end as the program that it began as ends alone, having done the same. -/
structure OnCourse
    (environment : Environment σ)
    (kind : Event → Prop)
    (program : Program α)
    (start : σ)
    (strand : Strand α)
    (state : σ) :
    Prop where
  keeps : strand.rest.KeepsTo kind
  result : (strand.rest.run environment state).1 = (program.run environment start).1
  record :
    strand.record ++ strand.rest.history environment state = program.history environment start

namespace OnCourse

variable
  {environment : Environment σ}
  {kind : Event → Prop}
  {program : Program α}
  {start state later : σ}
  {strand moved : Strand α}

theorem begin (keeps : program.KeepsTo kind) :
    OnCourse environment kind program start ⟨program, []⟩ start :=
  ⟨keeps, rfl, rfl⟩

/-- A step of its own keeps a program on its course. -/
theorem step
    (onCourse : OnCourse environment kind program start strand state)
    {event : Event}
    (leads : Leads strand.rest [event] moved.rest)
    (yields : environment.Yields event state later)
    (grown : moved.record = strand.record ++ [event]) :
    OnCourse environment kind program start moved later := by
  have passes : History.Passes environment.Yields [event] state later := ⟨later, yields, rfl⟩
  refine ⟨(onCourse.keeps.of_leads leads).2, ?_, ?_⟩
  · rw [← onCourse.result, run_of_leads leads passes]
  · rw [← onCourse.record, history_of_leads leads passes, grown, List.append_assoc]

/-- A step of another program, if it is independent, keeps a program on its course. -/
theorem aside
    (onCourse : OnCourse environment kind program start strand state)
    {second : Environment σ}
    {foreign : Event → Prop}
    {apart : σ → Prop}
    (independent : environment.Independent second kind foreign apart)
    (kept : apart state)
    {event : Event}
    (happens : foreign event)
    (yields : second.Yields event state later) :
    OnCourse environment kind program start strand later := by
  obtain ⟨result, history, _⟩ := independent.undisturbed onCourse.keeps happens kept yields
  exact ⟨onCourse.keeps, result.trans onCourse.result,
    (congrArg _ history).trans onCourse.record⟩

/-- A program that has ended on its course has ended as it does alone. -/
theorem eq_of_hasEnded
    (onCourse : OnCourse environment kind program start strand state)
    (finished : strand.rest.hasEnded = true) :
    strand = ⟨ended (program.run environment start).1, program.history environment start⟩ := by
  obtain ⟨result, shown⟩ := exists_ended finished
  have sameResult : result = (program.run environment start).1 := by
    rw [← onCourse.result, shown, run_ended]
  have sameRecord : strand.record = program.history environment start := by
    rw [← onCourse.record, shown, history_ended, List.append_nil]
  rw [sameResult] at shown
  exact Strand.ext shown sameRecord

end OnCourse

end Strand

/-- Two programs under way in one world. -/
@[ext]
structure Duo (σ α β : Type) where
  first : Strand α
  second : Strand β
  state : σ

namespace Duo

variable {σ α β : Type}

/-- Two programs that have yet to begin. -/
def start
    (program : Program α)
    (other : Program β)
    (state : σ) :
    Duo σ α β :=
  ⟨⟨program, []⟩, ⟨other, []⟩, state⟩

/-- Both programs have ended. -/
def hasEnded (duo : Duo σ α β) : Bool :=
  duo.first.rest.hasEnded && duo.second.rest.hasEnded

/-- One of the programs makes a step, if it has not ended. -/
def step?
    (first second : Environment σ)
    (duo : Duo σ α β) :
    Side → Option (Duo σ α β)
  | .first =>
      (duo.first.step? first duo.state).map fun (strand, state) =>
        { duo with first := strand, state := state }
  | .second =>
      (duo.second.step? second duo.state).map fun (strand, state) =>
        { duo with second := strand, state := state }

/-- The programs make steps as a schedule says. -/
def run?
    (first second : Environment σ) :
    List Side → Duo σ α β → Option (Duo σ α β)
  | [], duo => some duo
  | side :: later, duo => (duo.step? first second side).bind (run? first second later)

/-- Two programs that have ended as they do alone, in the world that the second leaves if it begins after
the first. -/
def completed
    (first second : Environment σ)
    (program : Program α)
    (other : Program β)
    (state : σ) :
    Duo σ α β where
  first := ⟨ended (program.run first state).1, program.history first state⟩
  second := ⟨ended (other.run second state).1, other.history second state⟩
  state := (other.run second (program.run first state).2).2

/-- What one of the programs still has to do if it goes on alone. -/
def ahead
    (first second : Environment σ)
    (duo : Duo σ α β) :
    Side → History
  | .first => duo.first.rest.history first duo.state
  | .second => duo.second.rest.history second duo.state

/-- Two programs under way in states that are kept apart: each will end as it does alone, and the world
will be left as by one after the other. -/
structure Sound
    (first second : Environment σ)
    (own foreign : Event → Prop)
    (apart : σ → Prop)
    (program : Program α)
    (other : Program β)
    (start : σ)
    (duo : Duo σ α β) :
    Prop where
  kept : apart duo.state
  firstOnCourse : duo.first.OnCourse first own program start duo.state
  secondOnCourse : duo.second.OnCourse second foreign other start duo.state
  completion :
    (duo.second.rest.run second (duo.first.rest.run first duo.state).2).2 =
      (other.run second (program.run first start).2).2

section Independent

variable
  {first second : Environment σ}
  {own foreign : Event → Prop}
  {apart : σ → Prop}
  {program : Program α}
  {other : Program β}
  {start : σ}
  {duo later : Duo σ α β}
  {schedule : List Side}

theorem sound_start
    (keeps : program.KeepsTo own)
    (otherKeeps : other.KeepsTo foreign)
    (kept : apart start) :
    (Duo.start program other start).Sound first second own foreign apart program other start :=
  ⟨kept, .begin keeps, .begin otherKeeps, rfl⟩

/-- A step of either program keeps both on their course. Its program then has one event less ahead of it,
and the other program as many as before. -/
theorem Sound.step
    (sound : duo.Sound first second own foreign apart program other start)
    (independent : first.Independent second own foreign apart)
    {side : Side}
    (stepped : duo.step? first second side = some later) :
    later.Sound first second own foreign apart program other start ∧
      ∀ either,
        (later.ahead first second either).length + [side].count either =
          (duo.ahead first second either).length := by
  cases side with
  | first =>
      obtain ⟨⟨moved, state⟩, moves, rfl⟩ := Option.map_eq_some_iff.mp stepped
      obtain ⟨event, leads, yields, grown⟩ := Strand.step?_eq_some_iff.mp moves
      have happens := (sound.firstOnCourse.keeps.of_leads leads).1 event List.mem_cons_self
      have passes : History.Passes first.Yields [event] duo.state state := ⟨state, yields, rfl⟩
      have stillKept : apart state := independent.ownKept happens yields sound.kept
      have onCourse : moved.OnCourse first own program start state :=
        sound.firstOnCourse.step leads yields grown
      have otherOnCourse : duo.second.OnCourse second foreign other start state :=
        sound.secondOnCourse.aside independent.symm sound.kept happens yields
      obtain ⟨_, unchanged, _⟩ :=
        independent.symm.undisturbed sound.secondOnCourse.keeps happens sound.kept yields
      refine ⟨⟨stillKept, onCourse, otherOnCourse, ?_⟩, ?_⟩
      · rw [← sound.completion, run_of_leads leads passes]
      · rintro (_ | _)
        · simp [ahead, history_of_leads leads passes]
        · simp [ahead, unchanged]
  | second =>
      obtain ⟨⟨moved, state⟩, moves, rfl⟩ := Option.map_eq_some_iff.mp stepped
      obtain ⟨event, leads, yields, grown⟩ := Strand.step?_eq_some_iff.mp moves
      have happens := (sound.secondOnCourse.keeps.of_leads leads).1 event List.mem_cons_self
      have passes : History.Passes second.Yields [event] duo.state state := ⟨state, yields, rfl⟩
      have stillKept : apart state := independent.foreignKept happens yields sound.kept
      have onCourse : duo.first.OnCourse first own program start state :=
        sound.firstOnCourse.aside independent sound.kept happens yields
      have otherOnCourse : moved.OnCourse second foreign other start state :=
        sound.secondOnCourse.step leads yields grown
      -- The step may as well be made after the first program has ended.
      obtain ⟨_, unchanged, postponed⟩ :=
        independent.undisturbed sound.firstOnCourse.keeps happens sound.kept yields
      refine ⟨⟨stillKept, onCourse, otherOnCourse, ?_⟩, ?_⟩
      · have goesOn := run_of_leads leads ⟨_, postponed, rfl⟩
        rw [← sound.completion, goesOn]
      · rintro (_ | _)
        · simp [ahead, unchanged]
        · simp [ahead, history_of_leads leads passes]

/-- A schedule keeps both programs on their course, and each has so many fewer steps ahead of it as the
schedule has given it. -/
theorem Sound.run
    (sound : duo.Sound first second own foreign apart program other start)
    (independent : first.Independent second own foreign apart)
    (ran : duo.run? first second schedule = some later) :
    later.Sound first second own foreign apart program other start ∧
      ∀ either,
        (later.ahead first second either).length + schedule.count either =
          (duo.ahead first second either).length := by
  induction schedule generalizing duo with
  | nil =>
      cases ran
      exact ⟨sound, fun _ => rfl⟩
  | cons side remaining inductionHypothesis =>
      obtain ⟨between, stepped, ran⟩ := Option.bind_eq_some_iff.mp ran
      obtain ⟨betweenSound, steps⟩ := sound.step independent stepped
      obtain ⟨laterSound, remainingSteps⟩ := inductionHypothesis betweenSound ran
      refine ⟨laterSound, fun either => ?_⟩
      have step := steps either
      have remainingStep := remainingSteps either
      rw [← List.singleton_append, List.count_append]
      omega

/-- A program with something ahead of it makes a step. -/
theorem exists_step
    (side : Side)
    (busy : duo.ahead first second side ≠ []) :
    ∃ later, duo.step? first second side = some later := by
  cases side with
  | first =>
      obtain ⟨moved, stepped⟩ := Strand.exists_step busy
      exact ⟨_, congrArg (Option.map _) stepped⟩
  | second =>
      obtain ⟨moved, stepped⟩ := Strand.exists_step busy
      exact ⟨_, congrArg (Option.map _) stepped⟩

/-- Both programs have ended if neither has anything ahead of it. -/
theorem hasEnded_iff
    (first second : Environment σ)
    (duo : Duo σ α β) :
    duo.hasEnded = true ↔ ∀ side, duo.ahead first second side = [] := by
  rw [hasEnded, Bool.and_eq_true, ← history_eq_nil_iff, ← history_eq_nil_iff]
  constructor
  · rintro ⟨firstSilent, secondSilent⟩ (_ | _)
    · exact firstSilent
    · exact secondSilent
  · intro silent
    exact ⟨silent .first, silent .second⟩

/-- A schedule can be followed if it gives neither program more steps than it has ahead of it. -/
theorem Sound.exists_run
    (sound : duo.Sound first second own foreign apart program other start)
    (independent : first.Independent second own foreign apart)
    (enough : ∀ side, schedule.count side ≤ (duo.ahead first second side).length) :
    ∃ later, duo.run? first second schedule = some later := by
  induction schedule generalizing duo with
  | nil => exact ⟨duo, rfl⟩
  | cons side remaining inductionHypothesis =>
      have busy : duo.ahead first second side ≠ [] := by
        intro silent
        have none := enough side
        rw [silent, List.count_cons_self] at none
        exact absurd none (Nat.not_succ_le_zero _)
      obtain ⟨between, stepped⟩ := exists_step side busy
      obtain ⟨betweenSound, steps⟩ := sound.step independent stepped
      have remainingEnough :
          ∀ either, remaining.count either ≤ (between.ahead first second either).length := by
        intro either
        have step := steps either
        have fits := enough either
        rw [← List.singleton_append, List.count_append] at fits
        omega
      obtain ⟨later, ran⟩ := inductionHypothesis betweenSound remainingEnough
      exact ⟨later, Option.bind_eq_some_iff.mpr ⟨between, stepped, ran⟩⟩

/-- Whatever the schedule, two independent programs that have ended have ended as they do alone, in one
and the same world. -/
theorem eq_completed_of_run?
    (independent : first.Independent second own foreign apart)
    (keeps : program.KeepsTo own)
    (otherKeeps : other.KeepsTo foreign)
    (kept : apart start)
    (ran : (Duo.start program other start).run? first second schedule = some duo)
    (finished : duo.hasEnded = true) :
    duo = completed first second program other start := by
  obtain ⟨sound, _⟩ := (sound_start keeps otherKeeps kept).run independent ran
  obtain ⟨firstFinished, secondFinished⟩ := Bool.and_eq_true_iff.mp finished
  have firstEnded := sound.firstOnCourse.eq_of_hasEnded firstFinished
  have secondEnded := sound.secondOnCourse.eq_of_hasEnded secondFinished
  have final := sound.completion
  rw [firstEnded, secondEnded, run_ended, run_ended] at final
  exact Duo.ext firstEnded secondEnded final

/-- A schedule brings two independent programs to their end exactly if it gives each as many steps as it
takes alone. -/
theorem ends_iff
    (independent : first.Independent second own foreign apart)
    (keeps : program.KeepsTo own)
    (otherKeeps : other.KeepsTo foreign)
    (kept : apart start) :
    (∃ duo, (Duo.start program other start).run? first second schedule = some duo ∧
        duo.hasEnded = true) ↔
      schedule.count .first = (program.history first start).length ∧
        schedule.count .second = (other.history second start).length := by
  have sound :
      (Duo.start program other start).Sound first second own foreign apart program other start :=
    sound_start keeps otherKeeps kept
  constructor
  · rintro ⟨duo, ran, finished⟩
    obtain ⟨_, steps⟩ := sound.run independent ran
    have silent := (hasEnded_iff first second duo).mp finished
    have all : ∀ side,
        schedule.count side =
          ((Duo.start program other start).ahead first second side).length := by
      intro side
      have step := steps side
      rwa [silent side, List.length_nil, Nat.zero_add] at step
    exact ⟨all .first, all .second⟩
  · rintro ⟨firstSteps, secondSteps⟩
    have all : ∀ side,
        schedule.count side = ((Duo.start program other start).ahead first second side).length :=
      fun side => side.casesOn firstSteps secondSteps
    obtain ⟨duo, ran⟩ := sound.exists_run independent fun side => Nat.le_of_eq (all side)
    obtain ⟨_, steps⟩ := sound.run independent ran
    have silent : ∀ side, duo.ahead first second side = [] := by
      intro side
      have step := steps side
      rw [all side] at step
      exact List.length_eq_zero_iff.mp (by omega)
    exact ⟨duo, ran, (hasEnded_iff first second duo).mpr silent⟩

end Independent

end Duo

end MmsInbox
