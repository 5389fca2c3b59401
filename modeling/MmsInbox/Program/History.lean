import MmsInbox.Program.Environment

namespace MmsInbox

/-!
# Histories

A history lists what happens in the course of a program: questions with their answers, panics of
collaborators, and actions with what they yielded. A program leads along a history to what is left of it
(`Program.Leads`), whoever answered and whatever other programs did in between. Running a program in an
environment that keeps a record is one way to lead it to its end (`Program.leads_run`,
`Program.step?_recorded`).
-/

/-- Something that happens in the course of a program. -/
inductive Event where
  | answered (call : Call) (answer : call.Answer)
  | panicked (call : Call) (panic : Panic)
  | acted (action : Action) (answer : action.Answer)

/-- What has happened, the oldest first. -/
abbrev History :=
  List Event

namespace Event

/-- The question that was put. -/
def call? : Event → Option Call
  | .answered call _ => some call
  | .panicked call _ => some call
  | .acted _ _ => none

/-- The action that was taken. -/
def action? : Event → Option Action
  | .answered _ _ => none
  | .panicked _ _ => none
  | .acted action _ => some action

/-- A collaborator panicked. -/
def isPanic : Event → Bool
  | .answered _ _ => false
  | .panicked _ _ => true
  | .acted _ _ => false

end Event

namespace History

/-- No collaborator panicked. -/
def Calm (history : History) : Prop :=
  ∀ event ∈ history, event.isPanic = false

/-- The questions that were put. -/
def calls (history : History) : List Call :=
  history.filterMap Event.call?

/-- The actions that were taken. -/
def actions (history : History) : List Action :=
  history.filterMap Event.action?

/-- What follows the first event of a calm history is calm. -/
theorem Calm.tail
    {event : Event}
    {later : History}
    (calm : Calm (event :: later)) :
    later.Calm :=
  fun following member => calm following (List.mem_cons_of_mem _ member)

/-- Two histories have the same answers to the same questions, and the same from the same actions. -/
structure Agree (first second : History) : Prop where
  answered
    {call : Call}
    {answer other : call.Answer}
    (inFirst : .answered call answer ∈ first)
    (inSecond : .answered call other ∈ second) :
    answer = other
  acted
    {action : Action}
    {answer other : action.Answer}
    (inFirst : .acted action answer ∈ first)
    (inSecond : .acted action other ∈ second) :
    answer = other

/-- What agrees with the first event on agrees after it. -/
theorem Agree.tail
    {first second : History}
    {event other : Event}
    (agree : Agree (event :: first) (other :: second)) :
    Agree first second where
  answered inFirst inSecond :=
    agree.answered (List.mem_cons_of_mem _ inFirst) (List.mem_cons_of_mem _ inSecond)
  acted inFirst inSecond :=
    agree.acted (List.mem_cons_of_mem _ inFirst) (List.mem_cons_of_mem _ inSecond)

@[simp] theorem calls_nil : calls [] = [] := rfl

@[simp] theorem calls_answered
    (call : Call)
    (answer : call.Answer)
    (later : History) :
    calls (.answered call answer :: later) = call :: later.calls := rfl

@[simp] theorem calls_panicked
    (call : Call)
    (panic : Panic)
    (later : History) :
    calls (.panicked call panic :: later) = call :: later.calls := rfl

@[simp] theorem calls_acted
    (action : Action)
    (answer : action.Answer)
    (later : History) :
    calls (.acted action answer :: later) = later.calls := rfl

@[simp] theorem actions_answered
    (call : Call)
    (answer : call.Answer)
    (later : History) :
    actions (.answered call answer :: later) = later.actions := rfl

@[simp] theorem actions_panicked
    (call : Call)
    (panic : Panic)
    (later : History) :
    actions (.panicked call panic :: later) = later.actions := rfl

@[simp] theorem actions_acted
    (action : Action)
    (answer : action.Answer)
    (later : History) :
    actions (.acted action answer :: later) = action :: later.actions := rfl

@[simp] theorem calm_append
    (first second : History) :
    Calm (first ++ second) ↔ first.Calm ∧ second.Calm := by
  simp [Calm, or_imp, forall_and]

@[simp] theorem calls_append
    (first second : History) :
    calls (first ++ second) = first.calls ++ second.calls :=
  List.filterMap_append

/-- A question that was answered was put. -/
theorem mem_calls_of_answered
    {history : History}
    {call : Call}
    {answer : call.Answer}
    (member : .answered call answer ∈ history) :
    call ∈ history.calls :=
  List.mem_filterMap.mpr ⟨_, member, rfl⟩

end History

namespace Environment

variable {σ : Type}

/-- The environment with a record of what happens in it. -/
def recorded (environment : Environment σ) : Environment (σ × History) where
  answer call world :=
    match environment.answer call world.1 with
    | (.ok answer, later) => (.ok answer, later, world.2 ++ [.answered call answer])
    | (.error panic, later) => (.error panic, later, world.2 ++ [.panicked call panic])
  perform action world :=
    let (answer, later) := environment.perform action world.1
    (answer, later, world.2 ++ [.acted action answer])

variable {environment : Environment σ}

/-- An answer is recorded. -/
theorem recorded_answer_of_ok
    {call : Call}
    {state later : σ}
    {answer : call.Answer}
    (answered : environment.answer call state = (.ok answer, later))
    (record : History) :
    environment.recorded.answer call (state, record) =
      (.ok answer, later, record ++ [.answered call answer]) := by
  simp [recorded, answered]

/-- A panic is recorded. -/
theorem recorded_answer_of_error
    {call : Call}
    {state later : σ}
    {panic : Panic}
    (panicked : environment.answer call state = (.error panic, later))
    (record : History) :
    environment.recorded.answer call (state, record) =
      (.error panic, later, record ++ [.panicked call panic]) := by
  simp [recorded, panicked]

/-- An action is recorded. -/
theorem recorded_perform
    (action : Action)
    (state : σ)
    (record : History) :
    environment.recorded.perform action (state, record) =
      ((environment.perform action state).1, (environment.perform action state).2,
        record ++ [.acted action (environment.perform action state).1]) := rfl

end Environment

namespace Program

variable {σ α β : Type}

/-- What happens when a program is run to its end: all that its environment has then recorded. -/
def history
    (environment : Environment σ)
    (program : Program α)
    (state : σ) :
    History :=
  (program.run environment.recorded (state, [])).2.2

/-- A program that has ended with a result. -/
def ended : Except Panic α → Program α
  | .ok value => .done value
  | .error panic => .unwound panic

/-- A program leads along a history to what is left of it. -/
inductive Leads : Program α → History → Program α → Prop where
  | here (program : Program α) :
      Leads program [] program
  | answered
      {call : Call}
      {answered : call.Answer → Program α}
      {panicked : Panic → Program α}
      {history : History}
      {rest : Program α}
      (answer : call.Answer)
      (later : Leads (answered answer) history rest) :
      Leads (.ask call answered panicked) (.answered call answer :: history) rest
  | panicked
      {call : Call}
      {answered : call.Answer → Program α}
      {panicked : Panic → Program α}
      {history : History}
      {rest : Program α}
      (panic : Panic)
      (later : Leads (panicked panic) history rest) :
      Leads (.ask call answered panicked) (.panicked call panic :: history) rest
  | acted
      {action : Action}
      {next : action.Answer → Program α}
      {history : History}
      {rest : Program α}
      (answer : action.Answer)
      (later : Leads (next answer) history rest) :
      Leads (.act action next) (.acted action answer :: history) rest

namespace Leads

/-- What follows on a history goes on from what is left. -/
theorem trans
    {program middle rest : Program α}
    {first second : History}
    (earlier : Leads program first middle)
    (later : Leads middle second rest) :
    Leads program (first ++ second) rest := by
  induction earlier with
  | here program => exact later
  | answered answer _ inductionHypothesis =>
      exact .answered answer (inductionHypothesis later)
  | panicked panic _ inductionHypothesis =>
      exact .panicked panic (inductionHypothesis later)
  | acted answer _ inductionHypothesis =>
      exact .acted answer (inductionHypothesis later)

/-- Going on with another program does not change what happens before. -/
theorem bind
    {program rest : Program α}
    {history : History}
    (leads : Leads program history rest)
    (next : α → Program β) :
    Leads (program >>= next) history (rest >>= next) := by
  induction leads with
  | here program => exact .here _
  | answered answer _ inductionHypothesis => exact .answered answer inductionHypothesis
  | panicked panic _ inductionHypothesis => exact .panicked panic inductionHypothesis
  | acted answer _ inductionHypothesis => exact .acted answer inductionHypothesis

end Leads

/-- A program that has ended leads nowhere else. -/
@[simp] theorem leads_done
    {value : α}
    {history : History}
    {rest : Program α} :
    Leads (.done value) history rest ↔ history = [] ∧ rest = .done value := by
  constructor
  · rintro (_ | _)
    exact ⟨rfl, rfl⟩
  · rintro ⟨rfl, rfl⟩
    exact .here _

/-- A program that has ended in a panic leads nowhere else. -/
@[simp] theorem leads_unwound
    {panic : Panic}
    {history : History}
    {rest : Program α} :
    Leads (.unwound panic) history rest ↔ history = [] ∧ rest = .unwound panic := by
  constructor
  · rintro (_ | _)
    exact ⟨rfl, rfl⟩
  · rintro ⟨rfl, rfl⟩
    exact .here _

/-- A program on which nothing has happened is all that is left. -/
@[simp] theorem leads_nil {program rest : Program α} :
    Leads program [] rest ↔ rest = program := by
  constructor
  · intro leads
    generalize nothing : ([] : History) = history at leads
    cases leads with
    | here => rfl
    | answered answer later => cases nothing
    | panicked panic later => cases nothing
    | acted answer later => cases nothing
  · rintro rfl
    exact .here _

/-- A question that leads to a value was answered. -/
@[simp] theorem leads_call_done
    {call : Call}
    {history : History}
    {answer : call.Answer} :
    Leads (Program.call call) history (.done answer) ↔ history = [.answered call answer] := by
  constructor
  · intro leads
    cases leads with
    | answered given later =>
        obtain ⟨rfl, same⟩ := leads_done.mp later
        cases same
        rfl
    | panicked panic later => simp at later
  · rintro rfl
    exact .answered answer (.here _)

/-- An action that leads to a value has yielded it. -/
@[simp] theorem leads_perform_done
    {action : Action}
    {history : History}
    {answer : action.Answer} :
    Leads (perform action) history (.done answer) ↔ history = [.acted action answer] := by
  constructor
  · intro leads
    cases leads with
    | acted given later =>
        obtain ⟨rfl, same⟩ := leads_done.mp later
        cases same
        rfl
  · rintro rfl
    exact .acted answer (.here _)

/-- Two programs in a row lead to a value through a value of the first. -/
theorem leads_bind_done
    {program : Program α}
    {next : α → Program β}
    {history : History}
    {value : β} :
    Leads (program >>= next) history (.done value) ↔
      ∃ middle first second,
        history = first ++ second ∧
          Leads program first (.done middle) ∧
          Leads (next middle) second (.done value) := by
  constructor
  · intro leads
    induction program generalizing history with
    | done middle => exact ⟨middle, [], history, rfl, .here _, leads⟩
    | unwound panic => simp at leads
    | ask call answered panicked answeredSplit panickedSplit =>
        cases leads with
        | answered answer later =>
            obtain ⟨middle, first, second, rfl, earlier, after⟩ := answeredSplit answer later
            exact ⟨middle, .answered call answer :: first, second, rfl,
              .answered answer earlier, after⟩
        | panicked panic later =>
            obtain ⟨middle, first, second, rfl, earlier, after⟩ := panickedSplit panic later
            exact ⟨middle, .panicked call panic :: first, second, rfl,
              .panicked panic earlier, after⟩
    | act action rest restSplit =>
        cases leads with
        | acted answer later =>
            obtain ⟨middle, first, second, rfl, earlier, after⟩ := restSplit answer later
            exact ⟨middle, .acted action answer :: first, second, rfl,
              .acted answer earlier, after⟩
  · rintro ⟨middle, first, second, rfl, earlier, after⟩
    exact (earlier.bind next).trans after

/-- A value leads to no other one. -/
@[simp] theorem leads_done_done
    {value other : α}
    {history : History} :
    Leads (.done value) history (.done other) ↔ history = [] ∧ other = value := by
  rw [leads_done, Program.done.injEq]

/-- What goes on after a question leads to a value if the question was answered and the rest leads there.
-/
theorem leads_call_bind
    {call : Call}
    {next : call.Answer → Program β}
    {history : History}
    {value : β} :
    Leads (Program.call call >>= next) history (.done value) ↔
      ∃ answer later,
        history = .answered call answer :: later ∧ Leads (next answer) later (.done value) := by
  constructor
  · intro leads
    obtain ⟨answer, _, later, rfl, asking, afterwards⟩ := leads_bind_done.mp leads
    obtain rfl := leads_call_done.mp asking
    exact ⟨answer, later, rfl, afterwards⟩
  · rintro ⟨answer, later, rfl, afterwards⟩
    exact .answered answer afterwards

/-- What goes on after an action leads to a value if the rest leads there from what the action has
yielded. -/
theorem leads_perform_bind
    {action : Action}
    {next : action.Answer → Program β}
    {history : History}
    {value : β} :
    Leads (perform action >>= next) history (.done value) ↔
      ∃ answer later,
        history = .acted action answer :: later ∧ Leads (next answer) later (.done value) := by
  constructor
  · intro leads
    obtain ⟨answer, _, later, rfl, acting, afterwards⟩ := leads_bind_done.mp leads
    obtain rfl := leads_perform_done.mp acting
    exact ⟨answer, later, rfl, afterwards⟩
  · rintro ⟨answer, later, rfl, afterwards⟩
    exact .acted answer afterwards

/-- On two calm histories that agree a program leads to the same value in the same way. -/
theorem Leads.unique
    {program : Program α}
    {first second : History}
    {value other : α}
    (leads : Leads program first (.done value))
    (leadsToo : Leads program second (.done other))
    (calm : first.Calm)
    (calmToo : second.Calm)
    (agree : first.Agree second) :
    first = second ∧ value = other := by
  induction program generalizing first second with
  | done given =>
      obtain ⟨rfl, same⟩ := leads_done.mp leads
      obtain ⟨rfl, sameToo⟩ := leads_done.mp leadsToo
      cases same
      cases sameToo
      exact ⟨rfl, rfl⟩
  | unwound panic => simp at leads
  | ask call answered panicked answeredUnique _ =>
      cases leads with
      | panicked panic later => exact Bool.noConfusion (calm _ List.mem_cons_self)
      | answered answer later =>
          cases leadsToo with
          | panicked panic later => exact Bool.noConfusion (calmToo _ List.mem_cons_self)
          | answered answerToo laterToo =>
              obtain rfl := agree.answered List.mem_cons_self List.mem_cons_self
              obtain ⟨rfl, same⟩ :=
                answeredUnique answer later laterToo calm.tail calmToo.tail agree.tail
              exact ⟨rfl, same⟩
  | act action next nextUnique =>
      cases leads with
      | acted answer later =>
          cases leadsToo with
          | acted answerToo laterToo =>
              obtain rfl := agree.acted List.mem_cons_self List.mem_cons_self
              obtain ⟨rfl, same⟩ :=
                nextUnique answer later laterToo calm.tail calmToo.tail agree.tail
              exact ⟨rfl, same⟩

/-- A record changes nothing of a run, and grows by its history. -/
theorem run_recorded
    (environment : Environment σ)
    (program : Program α)
    (state : σ)
    (record : History) :
    program.run environment.recorded (state, record) =
      ((program.run environment state).1, (program.run environment state).2,
        record ++ program.history environment state) := by
  unfold history
  induction program generalizing state record with
  | done value => simp [run]
  | unwound panic => simp [run]
  | ask call answered panicked answeredGrows panickedGrows =>
      rcases asked : environment.answer call state with ⟨panic | answer, later⟩
      · simp only [run, asked, Environment.recorded_answer_of_error asked]
        rw [panickedGrows panic later (record ++ _), panickedGrows panic later ([] ++ _)]
        simp
      · simp only [run, asked, Environment.recorded_answer_of_ok asked]
        rw [answeredGrows answer later (record ++ _), answeredGrows answer later ([] ++ _)]
        simp
  | act action next nextGrows =>
      simp only [run, Environment.recorded_perform]
      rw [nextGrows _ _ (record ++ _), nextGrows _ _ ([] ++ _)]
      simp

/-- The history of a question that is answered. -/
theorem history_ask_of_ok
    {environment : Environment σ}
    {call : Call}
    {state later : σ}
    {answer : call.Answer}
    (asked : environment.answer call state = (.ok answer, later))
    (answered : call.Answer → Program α)
    (panicked : Panic → Program α) :
    (Program.ask call answered panicked).history environment state =
      .answered call answer :: (answered answer).history environment later := by
  rw [history, run, Environment.recorded_answer_of_ok asked]
  simp only [run_recorded]
  rfl

/-- The history of a question that ends in a panic. -/
theorem history_ask_of_error
    {environment : Environment σ}
    {call : Call}
    {state later : σ}
    {panic : Panic}
    (asked : environment.answer call state = (.error panic, later))
    (answered : call.Answer → Program α)
    (panicked : Panic → Program α) :
    (Program.ask call answered panicked).history environment state =
      .panicked call panic :: (panicked panic).history environment later := by
  rw [history, run, Environment.recorded_answer_of_error asked]
  simp only [run_recorded]
  rfl

/-- The history of an action. -/
theorem history_act
    (environment : Environment σ)
    (action : Action)
    (next : action.Answer → Program α)
    (state : σ) :
    (Program.act action next).history environment state =
      .acted action (environment.perform action state).1 ::
        (next (environment.perform action state).1).history environment
          (environment.perform action state).2 := by
  rw [history, run, Environment.recorded_perform]
  simp only [run_recorded]
  rfl

/-- Running a program leads it to its end along its history. -/
theorem leads_run
    (environment : Environment σ)
    (program : Program α)
    (state : σ) :
    Leads program (program.history environment state)
      (ended (program.run environment state).1) := by
  induction program generalizing state with
  | done value => exact .here _
  | unwound panic => exact .here _
  | ask call answered panicked answeredLeads panickedLeads =>
      rcases asked : environment.answer call state with ⟨panic | answer, later⟩
      · rw [history_ask_of_error asked]
        simp only [run, asked]
        exact .panicked panic (panickedLeads panic later)
      · rw [history_ask_of_ok asked]
        simp only [run, asked]
        exact .answered answer (answeredLeads answer later)
  | act action next nextLeads =>
      rw [history_act]
      exact .acted _ (nextLeads _ _)

/-- A step adds one event to the record and leads along it. -/
theorem step?_recorded
    {environment : Environment σ}
    {program rest : Program α}
    {state later : σ}
    {record longer : History}
    (stepped :
      program.step? environment.recorded (state, record) = some (rest, later, longer)) :
    ∃ event, longer = record ++ [event] ∧ Leads program [event] rest := by
  cases program with
  | done value => simp [step?] at stepped
  | unwound panic => simp [step?] at stepped
  | ask call answered panicked =>
      rcases asked : environment.answer call state with ⟨panic | answer, after⟩
      · simp only [step?, Environment.recorded_answer_of_error asked, Option.some.injEq,
          Prod.mk.injEq] at stepped
        obtain ⟨rfl, _, rfl⟩ := stepped
        exact ⟨_, rfl, .panicked panic (.here _)⟩
      · simp only [step?, Environment.recorded_answer_of_ok asked, Option.some.injEq,
          Prod.mk.injEq] at stepped
        obtain ⟨rfl, _, rfl⟩ := stepped
        exact ⟨_, rfl, .answered answer (.here _)⟩
  | act action next =>
      simp only [step?, Environment.recorded_perform, Option.some.injEq,
        Prod.mk.injEq] at stepped
      obtain ⟨rfl, _, rfl⟩ := stepped
      exact ⟨_, rfl, .acted _ (.here _)⟩

end Program

end MmsInbox
