import MmsInbox.Program.Assurance

namespace MmsInbox

/-!
# Passages

A history takes a world from state to state: each event is what the environment answers or does in one
state, and it leaves the next state behind (`History.Passes`). Running a program takes the world along
the history of the program (`Program.passes_run`). On a course that the world takes a program goes on
with what is left of it (`Program.run_of_leads`, `Program.history_of_leads`), and one step of it is one
event (`Program.step?_recorded_eq_some_iff`).

The history and the result of two programs in a row, and of a program whose panics are caught, are put
together from those of their parts. A program that forwards panics (`Program.ForwardsPanics`) ends at the
first of them, so nobody catches anything of it unless a collaborator panics. Programs are read through
once for this and for the kind of their events (`Program.Plain`).
-/

namespace Environment

variable {σ : Type}

/-- The event is what the environment answers or does in a state, and leaves another state behind. -/
def Yields (environment : Environment σ) : Event → σ → σ → Prop
  | .answered call answer, state, later => environment.answer call state = (.ok answer, later)
  | .panicked call panic, state, later => environment.answer call state = (.error panic, later)
  | .acted action answer, state, later => environment.perform action state = (answer, later)

end Environment

namespace History

variable {σ : Type}

/-- One event after another, a history leads from a state to a state. -/
def Passes (step : Event → σ → σ → Prop) : History → σ → σ → Prop
  | [], before, after => after = before
  | event :: later, before, after =>
      ∃ between, step event before between ∧ Passes step later between after

variable
  {step : Event → σ → σ → Prop}
  {before after : σ}

@[simp] theorem passes_nil : Passes step [] before after ↔ after = before := Iff.rfl

end History

namespace Program

variable {σ α β : Type}

/-- Running a program takes the world along its history. -/
theorem passes_run
    (environment : Environment σ)
    (program : Program α)
    (state : σ) :
    (program.history environment state).Passes environment.Yields state
      (program.run environment state).2 := by
  induction program generalizing state with
  | done value => exact rfl
  | unwound panic => exact rfl
  | ask call answered panicked answeredPasses panickedPasses =>
      rcases asked : environment.answer call state with ⟨panic | answer, later⟩
      · rw [history_ask_of_error asked]
        simp only [run, asked]
        exact ⟨later, asked, panickedPasses panic later⟩
      · rw [history_ask_of_ok asked]
        simp only [run, asked]
        exact ⟨later, asked, answeredPasses answer later⟩
  | act action next nextPasses =>
      rw [history_act]
      exact ⟨_, rfl, nextPasses _ _⟩

section OnCourse

variable
  {environment : Environment σ}
  {program rest : Program α}
  {history : History}
  {state later : σ}

/-- A program on a course that the world takes goes on with what is left of it. -/
theorem run_of_leads
    (leads : Leads program history rest)
    (passes : history.Passes environment.Yields state later) :
    program.run environment state = rest.run environment later := by
  induction leads generalizing state with
  | here program => rw [History.passes_nil.mp passes]
  | answered answer _ inductionHypothesis =>
      obtain ⟨between, yields, passes⟩ := passes
      simpa only [run, show environment.answer _ state = (.ok answer, between) from yields]
        using inductionHypothesis passes
  | panicked panic _ inductionHypothesis =>
      obtain ⟨between, yields, passes⟩ := passes
      simpa only [run, show environment.answer _ state = (.error panic, between) from yields]
        using inductionHypothesis passes
  | acted answer _ inductionHypothesis =>
      obtain ⟨between, yields, passes⟩ := passes
      simpa only [run, show environment.perform _ state = (answer, between) from yields]
        using inductionHypothesis passes

/-- What happens in a program on a course that the world takes is that course and what happens in what is
left. -/
theorem history_of_leads
    (leads : Leads program history rest)
    (passes : history.Passes environment.Yields state later) :
    program.history environment state = history ++ rest.history environment later := by
  induction leads generalizing state with
  | here program => rw [History.passes_nil.mp passes, List.nil_append]
  | answered answer _ inductionHypothesis =>
      obtain ⟨between, yields, passes⟩ := passes
      rw [history_ask_of_ok yields, inductionHypothesis passes, List.cons_append]
  | panicked panic _ inductionHypothesis =>
      obtain ⟨between, yields, passes⟩ := passes
      rw [history_ask_of_error yields, inductionHypothesis passes, List.cons_append]
  | @acted action _ _ _ answer _ inductionHypothesis =>
      obtain ⟨between, yields, passes⟩ := passes
      have performed : environment.perform action state = (answer, between) := yields
      rw [history_act, performed, inductionHypothesis passes, List.cons_append]

/-- A step of a program is one event, which the environment yields and which is added to the record. -/
theorem step?_recorded_eq_some_iff
    {record longer : History} :
    program.step? environment.recorded (state, record) = some (rest, later, longer) ↔
      ∃ event,
        Leads program [event] rest ∧ environment.Yields event state later ∧
          longer = record ++ [event] := by
  constructor
  · intro stepped
    cases program with
    | done value => cases stepped
    | unwound panic => cases stepped
    | ask call answered panicked =>
        rcases asked : environment.answer call state with ⟨panic | answer, after⟩
        · simp only [step?, Environment.recorded_answer_of_error asked, Option.some.injEq,
            Prod.mk.injEq] at stepped
          obtain ⟨rfl, rfl, rfl⟩ := stepped
          exact ⟨_, .panicked panic (.here _), asked, rfl⟩
        · simp only [step?, Environment.recorded_answer_of_ok asked, Option.some.injEq,
            Prod.mk.injEq] at stepped
          obtain ⟨rfl, rfl, rfl⟩ := stepped
          exact ⟨_, .answered answer (.here _), asked, rfl⟩
    | act action next =>
        simp only [step?, Environment.recorded_perform, Option.some.injEq,
          Prod.mk.injEq] at stepped
        obtain ⟨rfl, rfl, rfl⟩ := stepped
        exact ⟨_, .acted _ (.here _), rfl, rfl⟩
  · rintro ⟨event, leads, yields, rfl⟩
    cases leads with
    | answered answer finished =>
        obtain rfl := leads_nil.mp finished
        simp only [step?, Environment.recorded_answer_of_ok yields]
    | panicked panic finished =>
        obtain rfl := leads_nil.mp finished
        simp only [step?, Environment.recorded_answer_of_error yields]
    | @acted action _ _ _ answer finished =>
        obtain rfl := leads_nil.mp finished
        have performed : environment.perform action state = (answer, _) := yields
        simp only [step?, Environment.recorded_perform, performed]

/-- A program in which something happens makes a step. -/
theorem exists_step_of_history
    {event : Event}
    (happens : program.history environment state = event :: history) :
    ∃ rest later, Leads program [event] rest ∧ environment.Yields event state later := by
  cases program with
  | done value => cases happens
  | unwound panic => cases happens
  | ask call answered panicked =>
      rcases asked : environment.answer call state with ⟨panic | answer, after⟩
      · rw [history_ask_of_error asked] at happens
        obtain ⟨rfl, _⟩ := List.cons.inj happens
        exact ⟨_, after, .panicked panic (.here _), asked⟩
      · rw [history_ask_of_ok asked] at happens
        obtain ⟨rfl, _⟩ := List.cons.inj happens
        exact ⟨_, after, .answered answer (.here _), asked⟩
  | act action next =>
      rw [history_act] at happens
      obtain ⟨rfl, _⟩ := List.cons.inj happens
      exact ⟨_, _, .acted _ (.here _), rfl⟩

/-- Nothing happens any more in a program that has ended, and in no other. -/
theorem history_eq_nil_iff :
    program.history environment state = [] ↔ program.hasEnded = true := by
  cases program with
  | done value => exact ⟨fun _ => rfl, fun _ => rfl⟩
  | unwound panic => exact ⟨fun _ => rfl, fun _ => rfl⟩
  | ask call answered panicked =>
      rcases asked : environment.answer call state with ⟨panic | answer, after⟩
      · simp [history_ask_of_error asked, hasEnded]
      · simp [history_ask_of_ok asked, hasEnded]
  | act action next => simp [history_act, hasEnded]

@[simp] theorem run_ended (result : Except Panic α) :
    (ended result).run environment state = (result, state) := by
  cases result <;> rfl

@[simp] theorem history_ended (result : Except Panic α) :
    (ended result).history environment state = [] := by
  cases result <;> rfl

/-- A program that has ended shows its result. -/
theorem exists_ended (finished : program.hasEnded = true) :
    ∃ result, program = ended result := by
  cases program with
  | done value => exact ⟨.ok value, rfl⟩
  | unwound panic => exact ⟨.error panic, rfl⟩
  | ask call answered panicked => cases finished
  | act action next => cases finished

end OnCourse

/-- The first question that has to wait is answered in the state in which the program waits with it. -/
theorem answer_of_advance
    {environment : Environment σ}
    {waits : Call → Bool}
    {program : Program α}
    {state : σ}
    {call : Call}
    {answer : call.Answer}
    {before after : History}
    (happens : program.history environment state = before ++ .answered call answer :: after)
    (waiting : waits call = true)
    (first : ∀ earlier ∈ before.calls, waits earlier = false) :
    ∃ later,
      environment.answer call (program.advance environment waits state).2 = (.ok answer, later) := by
  induction program generalizing state before with
  | done value => cases before <;> cases happens
  | unwound panic => cases before <;> cases happens
  | ask question answered panicked answeredFirst panickedFirst =>
      rcases asked : environment.answer question state with ⟨panic | given, later⟩
      · rw [history_ask_of_error asked] at happens
        cases before with
        | nil => cases happens
        | cons event before =>
            obtain ⟨rfl, continues⟩ := List.cons.inj happens
            have quick : waits question = false := first question List.mem_cons_self
            simp only [advance, quick, asked]
            exact panickedFirst panic continues fun earlier member =>
              first earlier (List.mem_cons_of_mem _ member)
      · rw [history_ask_of_ok asked] at happens
        cases before with
        | nil =>
            obtain ⟨same, _⟩ := List.cons.inj happens
            cases same
            simp only [advance, waiting, if_true]
            exact ⟨later, asked⟩
        | cons event before =>
            obtain ⟨rfl, continues⟩ := List.cons.inj happens
            have quick : waits question = false := first question List.mem_cons_self
            simp only [advance, quick, asked]
            exact answeredFirst given continues fun earlier member =>
              first earlier (List.mem_cons_of_mem _ member)
  | act action next nextFirst =>
      rw [history_act] at happens
      cases before with
      | nil => cases happens
      | cons event before =>
          obtain ⟨rfl, continues⟩ := List.cons.inj happens
          exact nextFirst _ continues first

/-- Two programs in a row go on with the value of the first. -/
theorem run_bind
    (environment : Environment σ)
    (program : Program α)
    (next : α → Program β)
    (state : σ) :
    (program >>= next).run environment state =
      match program.run environment state with
      | (.ok value, later) => (next value).run environment later
      | (.error panic, later) => (.error panic, later) := by
  induction program generalizing state with
  | done value => rfl
  | unwound panic => rfl
  | ask call answered panicked answeredSame panickedSame =>
      rcases asked : environment.answer call state with ⟨panic | answer, later⟩
      · simpa only [ask_bind, run, asked] using panickedSame panic later
      · simpa only [ask_bind, run, asked] using answeredSame answer later
  | act action rest restSame =>
      simpa only [act_bind, run] using restSame _ _

/-- What happens in two programs in a row is what happens in the first and then, if it has ended in a
value, in the second. -/
theorem history_bind
    (environment : Environment σ)
    (program : Program α)
    (next : α → Program β)
    (state : σ) :
    (program >>= next).history environment state =
      program.history environment state ++
        match program.run environment state with
        | (.ok value, later) => (next value).history environment later
        | (.error _, _) => [] := by
  induction program generalizing state with
  | done value => rfl
  | unwound panic => rfl
  | ask call answered panicked answeredSame panickedSame =>
      rcases asked : environment.answer call state with ⟨panic | answer, later⟩
      · rw [ask_bind, history_ask_of_error asked, history_ask_of_error asked, panickedSame]
        simp only [run, asked, List.cons_append]
      · rw [ask_bind, history_ask_of_ok asked, history_ask_of_ok asked, answeredSame]
        simp only [run, asked, List.cons_append]
  | act action rest restSame =>
      rw [act_bind, history_act, history_act, restSame]
      simp only [run, List.cons_append]

/-- A program whose panics are caught goes on with the handler after a panic. -/
theorem run_catching
    (environment : Environment σ)
    (program : Program α)
    (handler : Panic → Program α)
    (state : σ) :
    (program.catching handler).run environment state =
      match program.run environment state with
      | (.ok value, later) => (.ok value, later)
      | (.error panic, later) => (handler panic).run environment later := by
  induction program generalizing state with
  | done value => rfl
  | unwound panic => rfl
  | ask call answered panicked answeredSame panickedSame =>
      rcases asked : environment.answer call state with ⟨panic | answer, later⟩
      · simpa only [catching, run, asked] using panickedSame panic later
      · simpa only [catching, run, asked] using answeredSame answer later
  | act action rest restSame =>
      simpa only [catching, run] using restSame _ _

/-- What happens in a program whose panics are caught is what happens in it and then, if it has ended in
a panic, in the handler. -/
theorem history_catching
    (environment : Environment σ)
    (program : Program α)
    (handler : Panic → Program α)
    (state : σ) :
    (program.catching handler).history environment state =
      program.history environment state ++
        match program.run environment state with
        | (.ok _, _) => []
        | (.error panic, later) => (handler panic).history environment later := by
  induction program generalizing state with
  | done value => rfl
  | unwound panic => rfl
  | ask call answered panicked answeredSame panickedSame =>
      rcases asked : environment.answer call state with ⟨panic | answer, later⟩
      · rw [catching, history_ask_of_error asked, history_ask_of_error asked, panickedSame]
        simp only [run, asked, List.cons_append]
      · rw [catching, history_ask_of_ok asked, history_ask_of_ok asked, answeredSame]
        simp only [run, asked, List.cons_append]
  | act action rest restSame =>
      rw [catching, history_act, history_act, restSame]
      simp only [run, List.cons_append]

/-- A program ends in a panic only if a collaborator panics, at once and with that panic. -/
def ForwardsPanics : Program α → Prop
  | .done _ => True
  | .unwound _ => False
  | .ask _ answered panicked =>
      (∀ answer, (answered answer).ForwardsPanics) ∧ ∀ panic, panicked panic = .unwound panic
  | .act _ next => ∀ answer, (next answer).ForwardsPanics

namespace ForwardsPanics

theorem done (value : α) : (Program.done value).ForwardsPanics := trivial

theorem call (call : Call) : (Program.call call).ForwardsPanics :=
  ⟨fun _ => trivial, fun _ => rfl⟩

theorem perform (action : Action) : (Program.perform action).ForwardsPanics :=
  fun _ => trivial

/-- Two programs in a row forward panics if both do. -/
theorem bind
    {program : Program α}
    {next : α → Program β}
    (first : program.ForwardsPanics)
    (second : ∀ value, (next value).ForwardsPanics) :
    (program >>= next).ForwardsPanics := by
  induction program with
  | done value => exact second value
  | unwound panic => exact first.elim
  | ask call answered panicked answeredForwards _ =>
      refine ⟨fun answer => answeredForwards answer (first.1 answer), fun panic => ?_⟩
      show panicked panic >>= next = .unwound panic
      rw [first.2 panic, unwound_bind]
  | act action rest restForwards =>
      exact fun answer => restForwards answer (first answer)

/-- If no collaborator panics, the program ends in a value. -/
theorem exists_value
    {environment : Environment σ}
    {program : Program α}
    {state : σ}
    (forwards : program.ForwardsPanics)
    (calm : (program.history environment state).Calm) :
    ∃ value, (program.run environment state).1 = .ok value := by
  induction program generalizing state with
  | done value => exact ⟨value, rfl⟩
  | unwound panic => exact forwards.elim
  | ask call answered panicked answeredValue _ =>
      rcases asked : environment.answer call state with ⟨panic | answer, later⟩
      · rw [history_ask_of_error asked] at calm
        exact Bool.noConfusion (calm _ List.mem_cons_self)
      · rw [history_ask_of_ok asked] at calm
        simpa only [run, asked] using answeredValue answer (forwards.1 answer) calm.tail
  | act action next nextValue =>
      rw [history_act] at calm
      exact nextValue _ (forwards _) calm.tail

/-- If no collaborator panics there is nothing to catch. -/
theorem leads_of_catching
    {program : Program α}
    {handler : Panic → Program α}
    {history : History}
    {value : α}
    (forwards : program.ForwardsPanics)
    (leads : Leads (program.catching handler) history (.done value))
    (calm : history.Calm) :
    Leads program history (.done value) := by
  induction program generalizing history with
  | done given => exact leads
  | unwound panic => exact forwards.elim
  | ask call answered panicked answeredLeads _ =>
      cases leads with
      | answered answer later =>
          exact .answered answer (answeredLeads answer (forwards.1 answer) later calm.tail)
      | panicked panic later => exact Bool.noConfusion (calm _ List.mem_cons_self)
  | act action next nextLeads =>
      cases leads with
      | acted answer later =>
          exact .acted answer (nextLeads answer (forwards answer) later calm.tail)

end ForwardsPanics

/-- A program forwards panics, and only events of a kind happen in it. -/
structure Plain
    (kind : Event → Prop)
    (program : Program α) :
    Prop where
  forwards : program.ForwardsPanics
  keeps : program.KeepsTo kind

namespace Plain

variable {kind : Event → Prop}

theorem done (value : α) : (Program.done value).Plain kind :=
  ⟨.done value, .done value⟩

theorem call
    {call : Call}
    (answered : ∀ answer, kind (.answered call answer))
    (panicked : ∀ panic, kind (.panicked call panic)) :
    (Program.call call).Plain kind :=
  ⟨.call call, .call answered panicked⟩

theorem perform
    {action : Action}
    (acted : ∀ answer, kind (.acted action answer)) :
    (Program.perform action).Plain kind :=
  ⟨.perform action, .perform acted⟩

theorem bind
    {program : Program α}
    {next : α → Program β}
    (first : program.Plain kind)
    (second : ∀ value, (next value).Plain kind) :
    (program >>= next).Plain kind :=
  ⟨first.forwards.bind fun value => (second value).forwards,
    first.keeps.bind fun value => (second value).keeps⟩

end Plain

end Program

end MmsInbox
