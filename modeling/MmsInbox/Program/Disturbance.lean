import MmsInbox.Program.Passage

namespace MmsInbox

/-!
# Disturbances

One question of all that are put panics instead of being answered, and whoever was asked leaves the world
in some state. A program that forwards panics does up to that question what it would have done otherwise,
and nothing after it (`Program.cut_of_disturbed`). Once the question has been put, nothing is disturbed
any more (`Program.run_disturbed_of_lt`).
-/

/-- The question that panics, by its number from 0 on, and what is left of the world then. -/
structure Disturbance (σ : Type) where
  number : Nat
  panic : Panic
  harm : Call → σ → σ

namespace Environment

variable {σ : Type}

/-- The environment with one question disturbed; the questions that have been put are counted. -/
def disturbed
    (environment : Environment σ)
    (disturbance : Disturbance σ) :
    Environment (σ × Nat) where
  answer call world :=
    if world.2 = disturbance.number then
      (.error disturbance.panic, disturbance.harm call world.1, world.2 + 1)
    else
      ((environment.answer call world.1).1, (environment.answer call world.1).2, world.2 + 1)
  perform action world :=
    ((environment.perform action world.1).1, (environment.perform action world.1).2, world.2)

variable
  {environment : Environment σ}
  {disturbance : Disturbance σ}
  {call : Call}
  {state later : σ}
  {asked : Nat}

theorem disturbed_answer_of_eq (reached : asked = disturbance.number) :
    (environment.disturbed disturbance).answer call (state, asked) =
      (.error disturbance.panic, disturbance.harm call state, asked + 1) := by
  simp [disturbed, reached]

theorem disturbed_answer_of_ne
    (other : asked ≠ disturbance.number)
    {result : Except Panic call.Answer}
    (given : environment.answer call state = (result, later)) :
    (environment.disturbed disturbance).answer call (state, asked) =
      (result, later, asked + 1) := by
  simp [disturbed, other, given]

end Environment

namespace Program

variable
  {σ α : Type}
  {environment : Environment σ}
  {disturbance : Disturbance σ}

/-- Once the disturbed question has been put, a program runs as if nothing were disturbed. -/
theorem run_disturbed_of_lt
    (environment : Environment σ)
    (program : Program α)
    (state : σ)
    {asked : Nat}
    (passed : disturbance.number < asked) :
    (program.run (environment.disturbed disturbance) (state, asked)).1 =
        (program.run environment state).1 ∧
      (program.run (environment.disturbed disturbance) (state, asked)).2.1 =
        (program.run environment state).2 ∧
      program.history (environment.disturbed disturbance) (state, asked) =
        program.history environment state := by
  induction program generalizing state asked with
  | done value => exact ⟨rfl, rfl, rfl⟩
  | unwound panic => exact ⟨rfl, rfl, rfl⟩
  | ask call answered panicked answeredSame panickedSame =>
      have other : asked ≠ disturbance.number := Nat.ne_of_gt passed
      rcases given : environment.answer call state with ⟨panic | answer, later⟩
      · have disturbed := Environment.disturbed_answer_of_ne other given
        obtain ⟨sameResult, sameState, sameHistory⟩ :=
          panickedSame panic later (Nat.lt_succ_of_lt passed)
        rw [history_ask_of_error given, history_ask_of_error disturbed, sameHistory]
        simp only [run, given, disturbed]
        exact ⟨sameResult, sameState, trivial⟩
      · have disturbed := Environment.disturbed_answer_of_ne other given
        obtain ⟨sameResult, sameState, sameHistory⟩ :=
          answeredSame answer later (Nat.lt_succ_of_lt passed)
        rw [history_ask_of_ok given, history_ask_of_ok disturbed, sameHistory]
        simp only [run, given, disturbed]
        exact ⟨sameResult, sameState, trivial⟩
  | act action next nextSame =>
      rw [history_act, history_act]
      obtain ⟨sameResult, sameState, sameHistory⟩ := nextSame _ _ passed
      exact ⟨sameResult, sameState, congrArg _ sameHistory⟩

/-- Up to the disturbed question, a program that forwards panics does what it would have done in a calm
run, and with that question it ends. -/
theorem cut_of_disturbed
    {program : Program α}
    (forwards : program.ForwardsPanics)
    {state : σ}
    {asked : Nat}
    (calm : (program.history environment state).Calm)
    (early : asked ≤ disturbance.number)
    (put : disturbance.number < asked + (program.history environment state).calls.length) :
    ∃ (done later : History) (call : Call) (answer : call.Answer) (between : σ),
      program.history environment state = done ++ .answered call answer :: later ∧
        asked + done.calls.length = disturbance.number ∧
        done.Passes environment.Yields state between ∧
        program.history (environment.disturbed disturbance) (state, asked) =
          done ++ [.panicked call disturbance.panic] ∧
        program.run (environment.disturbed disturbance) (state, asked) =
          (.error disturbance.panic, disturbance.harm call between, disturbance.number + 1) := by
  induction program generalizing state asked with
  | done value => exact absurd put (Nat.not_lt_of_le early)
  | unwound panic => exact forwards.elim
  | ask call answered panicked answeredCut _ =>
      rcases given : environment.answer call state with ⟨panic | answer, later⟩
      · rw [history_ask_of_error given] at calm
        exact Bool.noConfusion (calm _ List.mem_cons_self)
      rw [history_ask_of_ok given] at calm put ⊢
      by_cases reached : asked = disturbance.number
      · have disturbed :
            (environment.disturbed disturbance).answer call (state, asked) = _ :=
          Environment.disturbed_answer_of_eq reached
        refine ⟨[], _, call, answer, state, rfl, reached, rfl, ?_, ?_⟩
        · rw [history_ask_of_error disturbed, forwards.2]
          rfl
        · simp only [run, disturbed, forwards.2]
          rw [reached]
      · have disturbed := Environment.disturbed_answer_of_ne reached given
        have earlier : asked + 1 ≤ disturbance.number :=
          Nat.lt_of_le_of_ne early reached
        simp only [History.calls_answered, List.length_cons] at put
        obtain ⟨done, rest, question, reply, between, happens, number, passes, cut, ended⟩ :=
          answeredCut answer (forwards.1 answer) calm.tail earlier (by omega)
        refine ⟨.answered call answer :: done, rest, question, reply, between, ?_, ?_, ?_, ?_, ?_⟩
        · rw [happens, List.cons_append]
        · simp only [History.calls_answered, List.length_cons]
          omega
        · exact ⟨later, given, passes⟩
        · rw [history_ask_of_ok disturbed, cut, List.cons_append]
        · simpa only [run, disturbed] using ended
  | act action next nextCut =>
      rw [history_act] at calm put ⊢
      obtain ⟨done, rest, question, reply, between, happens, number, passes, cut, ended⟩ :=
        nextCut _ (forwards _) calm.tail early put
      refine ⟨.acted action (environment.perform action state).1 :: done, rest, question, reply,
        between, ?_, number, ⟨_, rfl, passes⟩, ?_, ended⟩
      · rw [happens, List.cons_append]
      · rw [history_act, List.cons_append, ← cut]
        rfl

end Program

end MmsInbox
