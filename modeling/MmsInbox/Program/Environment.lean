import MmsInbox.Program.Basic

namespace MmsInbox

/-!
# Environments

An environment answers the questions of a program and carries out its actions, both over a state
that is shared by all programs that run in it. A program can be run to its end (`Program.run`), up to
a question that has to wait (`Program.advance`), or for a single step (`Program.step?`).
-/

/-- Answers to questions and effects of actions over a state. -/
structure Environment (σ : Type) where
  answer : (call : Call) → σ → Except Panic call.Answer × σ
  perform : (action : Action) → σ → action.Answer × σ

namespace Environment

variable {σ : Type}

/-- Write a notice into the journal of a state. -/
def note
    (environment : Environment σ)
    (notice : Journal.Notice)
    (state : σ) :
    σ :=
  (environment.perform (.note notice) state).2

end Environment

namespace Program

variable {σ α : Type}

/-- Run a program to its end. -/
def run
    (environment : Environment σ) :
    Program α → σ → Except Panic α × σ
  | .done value, state => (.ok value, state)
  | .unwound panic, state => (.error panic, state)
  | .ask call answered panicked, state =>
      match environment.answer call state with
      | (.ok answer, later) => (answered answer).run environment later
      | (.error panic, later) => (panicked panic).run environment later
  | .act action next, state =>
      let (answer, later) := environment.perform action state
      (next answer).run environment later

/-- Run a program until it ends or its next question has to wait. -/
def advance
    (environment : Environment σ)
    (waits : Call → Bool) :
    Program α → σ → Program α × σ
  | .done value, state => (.done value, state)
  | .unwound panic, state => (.unwound panic, state)
  | .ask call answered panicked, state =>
      if waits call then (.ask call answered panicked, state)
      else match environment.answer call state with
        | (.ok answer, later) => (answered answer).advance environment waits later
        | (.error panic, later) => (panicked panic).advance environment waits later
  | .act action next, state =>
      let (answer, later) := environment.perform action state
      (next answer).advance environment waits later

/-- Put the next question or take the next action of a program that has not ended. -/
def step?
    (environment : Environment σ) :
    Program α → σ → Option (Program α × σ)
  | .done _, _ => none
  | .unwound _, _ => none
  | .ask call answered panicked, state =>
      match environment.answer call state with
      | (.ok answer, later) => some (answered answer, later)
      | (.error panic, later) => some (panicked panic, later)
  | .act action next, state =>
      let (answer, later) := environment.perform action state
      some (next answer, later)

/-- The program has ended, with a value or with a panic. -/
def hasEnded : Program α → Bool
  | .done _ => true
  | .unwound _ => true
  | _ => false

end Program

end MmsInbox
