import MmsInbox.Ack.Lane

namespace MmsInbox.Lane

/-!
# Letting the worker run

A worker that is left alone ends, runs out of work, or waits for an answer. Each of its moves lessens
its load (`load_lt_of_move?`, `load_afterSend_lt`), so it gets there.
-/

variable {σ : Type}

/-- What keeps the worker busy: three units for each queued task and a few for its own state. -/
def load (lane : Lane) : Nat :=
  3 * lane.queue.length +
    match lane.worker with
    | .sending _ false => 4
    | .waiting => 3
    | .sending _ true => 2
    | .draining => 1
    | .discarding => 1
    | .stopped => 0
    | .panicked _ => 0

/-- Every move between two sends lessens the load. -/
theorem load_lt_of_move?
    {environment : Environment σ}
    {settings : AckSettings}
    {lane next : Lane}
    {state later : σ}
    (moved : lane.move? environment settings state = some (next, later)) :
    next.load < lane.load := by
  obtain ⟨queue, accepting, handles, signals, worker⟩ := lane
  cases worker with
  | waiting =>
      simp only [move?] at moved
      split at moved
      · rename_i heard inbox received
        simp only [Option.some.injEq] at moved
        cases heard with
        | error loss =>
            simp only [heed, Prod.mk.injEq] at moved
            simp [← moved.1, load]
        | ok signal =>
            cases signal <;>
              simp only [heed, Prod.mk.injEq] at moved <;>
              simp [← moved.1, load]
      · split at moved
        · simp only [beginSend, Option.some.injEq, Prod.mk.injEq] at moved
          simp only [← moved.1, load, List.length_cons]
          omega
        · split at moved
          · simp only [stop, Option.some.injEq, Prod.mk.injEq] at moved
            simp [← moved.1, load]
          · simp at moved
  | draining =>
      simp only [move?] at moved
      split at moved
      · simp only [beginSend, Option.some.injEq, Prod.mk.injEq] at moved
        simp only [← moved.1, load, List.length_cons]
        omega
      · simp only [stop, Option.some.injEq, Prod.mk.injEq] at moved
        simp [← moved.1, load]
  | discarding =>
      simp only [move?] at moved
      split at moved
      · simp only [Option.some.injEq, Prod.mk.injEq] at moved
        simp only [← moved.1, load, List.length_cons]
        omega
      · simp only [stop, Option.some.injEq, Prod.mk.injEq] at moved
        simp [← moved.1, load]
  | sending rest draining => simp [move?] at moved
  | stopped => simp [move?] at moved
  | panicked panic => simp [move?] at moved

/-- Ending a send lessens the load. -/
theorem load_afterSend_lt
    {lane : Lane}
    {rest remaining : Program Unit}
    {draining : Bool}
    (busy : lane.worker = .sending rest draining)
    (ended : remaining.hasEnded = true) :
    (lane.afterSend remaining draining).load < lane.load := by
  cases remaining with
  | done value =>
      cases draining <;> simp [afterSend, load, busy]
  | unwound panic =>
      cases draining <;> simp [afterSend, collapse, load, busy]
  | ask call answered panicked => simp [Program.hasEnded] at ended
  | act action next => simp [Program.hasEnded] at ended

-- `busy`, `ended` and `moved` are used by `decreasing_by`, where the linter does not look.
set_option linter.unusedVariables false in
/-- Let the worker run until it ends, has nothing to do, or its next question has to wait. -/
def settle
    (environment : Environment σ)
    (settings : AckSettings)
    (waits : Call → Bool)
    (lane : Lane)
    (state : σ) :
    Lane × σ :=
  match busy : lane.worker with
  | .sending rest draining =>
      match rest.advance environment waits state with
      | (remaining, later) =>
          if ended : remaining.hasEnded then
            settle environment settings waits (lane.afterSend remaining draining) later
          else (lane.afterSend remaining draining, later)
  | _ =>
      match moved : lane.move? environment settings state with
      | some (next, later) => settle environment settings waits next later
      | none => (lane, state)
  termination_by lane.load
  decreasing_by
    · exact load_afterSend_lt busy ended
    · exact load_lt_of_move? moved

end MmsInbox.Lane
