import MmsInbox.Receive.Run

namespace MmsInbox.Receive

/-!
# Completions

A completion has two ends. A guard goes with the task of a run and signals how the run ended, at the
latest when it is dropped; somebody may wait at the other end, and may stop waiting. A guard that has
signalled is disarmed, so that dropping it does not signal a second time.
-/

/-- The two ends of a completion. -/
structure Completion where
  /-- The guard has yet to signal. -/
  armed : Bool
  /-- Somebody holds the end at which the signal arrives. -/
  awaited : Bool
  /-- All that the guard has signalled, the first first. -/
  signalled : List Outcome
  deriving Repr, DecidableEq

namespace Completion

/-- A completion and its guard, fresh. -/
def pair : Completion :=
  ⟨true, true, []⟩

/-- The guard signals an outcome, unless it has signalled before. -/
def signal
    (completion : Completion)
    (outcome : Outcome) :
    Completion :=
  if completion.armed then
    { completion with armed := false, signalled := completion.signalled ++ [outcome] }
  else completion

/-- The guard is dropped. -/
def drop (completion : Completion) : Completion :=
  completion.signal .aborted

/-- The guard signals an outcome and is dropped after that. -/
def finish
    (completion : Completion)
    (outcome : Outcome) :
    Completion :=
  (completion.signal outcome).drop

/-- Nobody waits for the signal any more. -/
def abandon (completion : Completion) : Completion :=
  { completion with awaited := false }

/-- What somebody who waits gets to know. A guard that is gone without a signal counts as an aborted run.
-/
def poll? (completion : Completion) : Option Outcome :=
  if completion.awaited then
    match completion.signalled with
    | outcome :: _ => some outcome
    | [] => if completion.armed then none else some .aborted
  else none

variable {completion : Completion}

/-- A signal does not depend on whether somebody waits for it. -/
@[simp] theorem signal_awaited (outcome : Outcome) :
    (completion.signal outcome).awaited = completion.awaited := by
  unfold signal
  split
  · rfl
  · rfl

/-- A guard that is finished signals once, although it is dropped as well. -/
theorem finish_of_armed
    (armed : completion.armed = true)
    (outcome : Outcome) :
    completion.finish outcome =
      { completion with armed := false, signalled := completion.signalled ++ [outcome] } := by
  simp [finish, drop, signal, armed]

/-- A guard that is dropped before it has signalled signals that the run was aborted. -/
theorem drop_of_armed (armed : completion.armed = true) :
    completion.drop =
      { completion with armed := false, signalled := completion.signalled ++ [.aborted] } := by
  simp [drop, signal, armed]

end Completion

end MmsInbox.Receive
