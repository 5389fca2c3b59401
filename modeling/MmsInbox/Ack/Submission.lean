import MmsInbox.Ack.Traffic

namespace MmsInbox

/-!
# Submitters

Tasks reach the lane in submissions: whoever has a handle submits a list of tasks, which are then pushed
one by one while other submitters, the worker and the rest of the world go on. A handle stays alive as long
as a submission goes through it, so the last handle is not dropped before the last submission is through.
-/

/-- Tasks that are being pushed one by one. -/
structure Submission where
  tasks : List AckTask
  /-- The tasks that are still to be pushed. -/
  remaining : List AckTask
  deriving DecidableEq

/-- A lane among its submitters. -/
structure Submitters (σ : Type) where
  traffic : Traffic σ
  /-- All submissions, the oldest first; a submission owns its pushes under its number. -/
  submissions : List Submission

namespace Submitters

variable {σ : Type}

/-- Nothing has been submitted to a new lane. -/
def new
    (signalCapacity : Nat)
    (world : σ) :
    Submitters σ :=
  ⟨.new signalCapacity world, []⟩

/-- All tasks that were ever submitted. -/
def submitted (submitters : Submitters σ) : List AckTask :=
  submitters.submissions.flatMap Submission.tasks

/-- The tasks that are still to be pushed. -/
def unpushed (submitters : Submitters σ) : List AckTask :=
  submitters.submissions.flatMap Submission.remaining

/-- Something that happens among submitters. -/
inductive Move (σ : Type) where
  /-- A submission begins. -/
  | submit (tasks : List AckTask)
  /-- A submission pushes its next task. -/
  | push (number : Nat)
  | clone
  | drop
  | signal (signal : Signal)
  /-- The sender of signals is gone. -/
  | disconnect
  /-- The worker makes a step. -/
  | work
  /-- The rest of the world goes on. -/
  | elsewhere (change : σ → σ)

/-- Let something happen on the lane. -/
def pass?
    (surroundings : Surroundings σ)
    (settings : AckSettings)
    (submitters : Submitters σ)
    (move : Traffic.Move σ) :
    Option (Submitters σ) :=
  (submitters.traffic.step? surroundings settings move).map fun traffic =>
    { submitters with traffic := traffic }

/-- Let something happen, if it can. -/
def step?
    (surroundings : Surroundings σ)
    (settings : AckSettings)
    (submitters : Submitters σ) :
    Move σ → Option (Submitters σ)
  | .submit tasks =>
      if submitters.traffic.lane.handles = 0 then none
      else some { submitters with submissions := submitters.submissions ++ [⟨tasks, tasks⟩] }
  | .push number =>
      match submitters.submissions[number]? with
      | some ⟨tasks, task :: remaining⟩ =>
          some {
            traffic := submitters.traffic.push surroundings.others number task
            submissions := submitters.submissions.set number ⟨tasks, remaining⟩ }
      | _ => none
  | .clone => submitters.pass? surroundings settings .clone
  | .drop =>
      if submitters.traffic.lane.handles = 1 ∧ submitters.unpushed ≠ [] then none
      else submitters.pass? surroundings settings .drop
  | .signal signal => submitters.pass? surroundings settings (.signal signal)
  | .disconnect => submitters.pass? surroundings settings .disconnect
  | .work => submitters.pass? surroundings settings .work
  | .elsewhere change => submitters.pass? surroundings settings (.elsewhere change)

/-- Let things happen one after another, if they can. -/
def run?
    (surroundings : Surroundings σ)
    (settings : AckSettings) :
    List (Move σ) → Submitters σ → Option (Submitters σ)
  | [], submitters => some submitters
  | move :: later, submitters =>
      (submitters.step? surroundings settings move).bind (run? surroundings settings later)

end Submitters

end MmsInbox
