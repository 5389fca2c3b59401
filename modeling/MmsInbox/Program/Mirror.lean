import MmsInbox.Program.History

namespace MmsInbox

/-!
# Mirrors

An environment mirrors another one if it gives the same answers in the image of each state and goes on to
the image of the next. A program cannot tell the two apart: it comes to the same result, to an image of the
same state (`Program.run_of_mirrors`, `Program.step?_of_mirrors`).
-/

namespace Environment

variable {σ τ : Type}

/-- In the image of each state, an environment answers and does what another one does in the state. -/
structure Mirrors
    (image : σ → τ)
    (environment : Environment σ)
    (mirror : Environment τ) :
    Prop where
  answered
    (call : Call)
    (state : σ) :
    mirror.answer call (image state) =
      ((environment.answer call state).1, image (environment.answer call state).2)
  performed
    (action : Action)
    (state : σ) :
    mirror.perform action (image state) =
      ((environment.perform action state).1, image (environment.perform action state).2)

/-- What is written down in a mirror is written down behind it. -/
theorem Mirrors.noted
    {image : σ → τ}
    {environment : Environment σ}
    {mirror : Environment τ}
    (mirrors : environment.Mirrors image mirror)
    (notice : Journal.Notice)
    (state : σ) :
    mirror.note notice (image state) = image (environment.note notice state) :=
  congrArg Prod.snd (mirrors.performed (.note notice) state)

/-- Behind a record there is the environment itself. -/
theorem mirrors_of_recorded (environment : Environment σ) :
    environment.recorded.Mirrors Prod.fst environment where
  answered call world := by
    rcases asked : environment.answer call world.1 with ⟨panic | answer, later⟩
    · simp [recorded, asked]
    · simp [recorded, asked]
  performed _ _ := rfl

end Environment

namespace Program

variable
  {σ τ α : Type}
  {image : σ → τ}
  {environment : Environment σ}
  {mirror : Environment τ}

/-- A program that is run in a mirror comes to the same result. -/
theorem run_of_mirrors
    (mirrors : environment.Mirrors image mirror)
    (program : Program α)
    (state : σ) :
    program.run mirror (image state) =
      ((program.run environment state).1, image (program.run environment state).2) := by
  induction program generalizing state with
  | done value => rfl
  | unwound panic => rfl
  | ask call answered panicked answeredSame panickedSame =>
      simp only [run, mirrors.answered]
      rcases environment.answer call state with ⟨panic | answer, later⟩
      · exact panickedSame panic later
      · exact answeredSame answer later
  | act action next nextSame =>
      simp only [run, mirrors.performed]
      exact nextSame _ _

/-- A program makes the same step in a mirror. -/
theorem step?_of_mirrors
    (mirrors : environment.Mirrors image mirror)
    (program : Program α)
    (state : σ) :
    program.step? mirror (image state) =
      (program.step? environment state).map (Prod.map id image) := by
  cases program with
  | done value => rfl
  | unwound panic => rfl
  | ask call answered panicked =>
      simp only [step?, mirrors.answered]
      rcases environment.answer call state with ⟨panic | answer, later⟩
      · rfl
      · rfl
  | act action next =>
      simp only [step?, mirrors.performed]
      rfl

end Program

end MmsInbox
