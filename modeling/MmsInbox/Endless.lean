namespace MmsInbox

/-!
# Endless courses

A system whose steps are given by a relation may go on for ever. An endless course tells its state at
every point of time.
-/

/-- A course without end, one step after another. -/
structure Endless
    {State : Type}
    (Next : State → State → Prop)
    (start : State) where
  state : Nat → State
  begins : state 0 = start
  goesOn (now : Nat) : Next (state now) (state (now + 1))

namespace Endless

variable
  {State Other : Type}
  {Next : State → State → Prop}
  {start : State}

/-- What holds at some time and is kept by every step holds from then on. -/
theorem always_from
    (course : Endless Next start)
    (Kept : State → Prop)
    {since now : Nat}
    (holds : Kept (course.state since))
    (kept : ∀ {state next}, Kept state → Next state next → Kept next)
    (later : since ≤ now) :
    Kept (course.state now) := by
  induction later with
  | refl => exact holds
  | step _ holdsBefore => exact kept holdsBefore (course.goesOn _)

/-- What holds at the start and is kept by every step holds at all times. -/
theorem always
    (course : Endless Next start)
    (Kept : State → Prop)
    (holds : Kept start)
    (kept : ∀ {state next}, Kept state → Next state next → Kept next)
    (now : Nat) :
    Kept (course.state now) :=
  course.always_from Kept (course.begins.symm ▸ holds) kept (Nat.zero_le now)

/-- What holds at some time and no longer at a later one ceases to hold in some step between them. -/
theorem exists_last
    (course : Endless Next start)
    (Kept : State → Prop)
    {since till : Nat}
    (order : since ≤ till)
    (before : Kept (course.state since))
    (after : ¬ Kept (course.state till)) :
    ∃ last,
      since ≤ last ∧ Kept (course.state last) ∧ ¬ Kept (course.state (last + 1)) := by
  induction order with
  | refl => exact absurd before after
  | @step now order inductionHypothesis =>
      by_cases still : Kept (course.state now)
      · exact ⟨now, order, still, after⟩
      · exact inductionHypothesis still

/-- Nothing happens for ever. -/
def idle
    (stays : Next start start) :
    Endless Next start where
  state _ := start
  begins := rfl
  goesOn _ := stays

/-- A course that goes on from what a first step has led to. -/
def prepend
    {first : State}
    (step : Next first start)
    (course : Endless Next start) :
    Endless Next first where
  state
    | 0 => first
    | now + 1 => course.state now
  begins := rfl
  goesOn
    | 0 => by
        change Next first (course.state 0)
        rw [course.begins]
        exact step
    | now + 1 => course.goesOn now

/-- A part of a system takes an endless course as well, if it goes along with every step. -/
def part
    (course : Endless Next start)
    {NextPart : Other → Other → Prop}
    (project : State → Other)
    (goesAlong : ∀ {state next}, Next state next → NextPart (project state) (project next)) :
    Endless NextPart (project start) where
  state now := project (course.state now)
  begins := congrArg project course.begins
  goesOn now := goesAlong (course.goesOn now)

end Endless

end MmsInbox
