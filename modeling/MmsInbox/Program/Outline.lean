import MmsInbox.Program.History

namespace MmsInbox

/-!
# Outlines

Often only some of what happens in a program matters: the questions and actions in a focus. An outline is
a program that does just these (`Program.Outlines`). Whatever the rest comes to, and as long as no
collaborator panics, what a program does within the focus is a course of its outline
(`Outlines.leads`).
-/

/-- Questions and actions that are looked at. -/
structure Focus where
  asks : Call → Bool
  acts : Action → Bool

namespace Focus

/-- An event is looked at if its question or action is. -/
def sees (focus : Focus) : Event → Bool
  | .answered call _ => focus.asks call
  | .panicked call _ => focus.asks call
  | .acted action _ => focus.acts action

/-- A focus keeps all questions of the kinds that it looks at. -/
theorem filter_calls
    {focus : Focus}
    {kind : Call → Bool}
    (within : ∀ call, kind call = true → focus.asks call = true)
    (history : History) :
    (History.calls (history.filter focus.sees)).filter kind = history.calls.filter kind := by
  have unkind : ∀ call, focus.asks call = false → kind call = false := by
    intro call unseen
    cases holds : kind call
    · rfl
    · simp [within call holds] at unseen
  induction history with
  | nil => rfl
  | cons event later inductionHypothesis =>
      cases event with
      | answered call answer =>
          cases seen : focus.asks call
          · simpa [sees, seen, unkind call seen] using inductionHypothesis
          · simp [sees, seen, List.filter_cons, inductionHypothesis]
      | panicked call panic =>
          cases seen : focus.asks call
          · simpa [sees, seen, unkind call seen] using inductionHypothesis
          · simp [sees, seen, List.filter_cons, inductionHypothesis]
      | acted action answer =>
          cases seen : focus.acts action
          · simpa [sees, seen] using inductionHypothesis
          · simpa [sees, seen] using inductionHypothesis

/-- A focus keeps all actions that it looks at. -/
theorem actions_filter
    (focus : Focus)
    (unasking : ∀ call, focus.asks call = false)
    (history : History) :
    History.actions (history.filter focus.sees) = history.actions.filter focus.acts := by
  induction history with
  | nil => rfl
  | cons event later inductionHypothesis =>
      cases event with
      | answered call answer =>
          simpa [sees, unasking] using inductionHypothesis
      | panicked call panic =>
          simpa [sees, unasking] using inductionHypothesis
      | acted action answer =>
          cases seen : focus.acts action
          · simpa [sees, seen] using inductionHypothesis
          · simpa [sees, seen] using inductionHypothesis

end Focus

namespace Program

variable {α β γ δ : Type}

/-- One program does what another does within a focus, and the rest of it never unwinds unless a
collaborator panics. Their results are related. -/
inductive Outlines
    (focus : Focus)
    (related : α → β → Prop) :
    Program α → Program β → Prop where
  | done
      {value : α}
      {other : β}
      (holds : related value other) :
      Outlines focus related (.done value) (.done other)
  | asked
      {call : Call}
      {answered : call.Answer → Program α}
      {shown : call.Answer → Program β}
      {panicked : Panic → Program α}
      {unwinding : Panic → Program β}
      (seen : focus.asks call = true)
      (later : ∀ answer, Outlines focus related (answered answer) (shown answer)) :
      Outlines focus related (.ask call answered panicked) (.ask call shown unwinding)
  | askedAside
      {call : Call}
      {answered : call.Answer → Program α}
      {panicked : Panic → Program α}
      {outline : Program β}
      (unseen : focus.asks call = false)
      (later : ∀ answer, Outlines focus related (answered answer) outline) :
      Outlines focus related (.ask call answered panicked) outline
  | acted
      {action : Action}
      {next : action.Answer → Program α}
      {shown : action.Answer → Program β}
      (seen : focus.acts action = true)
      (later : ∀ answer, Outlines focus related (next answer) (shown answer)) :
      Outlines focus related (.act action next) (.act action shown)
  | actedAside
      {action : Action}
      {next : action.Answer → Program α}
      {outline : Program β}
      (unseen : focus.acts action = false)
      (later : ∀ answer, Outlines focus related (next answer) outline) :
      Outlines focus related (.act action next) outline

namespace Outlines

variable {focus : Focus}

/-- A question in the focus is its own outline. -/
theorem call
    {call : Call}
    (seen : focus.asks call = true) :
    Outlines focus Eq (Program.call call) (Program.call call) :=
  .asked seen fun _ => .done rfl

/-- An action in the focus is its own outline. -/
theorem perform
    {action : Action}
    (seen : focus.acts action = true) :
    Outlines focus Eq (Program.perform action) (Program.perform action) :=
  .acted seen fun _ => .done rfl

/-- Two programs in a row are outlined by their outlines in a row. -/
theorem bind
    {related : α → β → Prop}
    {later : γ → δ → Prop}
    {program : Program α}
    {outline : Program β}
    {next : α → Program γ}
    {nextOutline : β → Program δ}
    (first : Outlines focus related program outline)
    (second :
      ∀ value other, related value other →
        Outlines focus later (next value) (nextOutline other)) :
    Outlines focus later (program >>= next) (outline >>= nextOutline) := by
  induction first with
  | done holds => exact second _ _ holds
  | asked seen _ inductionHypothesis => exact .asked seen inductionHypothesis
  | askedAside unseen _ inductionHypothesis => exact .askedAside unseen inductionHypothesis
  | acted seen _ inductionHypothesis => exact .acted seen inductionHypothesis
  | actedAside unseen _ inductionHypothesis => exact .actedAside unseen inductionHypothesis

/-- Catching panics changes nothing of what an outline tells. -/
theorem catching
    {related : α → β → Prop}
    {program : Program α}
    {outline : Program β}
    (outlines : Outlines focus related program outline)
    (handler : Panic → Program α) :
    Outlines focus related (program.catching handler) outline := by
  induction outlines with
  | done holds => exact .done holds
  | asked seen _ inductionHypothesis => exact .asked seen inductionHypothesis
  | askedAside unseen _ inductionHypothesis => exact .askedAside unseen inductionHypothesis
  | acted seen _ inductionHypothesis => exact .acted seen inductionHypothesis
  | actedAside unseen _ inductionHypothesis => exact .actedAside unseen inductionHypothesis

/-- What happens within the focus on a calm course of a program is a course of its outline. -/
theorem leads
    {related : α → β → Prop}
    {program : Program α}
    {outline : Program β}
    {history : History}
    {result : Except Panic α}
    (outlines : Outlines focus related program outline)
    (course : Leads program history (ended result))
    (calm : history.Calm) :
    ∃ value other,
      result = .ok value ∧ related value other ∧
        Leads outline (history.filter focus.sees) (.done other) := by
  induction outlines generalizing history with
  | @done value other holds =>
      obtain ⟨rfl, same⟩ := leads_done.mp course
      cases result with
      | ok given => cases same; exact ⟨value, other, rfl, holds, .here _⟩
      | error panic => simp [ended] at same
  | asked seen _ inductionHypothesis =>
      rcases result with panic | result <;> cases course with
      | answered answer after =>
          obtain ⟨value, other, found, holds, shown⟩ :=
            inductionHypothesis answer after calm.tail
          refine ⟨value, other, found, holds, ?_⟩
          simpa [Focus.sees, seen] using .answered answer shown
      | panicked panic after => simpa [Event.isPanic] using calm _ List.mem_cons_self
  | askedAside unseen _ inductionHypothesis =>
      rcases result with panic | result <;> cases course with
      | answered answer after =>
          simpa [Focus.sees, unseen] using
            inductionHypothesis answer after calm.tail
      | panicked panic after => simpa [Event.isPanic] using calm _ List.mem_cons_self
  | acted seen _ inductionHypothesis =>
      rcases result with panic | result <;> cases course with
      | acted answer after =>
          obtain ⟨value, other, found, holds, shown⟩ :=
            inductionHypothesis answer after calm.tail
          refine ⟨value, other, found, holds, ?_⟩
          simpa [Focus.sees, seen] using .acted answer shown
  | actedAside unseen _ inductionHypothesis =>
      rcases result with panic | result <;> cases course with
      | acted answer after =>
          simpa [Focus.sees, unseen] using
            inductionHypothesis answer after calm.tail

end Outlines

/-- A program does nothing within a focus. -/
def Aside
    (focus : Focus)
    (program : Program α) :
    Prop :=
  Outlines focus (fun _ _ => True) program (.done ())

namespace Aside

variable {focus : Focus}

/-- A value is beside every focus. -/
theorem done (value : α) : Aside focus (.done value) :=
  Outlines.done trivial

/-- A question out of the focus. -/
theorem call
    {call : Call}
    (unseen : focus.asks call = false) :
    Aside focus (Program.call call) :=
  .askedAside unseen fun _ => Outlines.done trivial

/-- An action out of the focus. -/
theorem perform
    {action : Action}
    (unseen : focus.acts action = false) :
    Aside focus (Program.perform action) :=
  .actedAside unseen fun _ => Outlines.done trivial

/-- What comes before the rest does not show in its outline. -/
theorem before
    {related : γ → δ → Prop}
    {program : Program α}
    {next : α → Program γ}
    {outline : Program δ}
    (aside : Aside focus program)
    (rest : ∀ value, Outlines focus related (next value) outline) :
    Outlines focus related (program >>= next) outline := by
  have inRow :
      Outlines focus related (program >>= next) (Program.done () >>= fun _ => outline) :=
    Outlines.bind aside fun value _ _ => rest value
  exact inRow

/-- Two programs in a row that are both out of the focus. -/
theorem bind
    {program : Program α}
    {next : α → Program β}
    (aside : Aside focus program)
    (rest : ∀ value, Aside focus (next value)) :
    Aside focus (program >>= next) :=
  aside.before rest

end Aside

/-- What comes after the rest does not show in its outline. -/
theorem Outlines.thenAside
    {focus : Focus}
    {program : Program α}
    {next : α → Program γ}
    {outline : Program Unit}
    (first : Outlines focus (fun _ _ => True) program outline)
    (rest : ∀ value, Aside focus (next value)) :
    Outlines focus (fun _ _ => True) (program >>= next) outline := by
  have inRow :
      Outlines focus (fun _ _ => True) (program >>= next) (outline >>= Program.done) :=
    first.bind fun value _ _ => rest value
  rwa [show outline >>= Program.done = outline from bind_done outline] at inRow

end Program

end MmsInbox
