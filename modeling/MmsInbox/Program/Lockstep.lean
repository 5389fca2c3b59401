import Mathlib.Data.List.Forall2
import MmsInbox.Program.History

namespace MmsInbox

/-!
# Programs in step

Two programs go in step if they always put like questions and take like actions, as long as they are told
alike (`Program.InStep`). What it means to be alike is given by a `Likeness`. Two calm courses of such
programs, on which like questions have like answers at the same place, are alike event by event and come to
related results (`Program.InStep.alike`).
-/

/-- Which questions, actions and events count as alike. -/
structure Likeness where
  asked : Call → Call → Prop
  taken : Action → Action → Prop
  told : Event → Event → Prop

namespace Likeness

/-- Two events in which like questions were answered or like actions were taken. -/
inductive Posed (like : Likeness) : Event → Event → Prop where
  | answered
      {call other : Call}
      (alike : like.asked call other)
      (answer : call.Answer)
      (otherAnswer : other.Answer) :
      Posed like (.answered call answer) (.answered other otherAnswer)
  | acted
      {action other : Action}
      (alike : like.taken action other)
      (answer : action.Answer)
      (otherAnswer : other.Answer) :
      Posed like (.acted action answer) (.acted other otherAnswer)

/-- Wherever like questions are put, or like actions taken, at the same place, what comes of them is alike. -/
def Agree
    (like : Likeness)
    (first second : History) :
    Prop :=
  ∀ (place : Nat) (event other : Event),
    first[place]? = some event → second[place]? = some other →
      like.Posed event other → like.told event other

namespace Agree

variable
  {like : Likeness}
  {first second : History}
  {event other : Event}

theorem head
    (agree : like.Agree (event :: first) (other :: second))
    (posed : like.Posed event other) :
    like.told event other :=
  agree 0 event other rfl rfl posed

theorem tail (agree : like.Agree (event :: first) (other :: second)) : like.Agree first second :=
  fun place following otherFollowing inFirst inSecond =>
    agree (place + 1) following otherFollowing (by simpa using inFirst) (by simpa using inSecond)

end Agree

end Likeness

namespace Program

variable {α β γ δ : Type}

/-- Two programs put like questions and take like actions as long as they are told alike, and end with
related results. What they do after a panic does not matter. -/
inductive InStep
    (like : Likeness)
    (related : α → β → Prop) :
    Program α → Program β → Prop where
  | done
      {value : α}
      {other : β}
      (holds : related value other) :
      InStep like related (.done value) (.done other)
  | asked
      {call otherCall : Call}
      {answered : call.Answer → Program α}
      {otherAnswered : otherCall.Answer → Program β}
      {panicked : Panic → Program α}
      {otherPanicked : Panic → Program β}
      (alike : like.asked call otherCall)
      (later :
        ∀ answer otherAnswer,
          like.told (.answered call answer) (.answered otherCall otherAnswer) →
            InStep like related (answered answer) (otherAnswered otherAnswer)) :
      InStep like related (.ask call answered panicked)
        (.ask otherCall otherAnswered otherPanicked)
  | acted
      {action otherAction : Action}
      {next : action.Answer → Program α}
      {otherNext : otherAction.Answer → Program β}
      (alike : like.taken action otherAction)
      (later :
        ∀ answer otherAnswer,
          like.told (.acted action answer) (.acted otherAction otherAnswer) →
            InStep like related (next answer) (otherNext otherAnswer)) :
      InStep like related (.act action next) (.act otherAction otherNext)

namespace InStep

variable {like : Likeness}

/-- Like questions go in step; what they are told is related as it is told. -/
theorem call
    {call otherCall : Call}
    (alike : like.asked call otherCall) :
    InStep like
      (fun answer otherAnswer =>
        like.told (.answered call answer) (.answered otherCall otherAnswer))
      (Program.call call) (Program.call otherCall) :=
  .asked alike fun _ _ told => .done told

/-- Like actions go in step; what they yield is related as it is yielded. -/
theorem perform
    {action otherAction : Action}
    (alike : like.taken action otherAction) :
    InStep like
      (fun answer otherAnswer =>
        like.told (.acted action answer) (.acted otherAction otherAnswer))
      (Program.perform action) (Program.perform otherAction) :=
  .acted alike fun _ _ told => .done told

/-- Programs in a row go in step if they do one after the other. -/
theorem bind
    {related : α → β → Prop}
    {later : γ → δ → Prop}
    {program : Program α}
    {other : Program β}
    {next : α → Program γ}
    {otherNext : β → Program δ}
    (first : InStep like related program other)
    (second :
      ∀ value otherValue, related value otherValue →
        InStep like later (next value) (otherNext otherValue)) :
    InStep like later (program >>= next) (other >>= otherNext) := by
  induction first with
  | done holds => exact second _ _ holds
  | asked alike _ inductionHypothesis => exact .asked alike inductionHypothesis
  | acted alike _ inductionHypothesis => exact .acted alike inductionHypothesis

/-- Programs in step need not catch anything. -/
theorem catching
    {related : α → β → Prop}
    {program : Program α}
    {other : Program β}
    (inStep : InStep like related program other)
    (handler : Panic → Program α)
    (otherHandler : Panic → Program β) :
    InStep like related (program.catching handler) (other.catching otherHandler) := by
  induction inStep with
  | done holds => exact .done holds
  | asked alike _ inductionHypothesis => exact .asked alike inductionHypothesis
  | acted alike _ inductionHypothesis => exact .acted alike inductionHypothesis

/-- Programs in step, on calm courses that agree and lead to an end, are told alike event by event. -/
theorem alike
    {related : α → β → Prop}
    {program rest : Program α}
    {otherProgram otherRest : Program β}
    {first second : History}
    (inStep : InStep like related program otherProgram)
    (leads : Leads program first rest)
    (otherLeads : Leads otherProgram second otherRest)
    (ends : rest.hasEnded = true)
    (otherEnds : otherRest.hasEnded = true)
    (calm : first.Calm)
    (otherCalm : second.Calm)
    (agree : like.Agree first second) :
    List.Forall₂ like.told first second := by
  induction inStep generalizing first second with
  | done holds =>
      obtain ⟨rfl, _⟩ := leads_done.mp leads
      obtain ⟨rfl, _⟩ := leads_done.mp otherLeads
      exact .nil
  | asked alike _ inductionHypothesis =>
      cases leads with
      | here => cases ends
      | panicked panic later => exact Bool.noConfusion (calm _ List.mem_cons_self)
      | answered answer later =>
          cases otherLeads with
          | here => cases otherEnds
          | panicked panic later => exact Bool.noConfusion (otherCalm _ List.mem_cons_self)
          | answered otherAnswer otherLater =>
              have told := agree.head (.answered alike answer otherAnswer)
              exact .cons told (inductionHypothesis answer otherAnswer told later otherLater
                calm.tail otherCalm.tail agree.tail)
  | acted alike _ inductionHypothesis =>
      cases leads with
      | here => cases ends
      | acted answer later =>
          cases otherLeads with
          | here => cases otherEnds
          | acted otherAnswer otherLater =>
              have told := agree.head (.acted alike answer otherAnswer)
              exact .cons told (inductionHypothesis answer otherAnswer told later otherLater
                calm.tail otherCalm.tail agree.tail)

end InStep

end Program

end MmsInbox
