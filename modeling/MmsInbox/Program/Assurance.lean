import MmsInbox.Program.Outline

namespace MmsInbox.Program

/-!
# Assurances

What a program assures of all its courses at once: as long as everything that happens is as assumed,
everything that happens is as promised, and so is the result. An assurance is read off the program from
its first question on (`assures_bind`, `assures_catching`), and it holds of every course that the program
can be led on (`Assures.of_leads`).

What a program leaves aside is one source of assurances (`Aside.assures`). An assurance that assumes
nothing and promises nothing of the result has shorter rules (`KeepsTo`). That a program puts questions
of a kind no more often than a bound allows has rules of its own (`AsksAtMost`).
-/

variable {α β : Type}

/-- As long as all events are as assumed, they are as promised, and so is the result. -/
def Assures
    (assumed promised : Event → Prop)
    (result : Except Panic α → Prop) :
    Program α → Prop
  | .done value => result (.ok value)
  | .unwound panic => result (.error panic)
  | .ask call answered panicked =>
      (∀ answer, assumed (.answered call answer) →
        promised (.answered call answer) ∧
          (answered answer).Assures assumed promised result) ∧
      ∀ panic, assumed (.panicked call panic) →
        promised (.panicked call panic) ∧
          (panicked panic).Assures assumed promised result
  | .act action next =>
      ∀ answer, assumed (.acted action answer) →
        promised (.acted action answer) ∧ (next answer).Assures assumed promised result

section Rules

variable
  {assumed promised : Event → Prop}

@[simp] theorem assures_call
    {call : Call}
    {result : Except Panic call.Answer → Prop} :
    (Program.call call).Assures assumed promised result ↔
      (∀ answer, assumed (.answered call answer) →
        promised (.answered call answer) ∧ result (.ok answer)) ∧
      ∀ panic, assumed (.panicked call panic) →
        promised (.panicked call panic) ∧ result (.error panic) :=
  Iff.rfl

/-- Of two programs in a row, the first assures that the second assures the rest. -/
@[simp] theorem assures_bind
    {program : Program α}
    {next : α → Program β}
    {result : Except Panic β → Prop} :
    (program >>= next).Assures assumed promised result ↔
      program.Assures assumed promised fun
        | .ok value => (next value).Assures assumed promised result
        | .error panic => result (.error panic) := by
  induction program with
  | done value => exact Iff.rfl
  | unwound panic => exact Iff.rfl
  | ask call answered panicked answeredSame panickedSame =>
      simp only [ask_bind, Assures, answeredSame, panickedSame]
  | act action rest restSame =>
      simp only [act_bind, Assures, restSame]

/-- A program whose panics are caught assures that the handler assures the rest. -/
@[simp] theorem assures_catching
    {program : Program α}
    {handler : Panic → Program α}
    {result : Except Panic α → Prop} :
    (program.catching handler).Assures assumed promised result ↔
      program.Assures assumed promised fun
        | .ok value => result (.ok value)
        | .error panic => (handler panic).Assures assumed promised result := by
  induction program with
  | done value => exact Iff.rfl
  | unwound panic => exact Iff.rfl
  | ask call answered panicked answeredSame panickedSame =>
      simp only [catching, Assures, answeredSame, panickedSame]
  | act action rest restSame =>
      simp only [catching, Assures, restSame]

end Rules

namespace Assures

variable
  {assumed promised : Event → Prop}
  {result : Except Panic α → Prop}
  {program rest : Program α}
  {history : History}

/-- A weaker result is assured as well. -/
theorem weaken
    {weaker : Except Panic α → Prop}
    (assures : program.Assures assumed promised result)
    (follows : ∀ outcome, result outcome → weaker outcome) :
    program.Assures assumed promised weaker := by
  induction program with
  | done value => exact follows _ assures
  | unwound panic => exact follows _ assures
  | ask call answered panicked answeredWeaker panickedWeaker =>
      refine ⟨fun answer holds => ?_, fun panic holds => ?_⟩
      · obtain ⟨kept, later⟩ := assures.1 answer holds
        exact ⟨kept, answeredWeaker answer later⟩
      · obtain ⟨kept, later⟩ := assures.2 panic holds
        exact ⟨kept, panickedWeaker panic later⟩
  | act action next nextWeaker =>
      intro answer holds
      obtain ⟨kept, later⟩ := assures answer holds
      exact ⟨kept, nextWeaker answer later⟩

/-- What a program assures holds of every course that goes as assumed, and of what is left of it. -/
theorem of_leads
    (assures : program.Assures assumed promised result)
    (leads : Leads program history rest)
    (asAssumed : ∀ event ∈ history, assumed event) :
    (∀ event ∈ history, promised event) ∧ rest.Assures assumed promised result := by
  induction leads with
  | here program => exact ⟨by simp, assures⟩
  | answered answer _ inductionHypothesis =>
      obtain ⟨first, others⟩ := List.forall_mem_cons.mp asAssumed
      obtain ⟨kept, later⟩ := assures.1 answer first
      obtain ⟨allKept, restAssures⟩ := inductionHypothesis later others
      exact ⟨List.forall_mem_cons.mpr ⟨kept, allKept⟩, restAssures⟩
  | panicked panic _ inductionHypothesis =>
      obtain ⟨first, others⟩ := List.forall_mem_cons.mp asAssumed
      obtain ⟨kept, later⟩ := assures.2 panic first
      obtain ⟨allKept, restAssures⟩ := inductionHypothesis later others
      exact ⟨List.forall_mem_cons.mpr ⟨kept, allKept⟩, restAssures⟩
  | acted answer _ inductionHypothesis =>
      obtain ⟨first, others⟩ := List.forall_mem_cons.mp asAssumed
      obtain ⟨kept, later⟩ := assures answer first
      obtain ⟨allKept, restAssures⟩ := inductionHypothesis later others
      exact ⟨List.forall_mem_cons.mpr ⟨kept, allKept⟩, restAssures⟩

end Assures

namespace Assures

variable {assumed promised : Event → Prop}

/-- Two programs in a row, of which the first ends in a value. -/
theorem andThen
    {program : Program α}
    {next : α → Program β}
    {result : Except Panic β → Prop}
    (first : program.Assures assumed promised (·.isOk = true))
    (second : ∀ value, (next value).Assures assumed promised result) :
    (program >>= next).Assures assumed promised result := by
  refine assures_bind.mpr (first.weaken ?_)
  rintro (panic | value) ended
  · exact Bool.noConfusion ended
  · exact second value

/-- Two programs in a row keep what each of them keeps, however the first ends. -/
theorem followedBy
    {program : Program α}
    {next : α → Program β}
    (first : program.Assures assumed promised fun _ => True)
    (second : ∀ value, (next value).Assures assumed promised fun _ => True) :
    (program >>= next).Assures assumed promised fun _ => True := by
  refine assures_bind.mpr (first.weaken ?_)
  rintro (panic | value) _
  · trivial
  · exact second value

/-- A program whose panics are caught keeps what it and the handler keep. -/
theorem caughtBy
    {program : Program α}
    {handler : Panic → Program α}
    (first : program.Assures assumed promised fun _ => True)
    (second : ∀ panic, (handler panic).Assures assumed promised fun _ => True) :
    (program.catching handler).Assures assumed promised fun _ => True := by
  refine assures_catching.mpr (first.weaken ?_)
  rintro (panic | value) _
  · exact second panic
  · trivial

/-- A program that ends in a value has no use for a handler. -/
theorem uncaught
    {program : Program α}
    (assures : program.Assures assumed promised (·.isOk = true))
    (handler : Panic → Program α) :
    (program.catching handler).Assures assumed promised (·.isOk = true) := by
  refine assures_catching.mpr (assures.weaken ?_)
  rintro (panic | value) ended
  · exact Bool.noConfusion ended
  · rfl

end Assures

/-- What a program leaves aside does not happen in it, and it ends in a value, as long as nobody
panics. -/
theorem Aside.assures
    {focus : Focus}
    {assumed : Event → Prop}
    {program : Program α}
    (aside : Aside focus program)
    (calm : ∀ event, assumed event → event.isPanic = false) :
    program.Assures assumed (fun event => focus.sees event = false) (·.isOk = true) := by
  unfold Aside at aside
  generalize shape : Program.done () = outline at aside
  induction aside with
  | done holds => rfl
  | asked seen _ _ => cases shape
  | askedAside unseen _ inductionHypothesis =>
      exact ⟨fun answer _ => ⟨unseen, inductionHypothesis answer shape⟩,
        fun panic holds => Bool.noConfusion (calm _ holds)⟩
  | acted seen _ _ => cases shape
  | actedAside unseen _ inductionHypothesis =>
      exact fun answer _ => ⟨unseen, inductionHypothesis answer shape⟩

/-- On a calm course nothing happens that the program leaves aside. -/
theorem Aside.filter_eq_nil
    {focus : Focus}
    {program rest : Program α}
    {history : History}
    (aside : Aside focus program)
    (leads : Leads program history rest)
    (calm : history.Calm) :
    history.filter focus.sees = [] := by
  obtain ⟨unseen, _⟩ := (aside.assures fun _ holds => holds).of_leads leads calm
  exact List.filter_eq_nil_iff.mpr fun event member => by simp [unseen event member]

/-- Whatever a program is told, only events of a kind happen in it. -/
def KeepsTo
    (kind : Event → Prop)
    (program : Program α) :
    Prop :=
  program.Assures (fun _ => True) kind fun _ => True

namespace KeepsTo

variable {kind : Event → Prop}

theorem done (value : α) : (Program.done value).KeepsTo kind := trivial

theorem call
    {call : Call}
    (answered : ∀ answer, kind (.answered call answer))
    (panicked : ∀ panic, kind (.panicked call panic)) :
    (Program.call call).KeepsTo kind :=
  ⟨fun answer _ => ⟨answered answer, trivial⟩, fun panic _ => ⟨panicked panic, trivial⟩⟩

theorem perform
    {action : Action}
    (acted : ∀ answer, kind (.acted action answer)) :
    (Program.perform action).KeepsTo kind :=
  fun answer _ => ⟨acted answer, trivial⟩

theorem bind
    {program : Program α}
    {next : α → Program β}
    (first : program.KeepsTo kind)
    (second : ∀ value, (next value).KeepsTo kind) :
    (program >>= next).KeepsTo kind :=
  Assures.followedBy first second

theorem catching
    {program : Program α}
    {handler : Panic → Program α}
    (first : program.KeepsTo kind)
    (second : ∀ panic, (handler panic).KeepsTo kind) :
    (program.catching handler).KeepsTo kind :=
  Assures.caughtBy first second

/-- All that happens on a course of the program is of that kind, and so is what is left. -/
theorem of_leads
    {program rest : Program α}
    {history : History}
    (keeps : program.KeepsTo kind)
    (leads : Leads program history rest) :
    (∀ event ∈ history, kind event) ∧ rest.KeepsTo kind :=
  Assures.of_leads keeps leads fun _ _ => trivial

end KeepsTo

/-- Questions of a kind are put no more often than a bound allows, whatever is answered. -/
def AsksAtMost
    (counted : Call → Bool) :
    Nat → Program α → Prop
  | _, .done _ => True
  | _, .unwound _ => True
  | bound, .ask call answered panicked =>
      if counted call then
        0 < bound ∧
          (∀ answer, (answered answer).AsksAtMost counted (bound - 1)) ∧
          ∀ panic, (panicked panic).AsksAtMost counted (bound - 1)
      else
        (∀ answer, (answered answer).AsksAtMost counted bound) ∧
          ∀ panic, (panicked panic).AsksAtMost counted bound
  | bound, .act _ next => ∀ answer, (next answer).AsksAtMost counted bound

namespace AsksAtMost

variable {counted : Call → Bool}

/-- A greater bound allows as much. -/
theorem mono
    {program : Program α}
    {smaller greater : Nat}
    (bounded : program.AsksAtMost counted smaller)
    (le : smaller ≤ greater) :
    program.AsksAtMost counted greater := by
  induction program generalizing smaller greater with
  | done value => trivial
  | unwound panic => trivial
  | ask call answered panicked answeredMono panickedMono =>
      simp only [AsksAtMost] at bounded ⊢
      split
      · rw [if_pos ‹_›] at bounded
        obtain ⟨positive, first, second⟩ := bounded
        exact ⟨by omega, fun answer => answeredMono answer (first answer) (by omega),
          fun panic => panickedMono panic (second panic) (by omega)⟩
      · rw [if_neg ‹_›] at bounded
        exact ⟨fun answer => answeredMono answer (bounded.1 answer) le,
          fun panic => panickedMono panic (bounded.2 panic) le⟩
  | act action next nextMono =>
      exact fun answer => nextMono answer (bounded answer) le

/-- A question of another kind does not count. -/
theorem call_other
    {call : Call}
    (other : counted call = false)
    (bound : Nat) :
    (Program.call call).AsksAtMost counted bound := by
  simp [Program.call, AsksAtMost, other]

/-- A question counts once at most. -/
theorem call_once (call : Call) : (Program.call call).AsksAtMost counted 1 := by
  simp [Program.call, AsksAtMost]

/-- Of two programs in a row the bounds add up. -/
theorem bind
    {program : Program α}
    {next : α → Program β}
    {first second : Nat}
    (bounded : program.AsksAtMost counted first)
    (nextBounded : ∀ value, (next value).AsksAtMost counted second) :
    (program >>= next).AsksAtMost counted (first + second) := by
  induction program generalizing first with
  | done value => exact (nextBounded value).mono (by omega)
  | unwound panic => trivial
  | ask call answered panicked answeredBound panickedBound =>
      simp only [AsksAtMost, ask_bind] at bounded ⊢
      split
      · rw [if_pos ‹_›] at bounded
        obtain ⟨positive, ofAnswer, ofPanic⟩ := bounded
        have less : first - 1 + second = first + second - 1 := by omega
        exact ⟨by omega, fun answer => less ▸ answeredBound answer (ofAnswer answer),
          fun panic => less ▸ panickedBound panic (ofPanic panic)⟩
      · rw [if_neg ‹_›] at bounded
        exact ⟨fun answer => answeredBound answer (bounded.1 answer),
          fun panic => panickedBound panic (bounded.2 panic)⟩
  | act action rest restBound =>
      exact fun answer => restBound answer (bounded answer)

/-- What puts no counted question leaves the bound to the rest. -/
theorem aside
    {program : Program α}
    {next : α → Program β}
    {bound : Nat}
    (silent : program.AsksAtMost counted 0)
    (nextBounded : ∀ value, (next value).AsksAtMost counted bound) :
    (program >>= next).AsksAtMost counted bound :=
  Nat.zero_add bound ▸ silent.bind nextBounded

/-- What puts no counted question adds nothing to the bound. -/
theorem before
    {program : Program α}
    {next : α → Program β}
    {bound : Nat}
    (bounded : program.AsksAtMost counted bound)
    (silent : ∀ value, (next value).AsksAtMost counted 0) :
    (program >>= next).AsksAtMost counted bound :=
  bounded.bind silent

/-- A handler that puts no counted question leaves the bound as it is. -/
theorem catching
    {program : Program α}
    {handler : Panic → Program α}
    {bound : Nat}
    (bounded : program.AsksAtMost counted bound)
    (silent : ∀ panic, (handler panic).AsksAtMost counted 0) :
    (program.catching handler).AsksAtMost counted bound := by
  induction program generalizing bound with
  | done value => trivial
  | unwound panic => exact (silent panic).mono (by omega)
  | ask call answered panicked answeredBound panickedBound =>
      simp only [AsksAtMost, Program.catching] at bounded ⊢
      split
      · rw [if_pos ‹_›] at bounded
        obtain ⟨positive, ofAnswer, ofPanic⟩ := bounded
        exact ⟨positive, fun answer => answeredBound answer (ofAnswer answer),
          fun panic => panickedBound panic (ofPanic panic)⟩
      · rw [if_neg ‹_›] at bounded
        exact ⟨fun answer => answeredBound answer (bounded.1 answer),
          fun panic => panickedBound panic (bounded.2 panic)⟩
  | act action rest restBound =>
      exact fun answer => restBound answer (bounded answer)

/-- A program that puts no counted question keeps every promise that only counted questions can break. -/
theorem assures
    {program : Program α}
    {assumed promised : Event → Prop}
    (never : program.AsksAtMost counted 0)
    (kept : ∀ event, (∀ call, event.call? = some call → counted call = false) → promised event) :
    program.Assures assumed promised fun _ => True := by
  induction program with
  | done value => trivial
  | unwound panic => trivial
  | ask call answered panicked answeredKept panickedKept =>
      simp only [AsksAtMost] at never
      split at never
      · exact absurd never.1 (Nat.lt_irrefl 0)
      · rename_i other
        have uncounted : counted call = false := Bool.eq_false_iff.mpr other
        exact ⟨fun answer _ => ⟨kept _ (by rintro _ ⟨⟩; exact uncounted),
            answeredKept answer (never.1 answer)⟩,
          fun panic _ => ⟨kept _ (by rintro _ ⟨⟩; exact uncounted),
            panickedKept panic (never.2 panic)⟩⟩
  | act action next nextKept =>
      exact fun answer _ => ⟨kept _ nofun, nextKept answer (never answer)⟩

/-- No course of the program goes beyond the bound. -/
theorem countP_calls_le
    {program rest : Program α}
    {history : History}
    {bound : Nat}
    (bounded : program.AsksAtMost counted bound)
    (leads : Leads program history rest) :
    history.calls.countP counted ≤ bound := by
  induction leads generalizing bound with
  | here program => simp [History.calls]
  | @answered call _ _ _ _ answer _ inductionHypothesis =>
      simp only [AsksAtMost] at bounded
      split at bounded
      · have later := inductionHypothesis (bounded.2.1 answer)
        simp only [History.calls, List.filterMap_cons, Event.call?, List.countP_cons] at later ⊢
        split <;> omega
      · have later := inductionHypothesis (bounded.1 answer)
        simpa [History.calls, Event.call?, List.countP_cons, ‹¬ counted call = true›] using later
  | @panicked call _ _ _ _ panic _ inductionHypothesis =>
      simp only [AsksAtMost] at bounded
      split at bounded
      · have later := inductionHypothesis (bounded.2.2 panic)
        simp only [History.calls, List.filterMap_cons, Event.call?, List.countP_cons] at later ⊢
        split <;> omega
      · have later := inductionHypothesis (bounded.2 panic)
        simpa [History.calls, Event.call?, List.countP_cons, ‹¬ counted call = true›] using later
  | acted answer _ inductionHypothesis =>
      exact inductionHypothesis (bounded answer)

end AsksAtMost

end MmsInbox.Program
