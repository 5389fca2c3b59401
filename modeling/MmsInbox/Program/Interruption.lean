import MmsInbox.Program.Passage

namespace MmsInbox

/-!
# Interruptions

Every question could be answered. So whatever has happened so far in a program that forwards panics lies
along a calm course of it that comes to a value (`Program.ForwardsPanics.exists_course`), and a panic that
ends the program cuts such a course short (`Program.CutShort`). What is known of the calm courses of a
program is then known of all that can happen in it, event by event (`History.Along.split`).
-/

/-- Every question has some answer. -/
theorem Call.nonempty_answer (call : Call) : Nonempty call.Answer := by
  cases call with
  | parse payload => exact ⟨.error (.truncated 0)⟩
  | compose pdu => exact ⟨.error (.truncated 0)⟩
  | persist record => exact ⟨.error (.internal "")⟩
  | load uri => exact ⟨.error (.internal "")⟩
  | deletePending location => exact ⟨.ok 0⟩
  | updateRetrieveStatus location status => exact ⟨.ok 0⟩
  | isAddressBlocked address => exact ⟨false⟩
  | relayCredentials subscription => exact ⟨none⟩
  | lineNumber subscription => exact ⟨none⟩
  | onMessageReceived id => exact ⟨()⟩
  | onError error => exact ⟨()⟩
  | submit tasks => exact ⟨()⟩
  | prefersDirectPath => exact ⟨false⟩
  | ensureRouteToHost relayUrl proxy => exact ⟨.ok ()⟩
  | post request => exact ⟨()⟩
  | awaitResponse => exact ⟨.error (.timeout "")⟩

/-- Every action yields something. -/
theorem Action.nonempty_answer (action : Action) : Nonempty action.Answer := by
  cases action with
  | readFile path => exact ⟨.ok []⟩
  | removeFile path => exact ⟨.ok ()⟩
  | finishDownload location => exact ⟨none⟩
  | audit event => exact ⟨()⟩
  | note notice => exact ⟨()⟩

namespace History

/-- A history goes along a course: up to some point of it, or up to a question of it at which a
collaborator panics. -/
inductive Along (course : History) : History → Prop where
  | upTo
      {done later : History}
      (reached : course = done ++ later) :
      Along course done
  | brokenOff
      {done later : History}
      {call : Call}
      {answer : call.Answer}
      (panic : Panic)
      (reached : course = done ++ .answered call answer :: later) :
      Along course (done ++ [.panicked call panic])

namespace Along

variable {course history : History}

/-- Along a course no other questions are put than on it, and in the same order. -/
theorem calls_prefix (along : Along course history) : history.calls <+: course.calls := by
  cases along with
  | @upTo _ later reached => exact ⟨later.calls, by rw [reached, calls_append]⟩
  | @brokenOff _ later call answer panic reached =>
      exact ⟨later.calls, by simp [reached]⟩

/-- What happens along a course, other than a panic, happens on it. -/
theorem mem
    (along : Along course history)
    {event : Event}
    (member : event ∈ history)
    (calm : event.isPanic = false) :
    event ∈ course := by
  cases along with
  | upTo reached => exact reached ▸ List.mem_append_left _ member
  | brokenOff panic reached =>
      rcases List.mem_append.mp member with before | last
      · exact reached ▸ List.mem_append_left _ before
      · obtain rfl := List.mem_singleton.mp last
        cases calm

/-- Before each question that is put along a calm course, the same has happened as on the course. -/
theorem split
    {before after : History}
    {event : Event}
    {call : Call}
    (calm : course.Calm)
    (put : event.call? = some call)
    (along : Along course (before ++ event :: after)) :
    ∃ answer later, course = before ++ .answered call answer :: later := by
  -- On the course itself the question was answered, as nobody panics there.
  have onCourse :
      ∀ {done later : History}, done = before ++ event :: later → done <+: course →
        ∃ answer later, course = before ++ .answered call answer :: later := by
    intro done later reached isPart
    obtain ⟨rest, rfl⟩ := isPart
    have quiet : event.isPanic = false := calm event (by simp [reached])
    cases event with
    | answered question answer =>
        cases put
        exact ⟨answer, later ++ rest, by rw [reached, List.append_assoc, List.cons_append]⟩
    | panicked question panic => cases quiet
    | acted action answer => cases put
  generalize split : before ++ event :: after = history at along
  cases along with
  | @upTo _ later reached => exact onCourse split.symm ⟨later, reached.symm⟩
  | @brokenOff done later question answer panic reached =>
      rcases List.eq_nil_or_concat after with rfl | ⟨between, last, rfl⟩
      · obtain ⟨rfl, same⟩ := List.append_inj' split rfl
        obtain ⟨rfl, _⟩ := List.cons.inj same
        cases put
        exact ⟨answer, later, reached⟩
      · have inner : (before ++ event :: between) ++ [last] = done ++ [.panicked question panic] := by
          simpa using split
        obtain ⟨same, _⟩ := List.append_inj' inner rfl
        exact onCourse same.symm ⟨_, reached.symm⟩

end Along

end History

namespace Program

variable {α : Type}

/-- A calm course of a program to a value is cut short by a panic. -/
inductive CutShort (program : Program α) (panic : Panic) : History → Prop where
  | intro
      {done later : History}
      {call : Call}
      {answer : call.Answer}
      {value : α}
      (calm : History.Calm (done ++ .answered call answer :: later))
      (leads : Leads program (done ++ .answered call answer :: later) (.done value)) :
      CutShort program panic (done ++ [.panicked call panic])

namespace CutShort

variable
  {panic : Panic}
  {history : History}

/-- What is cut short after an answer is cut short. -/
theorem answered
    {call : Call}
    {answered : call.Answer → Program α}
    {panicked : Panic → Program α}
    {answer : call.Answer}
    (cut : CutShort (answered answer) panic history) :
    CutShort (.ask call answered panicked) panic (.answered call answer :: history) := by
  obtain ⟨calm, leads⟩ := cut
  rw [← List.cons_append]
  exact .intro (List.forall_mem_cons.mpr ⟨rfl, calm⟩) (.answered answer leads)

/-- What is cut short after an action is cut short. -/
theorem acted
    {action : Action}
    {next : action.Answer → Program α}
    {answer : action.Answer}
    (cut : CutShort (next answer) panic history) :
    CutShort (.act action next) panic (.acted action answer :: history) := by
  obtain ⟨calm, leads⟩ := cut
  rw [← List.cons_append]
  exact .intro (List.forall_mem_cons.mpr ⟨rfl, calm⟩) (.acted answer leads)

end CutShort

namespace ForwardsPanics

variable
  {program rest : Program α}
  {history : History}

/-- A program that forwards panics has a calm course to a value. -/
theorem exists_end (forwards : program.ForwardsPanics) :
    ∃ course value, course.Calm ∧ Leads program course (.done value) := by
  induction program with
  | done value => exact ⟨[], value, by simp [History.Calm], .here _⟩
  | unwound panic => exact forwards.elim
  | ask call answered panicked answeredEnds _ =>
      obtain ⟨answer⟩ := call.nonempty_answer
      obtain ⟨course, value, calm, leads⟩ := answeredEnds answer (forwards.1 answer)
      exact ⟨_, value, List.forall_mem_cons.mpr ⟨rfl, calm⟩, .answered answer leads⟩
  | act action next nextEnds =>
      obtain ⟨answer⟩ := action.nonempty_answer
      obtain ⟨course, value, calm, leads⟩ := nextEnds answer (forwards answer)
      exact ⟨_, value, List.forall_mem_cons.mpr ⟨rfl, calm⟩, .acted answer leads⟩

/-- As long as nobody panics, what is left of a program that forwards panics does so as well; a panic ends
it. -/
theorem of_leads
    (forwards : program.ForwardsPanics)
    (leads : Leads program history rest) :
    history.Calm ∧ rest.ForwardsPanics ∨
      ∃ panic, rest = .unwound panic ∧ CutShort program panic history := by
  induction leads with
  | here program => exact .inl ⟨by simp [History.Calm], forwards⟩
  | answered answer _ inductionHypothesis =>
      rcases inductionHypothesis (forwards.1 answer) with ⟨calm, later⟩ | ⟨panic, ends, cut⟩
      · exact .inl ⟨List.forall_mem_cons.mpr ⟨rfl, calm⟩, later⟩
      · exact .inr ⟨panic, ends, cut.answered⟩
  | @panicked call answered panicked _ _ panic later _ =>
      rw [forwards.2 panic] at later
      obtain ⟨rfl, rfl⟩ := leads_unwound.mp later
      obtain ⟨answer⟩ := call.nonempty_answer
      obtain ⟨course, value, calm, leads⟩ := (forwards.1 answer).exists_end
      have cut : CutShort (.ask call answered panicked) panic ([] ++ [.panicked call panic]) :=
        .intro (List.forall_mem_cons.mpr ⟨rfl, calm⟩) (.answered answer leads)
      exact .inr ⟨panic, rfl, cut⟩
  | acted answer _ inductionHypothesis =>
      rcases inductionHypothesis (forwards answer) with ⟨calm, later⟩ | ⟨panic, ends, cut⟩
      · exact .inl ⟨List.forall_mem_cons.mpr ⟨rfl, calm⟩, later⟩
      · exact .inr ⟨panic, ends, cut.acted⟩

/-- If a program that forwards panics has come to a value, nobody has panicked. -/
theorem calm_of_leads
    {value : α}
    (forwards : program.ForwardsPanics)
    (leads : Leads program history (.done value)) :
    history.Calm := by
  rcases forwards.of_leads leads with ⟨calm, _⟩ | ⟨panic, ends, _⟩
  · exact calm
  · cases ends

/-- If a program that forwards panics has ended in one, a calm course was cut short by it. -/
theorem cutShort_of_leads
    {panic : Panic}
    (forwards : program.ForwardsPanics)
    (leads : Leads program history (.unwound panic)) :
    CutShort program panic history := by
  rcases forwards.of_leads leads with ⟨_, later⟩ | ⟨same, ends, cut⟩
  · exact later.elim
  · cases ends
    exact cut

/-- Whatever has happened so far in a program that forwards panics lies along a calm course of it. -/
theorem exists_course
    (forwards : program.ForwardsPanics)
    (leads : Leads program history rest) :
    ∃ course value, course.Calm ∧ Leads program course (.done value) ∧ course.Along history := by
  rcases forwards.of_leads leads with ⟨calm, later⟩ | ⟨panic, rfl, calm, course⟩
  · obtain ⟨remaining, value, calmToo, onwards⟩ := later.exists_end
    exact ⟨history ++ remaining, value, (History.calm_append _ _).mpr ⟨calm, calmToo⟩,
      leads.trans onwards, .upTo rfl⟩
  · exact ⟨_, _, calm, course, .brokenOff panic rfl⟩

end ForwardsPanics

theorem hasEnded_ended (result : Except Panic α) : (ended result).hasEnded = true := by
  cases result <;> rfl

theorem ended_eq_done
    {value : α}
    {result : Except Panic α} :
    ended result = .done value ↔ result = .ok value := by
  cases result <;> simp [ended]

theorem ended_eq_unwound
    {panic : Panic}
    {result : Except Panic α} :
    ended result = .unwound panic ↔ result = .error panic := by
  cases result <;> simp [ended]

/-- Two programs in a row end where the second ends, unless the first has ended in a panic. -/
theorem leads_bind_of_hasEnded
    {β : Type}
    {program : Program α}
    {next : α → Program β}
    {history : History}
    {rest : Program β}
    (finished : rest.hasEnded = true)
    (leads : Leads (program >>= next) history rest) :
    (∃ value first second,
        history = first ++ second ∧
          Leads program first (.done value) ∧ Leads (next value) second rest) ∨
      ∃ panic, rest = .unwound panic ∧ Leads program history (.unwound panic) := by
  induction program generalizing history with
  | done value => exact .inl ⟨value, [], history, rfl, .here _, leads⟩
  | unwound panic =>
      obtain ⟨rfl, rfl⟩ := leads_unwound.mp leads
      exact .inr ⟨panic, rfl, .here _⟩
  | ask call answered panicked answeredEnds panickedEnds =>
      cases leads with
      | here => cases finished
      | answered answer later =>
          rcases answeredEnds answer later with ⟨value, first, second, rfl, earlier, after⟩ |
            ⟨panic, ends, earlier⟩
          · exact .inl ⟨value, _ :: first, second, rfl, .answered answer earlier, after⟩
          · exact .inr ⟨panic, ends, .answered answer earlier⟩
      | panicked panic later =>
          rcases panickedEnds panic later with ⟨value, first, second, rfl, earlier, after⟩ |
            ⟨cause, ends, earlier⟩
          · exact .inl ⟨value, _ :: first, second, rfl, .panicked panic earlier, after⟩
          · exact .inr ⟨cause, ends, .panicked panic earlier⟩
  | act action follows followsEnds =>
      cases leads with
      | here => cases finished
      | acted answer later =>
          rcases followsEnds answer later with ⟨value, first, second, rfl, earlier, after⟩ |
            ⟨panic, ends, earlier⟩
          · exact .inl ⟨value, _ :: first, second, rfl, .acted answer earlier, after⟩
          · exact .inr ⟨panic, ends, .acted answer earlier⟩

/-- What goes on after an action ends where the rest ends, from what the action has yielded. -/
theorem leads_perform_bind_of_hasEnded
    {β : Type}
    {action : Action}
    {next : action.Answer → Program β}
    {history : History}
    {rest : Program β}
    (finished : rest.hasEnded = true)
    (leads : Leads (perform action >>= next) history rest) :
    ∃ answer later,
      history = .acted action answer :: later ∧ Leads (next answer) later rest := by
  cases leads with
  | here => cases finished
  | acted answer later => exact ⟨answer, _, rfl, later⟩

/-- A program whose panics are caught ends where it comes to a value, or else where the handler ends. -/
theorem leads_catching_of_hasEnded
    {program rest : Program α}
    {handler : Panic → Program α}
    {history : History}
    (finished : rest.hasEnded = true)
    (leads : Leads (program.catching handler) history rest) :
    (∃ value, rest = .done value ∧ Leads program history (.done value)) ∨
      ∃ panic first second,
        history = first ++ second ∧
          Leads program first (.unwound panic) ∧ Leads (handler panic) second rest := by
  induction program generalizing history with
  | done value =>
      obtain ⟨rfl, rfl⟩ := leads_done.mp leads
      exact .inl ⟨value, rfl, .here _⟩
  | unwound panic => exact .inr ⟨panic, [], history, rfl, .here _, leads⟩
  | ask call answered panicked answeredEnds panickedEnds =>
      cases leads with
      | here => cases finished
      | answered answer later =>
          rcases answeredEnds answer later with ⟨value, ends, earlier⟩ |
            ⟨panic, first, second, rfl, earlier, handled⟩
          · exact .inl ⟨value, ends, .answered answer earlier⟩
          · exact .inr ⟨panic, _ :: first, second, rfl, .answered answer earlier, handled⟩
      | panicked panic later =>
          rcases panickedEnds panic later with ⟨value, ends, earlier⟩ |
            ⟨cause, first, second, rfl, earlier, handled⟩
          · exact .inl ⟨value, ends, .panicked panic earlier⟩
          · exact .inr ⟨cause, _ :: first, second, rfl, .panicked panic earlier, handled⟩
  | act action next nextEnds =>
      cases leads with
      | here => cases finished
      | acted answer later =>
          rcases nextEnds answer later with ⟨value, ends, earlier⟩ |
            ⟨panic, first, second, rfl, earlier, handled⟩
          · exact .inl ⟨value, ends, .acted answer earlier⟩
          · exact .inr ⟨panic, _ :: first, second, rfl, .acted answer earlier, handled⟩

end Program

end MmsInbox
