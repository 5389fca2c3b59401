import MmsInbox.Proofs.Ack.Merging
import MmsInbox.Proofs.Engine.Order
import MmsInbox.Proofs.Receive.Handover
import MmsInbox.Proofs.Receive.Independence

namespace MmsInbox

/-!
# Closing the source loses no acknowledgment

When the source of downloads closes and the controller returns after that, every task that a run has handed
to the lane has been attempted (`Engine.spared_of_run?`): the attempts are an order-preserving merge of what
the runs have handed over, nothing has been discarded, and nothing has been refused.
-/

open Program

namespace Engine

variable {σ : Type}

/-- If tasks are handed over once at most, and come in turn, they come in turn altogether. -/
theorem inTurn_of_calls
    {calls : List Call}
    (once : calls.countP Receive.isSubmit ≤ 1)
    (inTurn : ∀ tasks, .submit tasks ∈ calls → Receive.inTurn tasks = true) :
    Receive.inTurn (calls.flatMap tasksOf) = true := by
  induction calls with
  | nil => rfl
  | cons call later inductionHypothesis =>
      have inTurnLater := fun tasks member => inTurn tasks (List.mem_cons_of_mem call member)
      cases call with
      | submit tasks =>
          have never : later.countP Receive.isSubmit = 0 := by
            rw [List.countP_cons_of_pos rfl] at once
            omega
          have silent : later.flatMap tasksOf = [] := by
            refine List.flatMap_eq_nil_iff.mpr fun other member => tasksOf_eq_nil ?_
            rintro more rfl
            exact absurd rfl (List.countP_eq_zero.mp never _ member)
          simpa [silent, tasksOf] using inTurn tasks List.mem_cons_self
      | _ =>
          rw [List.countP_cons_of_neg Bool.false_ne_true] at once
          exact inductionHypothesis once inTurnLater

theorem Run.Sound.inTurn
    {config : Config}
    {traffic : Traffic σ}
    {number : Nat}
    {run : Run}
    (sound : run.Sound config traffic number) :
    Receive.inTurn run.submitted = true :=
  inTurn_of_calls (Receive.countP_isSubmit_le_one sound.course) fun _ member =>
    Receive.inTurn_of_leads sound.course member

/-- Once all runs have ended, each of them has pushed what it has handed over. -/
theorem Tended.pushedBy_of_resolved
    {config : Config}
    {engine : Engine σ}
    (tended : engine.Tended config)
    (atEnd : ∀ run ∈ engine.runs, run.resolved = true)
    (number : Nat) :
    engine.traffic.pushedBy number = (engine.runs.map Run.submitted)[number]?.getD [] := by
  cases present : engine.runs[number]? with
  | none =>
      have unpushed : engine.traffic.pushedBy number = [] :=
        Traffic.pushedBy_eq_nil (fun _ => tended.owned) (List.getElem?_eq_none_iff.mp present)
      simp [present, unpushed]
  | some run =>
      have sound := tended.sound present
      have ended := sound.ended (atEnd run (List.mem_of_getElem? present))
      simp [present, sound.pushedBy_of_hasEnded ended]

/-- What is kept in an engine that nobody disturbs. -/
structure Kept
    (config : Config)
    (engine : Engine σ) :
    Prop where
  tended : engine.Tended config
  accounts : engine.traffic.Accounts config.acknowledgment
  orderly : engine.Orderly

variable
  {surroundings : Surroundings σ}
  {config : Config}
  {engine later : Engine σ}
  {moves : List (Move σ)}

/-- An engine that is not disturbed in the end has never been. -/
theorem undisturbed_of_run?
    (ran : run? surroundings config moves engine = some later)
    (calm : later.traffic.record.Calm)
    (unhindered : later.Unhindered) :
    engine.traffic.record.Calm ∧ engine.Unhindered := by
  induction moves generalizing engine with
  | nil =>
      obtain rfl := Option.some.inj ran
      exact ⟨calm, unhindered⟩
  | cons move moves inductionHypothesis =>
      obtain ⟨next, stepped, ranOn⟩ := Option.bind_eq_some_iff.mp ran
      obtain ⟨calmNext, unhinderedNext⟩ := inductionHypothesis ranOn
      have goes := goes_of_step? stepped
      exact ⟨goes.calm calmNext, goes.unhindered unhinderedNext⟩

namespace Kept

theorem new
    (permits : Receive.Permits)
    (signalCapacity : Nat)
    (world : σ) :
    (Engine.new permits signalCapacity world).Kept config where
  tended := .new permits signalCapacity world
  accounts := .new signalCapacity world
  orderly := .new permits signalCapacity world

/-- Whatever happens in an engine that nobody disturbs, it is kept. -/
theorem run
    (kept : engine.Kept config)
    (ran : run? surroundings config moves engine = some later)
    (calm : later.traffic.record.Calm)
    (unhindered : later.Unhindered) :
    later.Kept config := by
  induction moves generalizing engine with
  | nil =>
      obtain rfl := Option.some.inj ran
      exact kept
  | cons move moves inductionHypothesis =>
      obtain ⟨next, stepped, ranOn⟩ := Option.bind_eq_some_iff.mp ran
      obtain ⟨calmNext, unhinderedNext⟩ := undisturbed_of_run? ranOn calm unhindered
      have goes := goes_of_step? stepped
      refine inductionHypothesis ⟨kept.tended.step goes, ?_, ?_⟩ ranOn
      · exact goes.accounts kept.accounts calmNext
      · exact kept.orderly.step kept.tended kept.accounts goes unhinderedNext (goes.calm calmNext)

end Kept

/-- No acknowledgment has been lost. -/
structure Spared
    (config : Config)
    (engine : Engine σ) :
    Prop where
  /-- Every run has come to its end. -/
  atEnd
    {run : Run}
    (member : run ∈ engine.runs) :
    Leads (Receive.process config.defaultSubscription run.download) run.record run.rest ∧
      run.rest.hasEnded = true
  /-- The attempts are an order-preserving merge of what the runs have handed to the lane. -/
  merged : Merges (engine.runs.map Run.submitted) engine.traffic.attempted
  /-- Every task has been attempted once. -/
  onceEach : engine.traffic.attempted.Perm (engine.runs.flatMap Run.submitted)
  /-- What a run has handed over is attempted in order, the final acknowledgment before the response. -/
  inTurn
    {run : Run}
    (member : run ∈ engine.runs) :
    run.submitted.Sublist engine.traffic.attempted ∧ Receive.inTurn run.submitted = true
  /-- Every attempt was a whole delivery. -/
  chronicle : Chronicle config.acknowledgment engine.traffic.log engine.traffic.record
  sendsOver : engine.traffic.sendsOver = engine.traffic.attempted.length
  undiscarded : engine.traffic.discarded = []
  unrefused : engine.traffic.refused = []

/-- When the controller returns in an engine that nobody has disturbed, no acknowledgment has been lost. -/
theorem Kept.spared
    {ending : Ending}
    (kept : engine.Kept config)
    (calm : engine.traffic.record.Calm)
    (returned : engine.control = .returned ending)
    (room : engine.late.length < engine.traffic.lane.signals.capacity) :
    engine.Spared config := by
  obtain ⟨tended, accounts, orderly⟩ := kept
  have stopped : engine.reception.phase = .stopped := by
    by_contra going
    simpa [returned] using orderly.attended going
  have atEnd : ∀ run ∈ engine.runs, run.resolved = true := orderly.resolved stopped
  obtain ⟨chronicle, empty, _, spares⟩ := accounts.of_hasEnded calm (orderly.ended returned)
  have undiscarded : engine.traffic.discarded = [] := by
    rcases orderly.told (by simp [returned]) room with told | ⟨unheard, _⟩
    · exact spares (.inr told)
    · exact spares (.inl unheard)
  have attempted : engine.traffic.pushes.map (·.task) = engine.traffic.attempted := by
    have balanced := accounts.balanced
    have all := Traffic.accepted_of_unrefused orderly.taken
    simpa [undiscarded, empty, all] using balanced
  have merged : Merges (engine.runs.map Run.submitted) engine.traffic.attempted := by
    rw [← attempted]
    refine merges_of_pushes fun number => ?_
    exact tended.pushedBy_of_resolved atEnd number
  refine ⟨fun member => ?_, merged, ?_, fun member => ⟨?_, ?_⟩, chronicle,
    chronicle.attempts_over.symm, undiscarded, orderly.taken⟩
  · obtain ⟨number, present⟩ := List.mem_iff_getElem?.mp member
    have sound := tended.sound present
    exact ⟨sound.course, sound.ended (atEnd _ member)⟩
  · exact List.flatMap_def ▸ merged.perm
  · exact merged.sublist (List.mem_map_of_mem member)
  · obtain ⟨number, present⟩ := List.mem_iff_getElem?.mp member
    exact (tended.sound present).inTurn

/-- When the controller returns because the source of downloads has closed, no acknowledgment has been lost,
whatever has happened and in whatever order: as long as nobody else has broadcast a signal before the
controller told the lane to finish, not so many have been broadcast since that the lane has missed that
order, and nobody has panicked in the worker's dealings with the world. -/
theorem spared_of_run?
    (surroundings : Surroundings σ)
    (config : Config)
    (permits : Receive.Permits)
    (signalCapacity : Nat)
    (world : σ)
    (moves : List (Move σ))
    {engine : Engine σ}
    (ran : run? surroundings config moves (.new permits signalCapacity world) = some engine)
    (returned : engine.control = .returned .served)
    (untold : engine.early = [])
    (room : engine.late.length < engine.traffic.lane.signals.capacity)
    (calm : engine.traffic.record.Calm) :
    engine.Spared config := by
  have unhindered : engine.Unhindered := by
    refine ⟨untold, by simp [returned], fun again => ?_⟩
    rw [returned] at again
    exact (Control.returned.inj again).symm
  have kept : engine.Kept config :=
    (Kept.new permits signalCapacity world).run ran calm unhindered
  exact kept.spared calm returned room

/-- A world in which greetings are acknowledged without trouble, on a lane that can compose nothing. -/
def greetings : Surroundings Unit :=
  ⟨Submitters.mute, Receive.smoothWorld⟩

/-- Two greetings arrive and the source closes. Their runs go on side by side and push by turns, the lane
works in between, and a shutdown is broadcast when the lane has been told to finish. -/
def sideBySide : List (Move Unit) :=
  [.arrive Receive.announcedGreeting, .take, .acquire 0, .arrive Receive.announcedGreeting,
    .closeSource, .take, .noticeClosed, .acquire 1] ++
  (List.replicate 9 [.advance 0, .advance 1]).flatten ++
  [.push 0, .push 1, .work, .push 1, .push 0, .resume 1, .resume 0] ++
  (List.replicate 3 [.advance 1, .work, .advance 0]).flatten ++
  [.resolve 0, .resolve 1, .finish, .announce, .broadcast .shutdown] ++
  List.replicate 14 .work ++ [.release 1, .release 0, .conclude]

/-- The controller returns after the two greetings, and nobody has panicked. -/
theorem sideBySide_ends :
    (run? greetings .standard sideBySide (.new ⟨some 2, 0⟩ 2 ())).any (fun engine =>
      engine.control = .returned .served && engine.early.isEmpty &&
        (engine.late.length < engine.traffic.lane.signals.capacity) &&
        engine.traffic.record.all (!·.isPanic)) = true := by
  decide +kernel

/-- No acknowledgment of the two greetings is lost. -/
theorem spared_of_sideBySide :
    ∃ engine,
      run? greetings .standard sideBySide (.new ⟨some 2, 0⟩ 2 ()) = some engine ∧
        engine.control = .returned .served ∧
        engine.early = [] ∧
        engine.late.length < engine.traffic.lane.signals.capacity ∧
        engine.traffic.record.Calm ∧
        engine.Spared .standard := by
  obtain ⟨engine, ran, holds⟩ := (Option.any_eq_true _ _).mp sideBySide_ends
  simp only [Bool.and_eq_true, decide_eq_true_eq, List.isEmpty_iff] at holds
  obtain ⟨⟨⟨returned, untold⟩, room⟩, quiet⟩ := holds
  have calm : engine.traffic.record.Calm := by
    intro event member
    simpa using List.all_eq_true.mp quiet event member
  exact ⟨engine, ran, returned, untold, room, calm,
    spared_of_run? greetings .standard ⟨some 2, 0⟩ 2 () sideBySide ran returned untold room calm⟩

end Engine

end MmsInbox
