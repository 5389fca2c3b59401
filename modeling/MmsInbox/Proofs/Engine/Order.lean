import MmsInbox.Proofs.Ack.Hearing
import MmsInbox.Proofs.Engine.Runs

namespace MmsInbox.Engine

/-!
# The order in which an engine winds down

As long as nobody else tells the parties of an engine anything (`Unhindered`), they wind down in one order
(`Orderly`). The reception ends after the last run has, the controller hears of that before it tells the
lane to finish, the lane learns of nothing before that, and the controller returns after the lane has ended.
So a run that pushes a task always finds the queue open (`Orderly.accepting`).
-/

variable
  {σ : Type}
  {surroundings : Surroundings σ}
  {config : Config}
  {engine later : Engine σ}

/-- The traffic of an engine goes on as traffic does. -/
theorem Goes.passes
    (goes : engine.Goes surroundings config later) :
    later.traffic = engine.traffic ∨
      ∃ move,
        engine.traffic.step? surroundings config.acknowledgment move = some later.traffic := by
  cases goes with
  | heeds world serving received => exact .inr ⟨.elsewhere fun _ => world, rfl⟩
  | @advances number run next world present advanced =>
      exact .inr ⟨.elsewhere fun _ => world, rfl⟩
  | @pushes number run task remaining present pushing => exact .inr ⟨.push number task, rfl⟩
  | announces serving stopped => exact .inr ⟨.signal .finalised, rfl⟩
  | asked serving => exact .inr ⟨.signal .shutdown, rfl⟩
  | broadcasts signal => exact .inr ⟨.signal signal, rfl⟩
  | works worked => exact .inr ⟨.work, worked⟩
  | drops stopped atEnd handled => exact .inr ⟨.drop, if_neg handled⟩
  | elsewhere change => exact .inr ⟨.elsewhere change, rfl⟩
  | _ => exact .inl rfl

/-- Whoever panics in the worker's dealings with the world has done so for good. -/
theorem Goes.calm
    (goes : engine.Goes surroundings config later)
    (calm : later.traffic.record.Calm) :
    engine.traffic.record.Calm := by
  rcases goes.passes with same | ⟨move, stepped⟩
  · exact same ▸ calm
  · obtain ⟨more, grown⟩ := Traffic.record_of_step? stepped
    rw [grown] at calm
    exact ((History.calm_append _ _).mp calm).1

/-- The books of the lane stay balanced. -/
theorem Goes.accounts
    (goes : engine.Goes surroundings config later)
    (accounts : engine.traffic.Accounts config.acknowledgment)
    (calm : later.traffic.record.Calm) :
    later.traffic.Accounts config.acknowledgment := by
  rcases goes.passes with same | ⟨move, stepped⟩
  · exact same ▸ accounts
  · exact accounts.step stepped calm

/-- Nobody has told the parties anything before the reception had ended by itself. -/
structure Unhindered (engine : Engine σ) : Prop where
  untold : engine.early = []
  awaiting
    {ending : Ending}
    (awaiting : engine.control = .awaitingLane ending) :
    ending = .served
  returned
    {ending : Ending}
    (returned : engine.control = .returned ending) :
    ending = .served

/-- An engine that is not hindered now has not been before. -/
theorem Goes.unhindered
    (goes : engine.Goes surroundings config later)
    (unhindered : later.Unhindered) :
    engine.Unhindered := by
  cases goes with
  | announces serving stopped =>
      exact ⟨unhindered.untold, by simp [serving], by simp [serving]⟩
  | asked serving => exact ⟨unhindered.untold, by simp [serving], by simp [serving]⟩
  | fails serving => exact ⟨unhindered.untold, by simp [serving], by simp [serving]⟩
  | @concludes ending awaiting ended =>
      refine ⟨unhindered.untold, fun another => ?_, by simp [awaiting]⟩
      rw [awaiting] at another
      obtain rfl := Control.awaitingLane.inj another
      exact unhindered.returned rfl
  | broadcasts signal =>
      refine ⟨?_, unhindered.awaiting, unhindered.returned⟩
      have untold := unhindered.untold
      unfold broadcast at untold
      dsimp only at untold
      split at untold
      · simp at untold
      · exact untold
  | _ => exact ⟨unhindered.untold, unhindered.awaiting, unhindered.returned⟩

/-- The lane has been told to finish, and nothing else before that. It may have ended by itself, or the order
may still be before it. -/
def Told (engine : Engine σ) : Prop :=
  engine.traffic.news = [.ok .finalised] ∨
    engine.traffic.news = [] ∧
      (engine.traffic.lane.hasEnded = true ∨
        engine.traffic.lane.signals.Holds (.finalised :: engine.late))

/-- The parties wind down in order. -/
structure Orderly (engine : Engine σ) : Prop where
  /-- As long as the reception goes on, so do the controller and the handle of the lane. -/
  attended :
    engine.reception.phase ≠ .stopped →
      engine.control = .serving ∧ engine.traffic.lane.handles ≠ 0
  /-- The reception ends after all runs. -/
  resolved :
    engine.reception.phase = .stopped → ∀ run ∈ engine.runs, run.resolved = true
  /-- Nobody is told anything as long as the controller serves. -/
  quiet :
    engine.control = .serving →
      engine.reception.signals.Holds [] ∧ engine.traffic.lane.signals.Holds [] ∧
        engine.traffic.news = [] ∧ engine.late = []
  /-- Signals that others broadcast later do not push the order to finish out. -/
  told :
    engine.control ≠ .serving →
      engine.late.length < engine.traffic.lane.signals.capacity → engine.Told
  ended
    {ending : Ending}
    (returned : engine.control = .returned ending) :
    engine.traffic.lane.hasEnded = true
  /-- Every push has found the queue open. -/
  taken : engine.traffic.refused = []

namespace Orderly

theorem new
    (permits : Receive.Permits)
    (signalCapacity : Nat)
    (world : σ) :
    (Engine.new permits signalCapacity world).Orderly where
  attended _ := ⟨rfl, Nat.one_ne_zero⟩
  resolved stopped := by cases stopped
  quiet _ := ⟨⟨rfl, rfl, rfl⟩, ⟨rfl, rfl, rfl⟩, rfl, rfl⟩
  told busy := absurd rfl busy
  ended returned := by cases returned
  taken := rfl

/-- A run that hands tasks to the lane finds the queue open. -/
theorem accepting
    {number : Nat}
    {run : Run}
    {remaining : List AckTask}
    (orderly : engine.Orderly)
    (tended : engine.Tended config)
    (accounts : engine.traffic.Accounts config.acknowledgment)
    (calm : engine.traffic.record.Calm)
    (present : engine.runs[number]? = some run)
    (pushing : run.pushing = some remaining) :
    engine.traffic.lane.accepting = true := by
  have going : engine.reception.phase ≠ .stopped := by
    intro stopped
    have resolved := orderly.resolved stopped run (List.mem_of_getElem? present)
    have sound := tended.sound present
    simp [sound.pushing_of_hasEnded (sound.ended resolved)] at pushing
  obtain ⟨serving, handled⟩ := orderly.attended going
  obtain ⟨_, _, unheard, _⟩ := orderly.quiet serving
  have chronicled := accounts.chronicled
  unfold Traffic.news at unheard
  cases accounts.standing with
  | serving worker accepting news discarded => exact accepting
  | abandoned worker accepting queue handles news discarded => exact absurd handles handled
  | collapsed worker =>
      rw [worker] at chronicled
      exact absurd calm chronicled
  | _ => simp_all

/-- A run that goes on leaves the rest in order. -/
theorem replace
    {number : Nat}
    {run next : Run}
    (orderly : engine.Orderly)
    (present : engine.runs[number]? = some run)
    (kept : run.resolved = true → next.resolved = true)
    (stopped : engine.reception.phase = .stopped) :
    ∀ other ∈ engine.runs.set number next, other.resolved = true := by
  intro other member
  rcases List.mem_or_eq_of_mem_set member with earlier | rfl
  · exact orderly.resolved stopped other earlier
  · exact kept (orderly.resolved stopped run (List.mem_of_getElem? present))

theorem works
    {traffic : Traffic σ}
    (orderly : engine.Orderly)
    (accounts : engine.traffic.Accounts config.acknowledgment)
    (worked : engine.traffic.work? surroundings.lane config.acknowledgment = some traffic) :
    Orderly { engine with traffic := traffic } := by
  have heard := Traffic.news_of_work? worked
  obtain ⟨lane, world, record, events, works, rfl⟩ := Traffic.works_of_work? worked
  have going := Lane.hasEnded_of_works works
  have handles := Lane.handles_of_works works
  refine ⟨fun busy => ?_, orderly.resolved, fun serving => ?_, fun busy room => ?_,
    fun returned => ?_, orderly.taken⟩
  · obtain ⟨serving, handled⟩ := orderly.attended busy
    exact ⟨serving, handles ▸ handled⟩
  · obtain ⟨unsignalled, silent, unheard, early⟩ := orderly.quiet serving
    rcases heard with ⟨same, signals⟩ | ⟨order, _, received, _⟩
    · exact ⟨unsignalled, signals ▸ silent, same.trans unheard, early⟩
    · simp [silent.silent] at received
  · rcases heard with ⟨same, signals⟩ | ⟨order, waiting, received, read⟩
    · rcases orderly.told busy (signals ▸ room) with told | ⟨unheard, ended | before⟩
      · exact .inl (same.trans told)
      · simp [going] at ended
      · exact .inr ⟨same.trans unheard, .inr (signals ▸ before)⟩
    · obtain ⟨_, unheard, _⟩ := accounts.standing.of_serving (.inl waiting)
      have capacity := SignalInbox.capacity_of_receive? received
      rcases orderly.told busy (capacity ▸ room) with told | ⟨unheard, ended | holds⟩
      · simp [Traffic.news, unheard] at told
      · simp [going] at ended
      · rw [holds.receive?_eq] at received
        obtain ⟨rfl, _⟩ := Prod.mk.inj (Option.some.inj received)
        exact .inl (read.trans (by simp [unheard]))
  · have ended := orderly.ended returned
    simp [going] at ended

theorem announces
    (orderly : engine.Orderly)
    (serving : engine.control = .serving)
    (stopped : engine.reception.phase = .stopped) :
    Orderly
      { engine.stopServing .served with
        traffic := { engine.traffic with lane := engine.traffic.lane.signal .finalised } } where
  attended busy := absurd rfl busy
  resolved _ := orderly.resolved stopped
  quiet still := by cases still
  told _ room := by
    obtain ⟨_, silent, unheard, late⟩ := orderly.quiet serving
    refine .inr ⟨unheard, ?_⟩
    cases atEnd : engine.traffic.lane.hasEnded with
    | true => exact .inl (by simpa using atEnd)
    | false =>
        have capacious : 0 < engine.traffic.lane.signals.capacity := by
          simpa [stopServing, late] using room
        exact .inr (by simpa [stopServing, late] using Lane.signal_holds silent atEnd capacious _)
  ended returned := by cases returned
  taken := orderly.taken

/-- What others broadcast after the order to finish comes after it. -/
theorem broadcasts
    (orderly : engine.Orderly)
    (signal : Signal)
    (unhindered : (engine.broadcast signal).Unhindered) :
    (engine.broadcast signal).Orderly := by
  have untold := unhindered.untold
  unfold broadcast at untold ⊢
  cases doing : engine.control with
  | serving => simp [doing] at untold
  | awaitingLane ending =>
      refine ⟨fun busy => ?_, orderly.resolved, by simp, fun _ room => ?_, by simp, orderly.taken⟩
      · simpa [doing] using orderly.attended busy
      · have shorter : engine.late.length + 1 < engine.traffic.lane.signals.capacity := by
          simpa using room
        rcases orderly.told (by simp [doing]) (by omega) with told | ⟨unheard, ended | holds⟩
        · exact .inl told
        · exact .inr ⟨unheard, .inl (by simpa using ended)⟩
        · refine .inr ⟨unheard, ?_⟩
          cases atEnd : engine.traffic.lane.hasEnded with
          | true => exact .inl (by simpa using atEnd)
          | false =>
              exact .inr (Lane.signal_holds holds atEnd (by simpa using shorter) signal)
  | returned ending =>
      have ended := orderly.ended doing
      refine ⟨fun busy => ?_, orderly.resolved, by simp, fun _ room => ?_,
        fun _ => by simpa using ended, orderly.taken⟩
      · simpa [doing] using orderly.attended busy
      · rcases orderly.told (by simp [doing]) (by simpa using room) with told | ⟨unheard, _⟩
        · exact .inl told
        · exact .inr ⟨unheard, .inl (by simpa using ended)⟩

/-- Whatever happens in an engine that nobody hinders, the parties wind down in order. -/
theorem step
    (orderly : engine.Orderly)
    (tended : engine.Tended config)
    (accounts : engine.traffic.Accounts config.acknowledgment)
    (goes : engine.Goes surroundings config later)
    (unhindered : later.Unhindered)
    (calm : engine.traffic.record.Calm) :
    later.Orderly := by
  cases goes with
  | takes serving arrived =>
      have busy : engine.reception.phase ≠ .stopped := by simp [serving]
      exact ⟨orderly.attended, fun stopped => absurd stopped busy, orderly.quiet, orderly.told,
        orderly.ended, orderly.taken⟩
  | notices serving unarrived closed =>
      have busy : engine.reception.phase ≠ .stopped := by simp [serving]
      exact ⟨fun _ => orderly.attended busy, by simp, orderly.quiet, orderly.told,
        orderly.ended, orderly.taken⟩
  | finishes awaiting awaited =>
      refine ⟨by simp, fun _ run member => ?_, orderly.quiet, orderly.told, orderly.ended,
        orderly.taken⟩
      have none : engine.runs.countP (!·.resolved) = 0 := tended.counted ▸ awaited
      simpa using List.countP_eq_zero.mp none run member
  | heeds world serving received =>
      obtain ⟨control, _⟩ := orderly.attended (by simp [serving])
      simp [(orderly.quiet control).1.silent] at received
  | admits permits present waiting acquired =>
      exact ⟨orderly.attended, orderly.replace present id, orderly.quiet, orderly.told,
        orderly.ended, orderly.taken⟩
  | advances present advanced =>
      exact ⟨orderly.attended,
        orderly.replace present (Run.resolved_of_advance? advanced).trans,
        orderly.quiet, orderly.told, orderly.ended, orderly.taken⟩
  | @pushes number run task remaining present pushing =>
      have accepting := orderly.accepting tended accounts calm present pushing
      rw [Traffic.push_of_accepting accepting]
      refine ⟨orderly.attended, orderly.replace present id, orderly.quiet, orderly.told,
        orderly.ended, ?_⟩
      have taken := orderly.taken
      simpa [Traffic.refused, setRun] using taken
  | resumes present resumed =>
      exact ⟨orderly.attended,
        orderly.replace present (Run.resolved_of_resume? resumed).trans,
        orderly.quiet, orderly.told, orderly.ended, orderly.taken⟩
  | resolves present atEnd unresolved =>
      exact ⟨orderly.attended, orderly.replace present fun _ => rfl, orderly.quiet, orderly.told,
        orderly.ended, orderly.taken⟩
  | releases present atEnd unreleased =>
      exact ⟨orderly.attended, orderly.replace present id, orderly.quiet, orderly.told,
        orderly.ended, orderly.taken⟩
  | announces serving stopped => exact orderly.announces serving stopped
  | asked serving => cases unhindered.awaiting rfl
  | fails serving => cases unhindered.awaiting rfl
  | concludes awaiting ended =>
      exact ⟨fun busy => by simpa [awaiting] using orderly.attended busy, orderly.resolved,
        by simp, fun _ => orderly.told (by simp [awaiting]), fun _ => ended, orderly.taken⟩
  | broadcasts signal => exact orderly.broadcasts signal unhindered
  | works worked => exact orderly.works accounts worked
  | drops stopped atEnd handled =>
      exact ⟨fun busy => absurd stopped busy, orderly.resolved, orderly.quiet, orderly.told,
        orderly.ended, orderly.taken⟩
  | _ =>
      exact ⟨orderly.attended, orderly.resolved, orderly.quiet, orderly.told, orderly.ended,
        orderly.taken⟩

end Orderly

end MmsInbox.Engine
