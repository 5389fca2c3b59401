import MmsInbox.Engine.Basic

namespace MmsInbox.Engine

/-!
# What the engine does next

Each step of the engine is one of a few (`Goes`, `goes_of_step?`), and each of them says which party goes
on, what let it go on, and what it leaves behind.
-/

variable {σ : Type}

/-- What the engine can do in one step. -/
inductive Goes
    (surroundings : Surroundings σ)
    (config : Config)
    (engine : Engine σ) :
    Engine σ → Prop where
  | arrives
      (download : Download)
      (opened : engine.reception.sourceOpen = true) :
      Goes surroundings config engine
        { engine with reception := engine.reception.arrive download }
  | closes :
      Goes surroundings config engine { engine with reception := engine.reception.closeSource }
  | takes
      {download : Download}
      {arrivals : List Download}
      (serving : engine.reception.phase = .serving)
      (arrived : engine.reception.arrivals = download :: arrivals) :
      Goes surroundings config engine
        { engine with
          reception :=
            { engine.reception with
              arrivals := arrivals
              underWay := engine.reception.underWay + 1 }
          runs := engine.runs ++ [.new config download] }
  | notices
      (serving : engine.reception.phase = .serving)
      (unarrived : engine.reception.arrivals = [])
      (closed : engine.reception.sourceOpen = false) :
      Goes surroundings config engine
        { engine with reception := { engine.reception with phase := .awaitingRuns } }
  | finishes
      (awaiting : engine.reception.phase = .awaitingRuns)
      (awaited : engine.reception.underWay = 0) :
      Goes surroundings config engine
        { engine with reception := { engine.reception with phase := .stopped } }
  | heeds
      {news : Except SignalLoss Signal}
      {signals : SignalInbox}
      (world : σ)
      (serving : engine.reception.phase = .serving)
      (received : engine.reception.signals.receive? = some (news, signals)) :
      Goes surroundings config engine
        { engine with
          reception := { engine.reception with signals := signals, phase := .stopped }
          traffic := { engine.traffic with world := world } }
  | admits
      {number : Nat}
      {run : Run}
      (permits : Receive.Permits)
      (present : engine.runs[number]? = some run)
      (waiting : run.admitted = false)
      (acquired : engine.permits.acquire? = some permits) :
      Goes surroundings config engine
        ({ engine with permits := permits }.setRun number { run with admitted := true })
  | advances
      {number : Nat}
      {run next : Run}
      {world : σ}
      (present : engine.runs[number]? = some run)
      (advanced :
        run.advance? surroundings.others engine.traffic.world = some (next, world)) :
      Goes surroundings config engine
        ({ engine with traffic := { engine.traffic with world := world } }.setRun number next)
  | pushes
      {number : Nat}
      {run : Run}
      {task : AckTask}
      {remaining : List AckTask}
      (present : engine.runs[number]? = some run)
      (pushing : run.pushing = some (task :: remaining)) :
      Goes surroundings config engine
        ({ engine with
          traffic := engine.traffic.push surroundings.others number task }.setRun number
            { run with pushing := some remaining })
  | resumes
      {number : Nat}
      {run next : Run}
      (present : engine.runs[number]? = some run)
      (resumed : run.resume? = some next) :
      Goes surroundings config engine (engine.setRun number next)
  | resolves
      {number : Nat}
      {run : Run}
      (present : engine.runs[number]? = some run)
      (atEnd : run.rest.hasEnded = true)
      (unresolved : run.resolved = false) :
      Goes surroundings config engine
        ({ engine with reception := engine.reception.resolve }.setRun number
          { run with resolved := true })
  | releases
      {number : Nat}
      {run : Run}
      (present : engine.runs[number]? = some run)
      (atEnd : run.rest.hasEnded = true)
      (unreleased : run.released = false) :
      Goes surroundings config engine
        ({ engine with permits := engine.permits.release }.setRun number
          { run with released := true })
  | announces
      (serving : engine.control = .serving)
      (stopped : engine.reception.phase = .stopped) :
      Goes surroundings config engine
        { engine.stopServing .served with
          traffic := { engine.traffic with lane := engine.traffic.lane.signal .finalised } }
  | asked
      (serving : engine.control = .serving) :
      Goes surroundings config engine
        { engine.stopServing .askedToStop with
          traffic := { engine.traffic with lane := engine.traffic.lane.signal .shutdown } }
  | fails
      (serving : engine.control = .serving) :
      Goes surroundings config engine (engine.stopServing .failed)
  | concludes
      {ending : Ending}
      (awaiting : engine.control = .awaitingLane ending)
      (ended : engine.traffic.lane.hasEnded = true) :
      Goes surroundings config engine { engine with control := .returned ending }
  | broadcasts (signal : Signal) :
      Goes surroundings config engine (engine.broadcast signal)
  | works
      {traffic : Traffic σ}
      (worked :
        engine.traffic.work? surroundings.lane config.acknowledgment = some traffic) :
      Goes surroundings config engine { engine with traffic := traffic }
  | drops
      (stopped : engine.reception.phase = .stopped)
      (atEnd : ∀ run ∈ engine.runs, run.resolved = true ∧ run.released = true)
      (handled : engine.traffic.lane.handles ≠ 0) :
      Goes surroundings config engine
        { engine with
          traffic := { engine.traffic with
            lane := { engine.traffic.lane with handles := engine.traffic.lane.handles - 1 } } }
  | elsewhere (change : σ → σ) :
      Goes surroundings config engine
        { engine with traffic := { engine.traffic with world := change engine.traffic.world } }

/-- Every step of the engine is one of these. -/
theorem goes_of_step?
    {surroundings : Surroundings σ}
    {config : Config}
    {engine later : Engine σ}
    {move : Move σ}
    (stepped : engine.step? surroundings config move = some later) :
    Goes surroundings config engine later := by
  cases move with
  | arrive download =>
      simp only [step?, Option.ite_none_right_eq_some, Option.some.injEq] at stepped
      obtain ⟨opened, rfl⟩ := stepped
      exact .arrives download opened
  | closeSource =>
      obtain rfl := Option.some.inj stepped
      exact .closes
  | take =>
      simp only [step?, Option.map_eq_some_iff, Receive.Reception.take?] at stepped
      obtain ⟨⟨download, reception⟩, taken, rfl⟩ := stepped
      split at taken
      case h_2 => simp at taken
      case h_1 first rest serving arrived =>
        obtain ⟨rfl, rfl⟩ := Prod.mk.inj (Option.some.inj taken)
        exact .takes serving arrived
  | noticeClosed =>
      simp only [step?, Option.map_eq_some_iff, Receive.Reception.noticeClosed?,
        Option.ite_none_right_eq_some, Option.some.injEq] at stepped
      obtain ⟨_, ⟨⟨serving, unarrived, closed⟩, rfl⟩, rfl⟩ := stepped
      exact .notices serving unarrived closed
  | finish =>
      simp only [step?, Option.map_eq_some_iff, Receive.Reception.finish?,
        Option.ite_none_right_eq_some, Option.some.injEq] at stepped
      obtain ⟨_, ⟨⟨awaiting, awaited⟩, rfl⟩, rfl⟩ := stepped
      exact .finishes awaiting awaited
  | heed =>
      simp only [step?, Option.map_eq_some_iff, Receive.Reception.heed?,
        Option.ite_none_right_eq_some] at stepped
      obtain ⟨⟨loss, reception⟩, ⟨serving, ⟨news, signals⟩, received, same⟩, rfl⟩ := stepped
      obtain ⟨_, rfl⟩ := Prod.mk.inj same
      exact .heeds _ serving received
  | acquire number =>
      simp only [step?] at stepped
      split at stepped
      case h_2 => simp at stepped
      case h_1 run present =>
        simp only [Option.ite_none_left_eq_some, Option.map_eq_some_iff] at stepped
        obtain ⟨waiting, permits, acquired, rfl⟩ := stepped
        exact .admits permits present (by simpa using waiting) acquired
  | advance number =>
      simp only [step?] at stepped
      split at stepped
      case h_2 => simp at stepped
      case h_1 run present =>
        simp only [Option.map_eq_some_iff] at stepped
        obtain ⟨⟨next, world⟩, advanced, rfl⟩ := stepped
        exact .advances present advanced
  | push number =>
      simp only [step?] at stepped
      split at stepped
      case h_2 => simp at stepped
      case h_1 run present =>
        split at stepped
        case h_2 => simp at stepped
        case h_1 task remaining pushing =>
          obtain rfl := Option.some.inj stepped
          exact .pushes present pushing
  | resume number =>
      simp only [step?] at stepped
      split at stepped
      case h_2 => simp at stepped
      case h_1 run present =>
        simp only [Option.map_eq_some_iff] at stepped
        obtain ⟨next, resumed, rfl⟩ := stepped
        exact .resumes present resumed
  | resolve number =>
      simp only [step?] at stepped
      split at stepped
      case h_2 => simp at stepped
      case h_1 run present =>
        simp only [Option.ite_none_right_eq_some, Option.some.injEq, Bool.and_eq_true,
          Bool.not_eq_true'] at stepped
        obtain ⟨⟨atEnd, unresolved⟩, rfl⟩ := stepped
        exact .resolves present atEnd unresolved
  | release number =>
      simp only [step?] at stepped
      split at stepped
      case h_2 => simp at stepped
      case h_1 run present =>
        simp only [Option.ite_none_right_eq_some, Option.some.injEq, Bool.and_eq_true,
          Bool.not_eq_true'] at stepped
        obtain ⟨⟨atEnd, unreleased⟩, rfl⟩ := stepped
        exact .releases present atEnd unreleased
  | announce =>
      simp only [step?, Option.ite_none_right_eq_some] at stepped
      obtain ⟨⟨serving, stopped⟩, passed⟩ := stepped
      obtain rfl := Option.some.inj passed
      exact .announces serving stopped
  | askToStop =>
      simp only [step?, Option.ite_none_right_eq_some] at stepped
      obtain ⟨serving, passed⟩ := stepped
      obtain rfl := Option.some.inj passed
      exact .asked serving
  | fail =>
      simp only [step?, Option.ite_none_right_eq_some, Option.some.injEq] at stepped
      obtain ⟨serving, rfl⟩ := stepped
      exact .fails serving
  | conclude =>
      simp only [step?] at stepped
      split at stepped
      case h_2 => simp at stepped
      case h_1 ending awaiting =>
        simp only [Option.ite_none_right_eq_some, Option.some.injEq] at stepped
        obtain ⟨ended, rfl⟩ := stepped
        exact .concludes awaiting ended
  | broadcast signal =>
      obtain rfl := Option.some.inj stepped
      exact .broadcasts signal
  | work =>
      simp only [step?, pass?, Option.map_eq_some_iff, Traffic.step?] at stepped
      obtain ⟨traffic, worked, rfl⟩ := stepped
      exact .works worked
  | dropHandle =>
      simp only [step?, pass?, Option.ite_none_right_eq_some, Option.map_eq_some_iff, Traffic.step?,
        Option.ite_none_left_eq_some, Option.some.injEq, List.all_eq_true,
        Bool.and_eq_true] at stepped
      obtain ⟨⟨stopped, atEnd⟩, _, ⟨handled, rfl⟩, rfl⟩ := stepped
      exact .drops stopped atEnd handled
  | elsewhere change =>
      obtain rfl := Option.some.inj stepped
      exact .elsewhere change

end MmsInbox.Engine
