import MmsInbox.Proofs.Ack.Submitting
import MmsInbox.Proofs.Engine.Step

namespace MmsInbox.Engine

/-!
# The runs of an engine

What holds of each run at all times (`Run.Sound`): it is somewhere in the course of a run for its download,
and it has pushed exactly the tasks that it has handed to the lane so far. The reception knows how many of
the runs it has to wait for (`Tended`).
-/

open Program

/-- A question that is no submission hands nothing to the lane. -/
theorem tasksOf_eq_nil
    {call : Call}
    (other : ∀ tasks, call ≠ .submit tasks) :
    tasksOf call = [] := by
  cases call with
  | submit tasks => exact absurd rfl (other tasks)
  | _ => rfl

/-- A program that is not at a submission hands nothing to the lane in its next step. -/
theorem tasksOf_of_leads
    {program rest : Program Outcome}
    {event : Event}
    (leads : Leads program [event] rest)
    (other : ∀ tasks answered panicked, program ≠ .ask (.submit tasks) answered panicked) :
    (History.calls [event]).flatMap tasksOf = [] := by
  cases leads with
  | @answered call answered panicked _ _ answer _ =>
      have silent : tasksOf call = [] :=
        tasksOf_eq_nil fun tasks same => by subst same; exact other _ _ _ rfl
      simpa using silent
  | @panicked call answered panicked _ _ panic _ =>
      have silent : tasksOf call = [] :=
        tasksOf_eq_nil fun tasks same => by subst same; exact other _ _ _ rfl
      simpa using silent
  | acted answer _ => rfl

namespace Run

variable {σ : Type}

/-- The tasks that the run is handing to the lane. -/
def underHand (run : Run) : List AckTask :=
  match run.pushing, run.rest with
  | some _, .ask (.submit tasks) _ _ => tasks
  | _, _ => []

/-- What holds of a run at all times. -/
structure Sound
    (config : Config)
    (traffic : Traffic σ)
    (number : Nat)
    (run : Run) :
    Prop where
  course :
    Leads (Receive.process config.defaultSubscription run.download) run.record run.rest
  asking
    {remaining : List AckTask}
    (pushing : run.pushing = some remaining) :
    ∃ tasks answered panicked, run.rest = .ask (.submit tasks) answered panicked
  handed :
    traffic.pushedBy number ++ run.pushing.getD [] = run.submitted ++ run.underHand
  ended : run.resolved = true → run.rest.hasEnded = true

namespace Sound

variable
  {config : Config}
  {traffic later : Traffic σ}
  {number : Nat}
  {run next : Run}

/-- A run that has just been started has handed nothing to the lane. -/
theorem new
    (unpushed : traffic.pushedBy number = [])
    (download : Download) :
    (Run.new config download).Sound config traffic number where
  course := .here _
  asking pushing := by simp [Run.new] at pushing
  handed := by simp [unpushed, Run.new, submitted, underHand]
  ended resolved := by simp [Run.new] at resolved

theorem elsewhere
    (sound : run.Sound config traffic number)
    (same : later.pushedBy number = traffic.pushedBy number) :
    run.Sound config later number where
  course := sound.course
  asking := sound.asking
  handed := same ▸ sound.handed
  ended := sound.ended

/-- A run that has ended is not handing anything to the lane. -/
theorem pushing_of_hasEnded
    (sound : run.Sound config traffic number)
    (atEnd : run.rest.hasEnded = true) :
    run.pushing = none := by
  cases pushing : run.pushing with
  | none => rfl
  | some remaining =>
      obtain ⟨tasks, answered, panicked, asking⟩ := sound.asking pushing
      simp [asking, hasEnded] at atEnd

/-- A run that has ended has pushed all the tasks that it has handed to the lane. -/
theorem pushedBy_of_hasEnded
    (sound : run.Sound config traffic number)
    (atEnd : run.rest.hasEnded = true) :
    traffic.pushedBy number = run.submitted := by
  have handed := sound.handed
  simpa [sound.pushing_of_hasEnded atEnd, underHand] using handed

theorem advance
    {environment : Environment σ}
    {world reached : σ}
    (sound : run.Sound config traffic number)
    (advanced : run.advance? environment world = some (next, reached)) :
    next.Sound config traffic number := by
  simp only [advance?] at advanced
  split at advanced
  case isFalse => simp at advanced
  case isTrue idle =>
    have unpushing : run.pushing = none := by simp_all
    have handed := sound.handed
    split at advanced
    case h_1 tasks answered panicked asking =>
      simp only [Option.some.injEq, Prod.mk.injEq] at advanced
      obtain ⟨rfl, rfl⟩ := advanced
      refine ⟨sound.course, fun _ => ⟨tasks, answered, panicked, asking⟩, ?_, sound.ended⟩
      simpa [unpushing, underHand, asking, submitted] using handed
    case h_2 rest other =>
      simp only [Option.map_eq_some_iff, Prod.mk.injEq] at advanced
      obtain ⟨⟨left, world, record⟩, stepped, rfl, rfl⟩ := advanced
      obtain ⟨event, rfl, further⟩ := step?_recorded stepped
      have silent := tasksOf_of_leads further other
      refine ⟨sound.course.trans further, fun pushing => by simp [unpushing] at pushing, ?_, ?_⟩
      · simpa [unpushing, underHand, submitted, silent] using handed
      · intro resolved
        have atEnd := sound.ended resolved
        cases whole : run.rest with
        | done value => simp [whole, Program.step?] at stepped
        | unwound panic => simp [whole, Program.step?] at stepped
        | ask call answered panicked => simp [whole, hasEnded] at atEnd
        | act action next => simp [whole, hasEnded] at atEnd

theorem push
    {environment : Environment σ}
    {task : AckTask}
    {remaining : List AckTask}
    (sound : run.Sound config traffic number)
    (pushing : run.pushing = some (task :: remaining)) :
    Sound config (traffic.push environment number task) number
      { run with pushing := some remaining } where
  course := sound.course
  asking _ := sound.asking pushing
  handed := by
    have handed := sound.handed
    obtain ⟨tasks, answered, panicked, asking⟩ := sound.asking pushing
    rw [Traffic.pushedBy_push]
    simpa [pushing, underHand, asking, submitted] using handed
  ended resolved := sound.ended resolved

theorem resume
    (sound : run.Sound config traffic number)
    (resumed : run.resume? = some next) :
    next.Sound config traffic number := by
  simp only [resume?] at resumed
  split at resumed
  case h_2 => simp at resumed
  case h_1 tasks answered panicked asking pushed =>
    obtain rfl := Option.some.inj resumed
    have handed := sound.handed
    have further :
        Leads (.ask (.submit tasks) answered panicked) [.answered (.submit tasks) ()]
          (answered ()) :=
      @Leads.answered _ (.submit tasks) answered panicked [] (answered ()) () (.here _)
    rw [← asking] at further
    refine ⟨sound.course.trans further, fun pushing => by simp at pushing, ?_, fun resolved => ?_⟩
    · simpa [pushed, underHand, asking, submitted, tasksOf] using handed
    · have atEnd := sound.ended resolved
      simp [asking, hasEnded] at atEnd

end Sound

theorem resolved_of_advance?
    {environment : Environment σ}
    {run next : Run}
    {world reached : σ}
    (advanced : run.advance? environment world = some (next, reached)) :
    next.resolved = run.resolved := by
  simp only [advance?] at advanced
  split at advanced
  case isFalse => simp at advanced
  case isTrue =>
    split at advanced
    · obtain ⟨rfl, _⟩ := Prod.mk.inj (Option.some.inj advanced)
      rfl
    · simp only [Option.map_eq_some_iff, Prod.mk.injEq] at advanced
      obtain ⟨_, _, rfl, _⟩ := advanced
      rfl

theorem resolved_of_resume?
    {run next : Run}
    (resumed : run.resume? = some next) :
    next.resolved = run.resolved := by
  simp only [resume?] at resumed
  split at resumed
  case h_2 => simp at resumed
  case h_1 =>
    obtain rfl := Option.some.inj resumed
    rfl

end Run

variable {σ : Type}

/-- The runs of an engine are sound, the pushes on its lane are theirs, and the reception counts those
whose completion has not resolved. -/
structure Tended
    (config : Config)
    (engine : Engine σ) :
    Prop where
  sound
    {number : Nat}
    {run : Run}
    (present : engine.runs[number]? = some run) :
    run.Sound config engine.traffic number
  owned
    {push : Push}
    (member : push ∈ engine.traffic.pushes) :
    push.owner < engine.runs.length
  counted : engine.reception.underWay = engine.runs.countP (!·.resolved)

namespace Tended

variable
  {config : Config}
  {surroundings : Surroundings σ}
  {engine later : Engine σ}

theorem new
    (permits : Receive.Permits)
    (signalCapacity : Nat)
    (world : σ) :
    (Engine.new permits signalCapacity world).Tended config where
  sound present := by simp [Engine.new] at present
  owned member := by simp [Engine.new, Traffic.new] at member
  counted := rfl

/-- The reception counts a run whose completion has not resolved. -/
theorem underWay_pos
    {number : Nat}
    {run : Run}
    (tended : engine.Tended config)
    (present : engine.runs[number]? = some run)
    (unresolved : run.resolved = false) :
    0 < engine.reception.underWay := by
  rw [tended.counted]
  refine List.countP_pos_iff.mpr ⟨run, List.mem_iff_getElem?.mpr ⟨number, present⟩, ?_⟩
  simp [unresolved]

/-- What touches neither the runs nor the pushes keeps the engine tended. -/
theorem aside
    (tended : engine.Tended config)
    (runs : later.runs = engine.runs)
    (pushes : later.traffic.pushes = engine.traffic.pushes)
    (underWay : later.reception.underWay = engine.reception.underWay) :
    later.Tended config where
  sound present := by
    rw [runs] at present
    exact (tended.sound present).elsewhere (by simp [Traffic.pushedBy, pushes])
  owned member := by
    rw [pushes] at member
    rw [runs]
    exact tended.owned member
  counted := by rw [underWay, runs, tended.counted]

/-- One run goes on, alone on the lane. -/
theorem replace
    {number : Nat}
    {run next : Run}
    (tended : engine.Tended config)
    (present : engine.runs[number]? = some run)
    (runs : later.runs = engine.runs.set number next)
    (sound : next.Sound config later.traffic number)
    (alone :
      ∀ other, number ≠ other → later.traffic.pushedBy other = engine.traffic.pushedBy other)
    (owned :
      ∀ push ∈ later.traffic.pushes, push ∈ engine.traffic.pushes ∨ push.owner = number)
    (counted :
      later.reception.underWay + (if run.resolved then 0 else 1) =
        engine.reception.underWay + (if next.resolved then 0 else 1)) :
    later.Tended config where
  sound {other another} found := by
    rw [runs] at found
    by_cases own : number = other
    · subst own
      rw [List.getElem?_set_self (List.getElem?_eq_some_iff.mp present).1] at found
      obtain rfl := Option.some.inj found
      exact sound
    · rw [List.getElem?_set_ne own] at found
      exact (tended.sound found).elsewhere (alone other own)
  owned {push} member := by
    rw [runs, List.length_set]
    rcases owned push member with earlier | own
    · exact tended.owned earlier
    · exact own ▸ (List.getElem?_eq_some_iff.mp present).1
  counted := by
    obtain ⟨within, shape⟩ := List.getElem?_eq_some_iff.mp present
    have before := tended.counted
    have waitedFor := tended.underWay_pos present
    have set := List.countP_set (p := fun run : Run => !run.resolved) (a := next) within
    rw [runs, set, shape]
    cases mine : run.resolved <;> cases yours : next.resolved <;> simp_all
    omega

/-- A new run has not handed anything to the lane. -/
theorem take
    (tended : engine.Tended config)
    (download : Download)
    (runs : later.runs = engine.runs ++ [.new config download])
    (traffic : later.traffic = engine.traffic)
    (underWay : later.reception.underWay = engine.reception.underWay + 1) :
    later.Tended config where
  sound {number run} present := by
    rw [runs] at present
    rw [traffic]
    rcases Nat.lt_or_ge number engine.runs.length with old | fresh
    · rw [List.getElem?_append_left old] at present
      exact tended.sound present
    · rw [List.getElem?_append_right fresh, List.getElem?_singleton] at present
      split at present
      · obtain rfl := Option.some.inj present
        exact .new (Traffic.pushedBy_eq_nil (fun _ => tended.owned) fresh) download
      · simp at present
  owned {push} member := by
    rw [traffic] at member
    have owned := tended.owned member
    simp only [runs, List.length_append, List.length_singleton]
    omega
  counted := by
    rw [underWay, runs, tended.counted]
    simp [Run.new]

/-- A run that goes on alone, off the lane, leaves the engine tended. -/
theorem goOn
    {number : Nat}
    {run next : Run}
    (tended : engine.Tended config)
    (present : engine.runs[number]? = some run)
    (runs : later.runs = engine.runs.set number next)
    (sound : next.Sound config engine.traffic number)
    (pushes : later.traffic.pushes = engine.traffic.pushes)
    (counted :
      later.reception.underWay + (if run.resolved then 0 else 1) =
        engine.reception.underWay + (if next.resolved then 0 else 1)) :
    later.Tended config :=
  tended.replace present runs (sound.elsewhere (by simp [Traffic.pushedBy, pushes]))
    (fun _ _ => by simp [Traffic.pushedBy, pushes])
    (fun _ member => .inl (pushes ▸ member)) counted

/-- Whatever happens keeps the engine tended. -/
theorem step
    (tended : engine.Tended config)
    (goes : engine.Goes surroundings config later) :
    later.Tended config := by
  cases goes with
  | takes serving arrived => exact tended.take _ rfl rfl rfl
  | @admits number run permits present waiting acquired =>
      have sound := tended.sound present
      exact tended.goOn present rfl
        ⟨sound.course, sound.asking, sound.handed, sound.ended⟩ rfl rfl
  | @advances number run next world present advanced =>
      exact tended.goOn present rfl ((tended.sound present).advance advanced) rfl
        (by rw [Run.resolved_of_advance? advanced]; rfl)
  | @pushes number run task remaining present pushing =>
      refine tended.replace present rfl ((tended.sound present).push pushing) ?_ ?_ rfl
      · intro other apart
        simp [setRun, Traffic.pushedBy_push, apart]
      · intro push member
        simp only [setRun, Traffic.push_pushes, List.mem_append, List.mem_singleton] at member
        exact member.imp_right (congrArg Push.owner)
  | @resumes number run next present resumed =>
      exact tended.goOn present rfl ((tended.sound present).resume resumed) rfl
        (by rw [Run.resolved_of_resume? resumed]; rfl)
  | @resolves number run present atEnd unresolved =>
      have sound := tended.sound present
      have waitedFor := tended.underWay_pos present unresolved
      refine tended.goOn present rfl
        ⟨sound.course, sound.asking, sound.handed, fun _ => atEnd⟩ rfl ?_
      simp only [setRun, Receive.Reception.resolve, unresolved]
      simp
      omega
  | @releases number run present atEnd unreleased =>
      have sound := tended.sound present
      exact tended.goOn present rfl
        ⟨sound.course, sound.asking, sound.handed, sound.ended⟩ rfl rfl
  | works worked => exact tended.aside rfl (Traffic.pushes_of_work? worked) rfl
  | _ => exact tended.aside rfl rfl rfl

end Tended

end MmsInbox.Engine
