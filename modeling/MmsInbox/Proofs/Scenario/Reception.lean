import MmsInbox.Program.Mirror
import MmsInbox.Proofs.Receive.Succession
import MmsInbox.Scenario.Session

namespace MmsInbox

/-!
# The reception of a session

A session that serves downloads goes on with one run at a time, while in a shift everything goes on side by
side. Yet whatever the session does is something that a shift can do (`Session.run?_serve`), so what
holds of all shifts holds of it.
-/

open Receive

namespace SignalInbox

/-- Whoever has been sent a signal hears something. -/
theorem receive?_push_ne_none
    (inbox : SignalInbox)
    (signal : Signal) :
    (inbox.push signal).receive? ≠ none := by
  unfold receive? push
  dsimp only
  split
  · exact Option.some_ne_none _
  · rename_i missed
    have fits : (inbox.pending ++ [signal]).length - inbox.capacity = 0 := by omega
    rw [fits, List.drop_zero]
    cases inbox.pending <;> exact Option.some_ne_none _

/-- Whoever has lost the sender hears something. -/
theorem receive?_disconnect_ne_none (inbox : SignalInbox) : inbox.disconnect.receive? ≠ none := by
  unfold receive? disconnect
  dsimp only
  split
  · exact Option.some_ne_none _
  · cases inbox.pending <;> exact Option.some_ne_none _

end SignalInbox

namespace Scenario.Session

variable {session between later : Session}

/-- The session with other permits and another configuration. -/
def under
    (permits : Permits)
    (config : Config)
    (session : Session) :
    Session :=
  { session with permits := permits, config := config }

/-- Nobody who answers looks at the permits or the configuration, or changes them. -/
theorem mirrors_under
    (permits : Permits)
    (config : Config) :
    environment.Mirrors (under permits config) environment where
  answered call session := by
    rcases session with ⟨world, ownConfig, ownPermits, _ | lane⟩
    · cases call <;> rfl
    · cases call <;> rfl
  performed action session := rfl

/-- A program runs with other permits and another configuration as it does without. -/
theorem run_under
    {α : Type}
    (permits : Permits)
    (config : Config)
    (session : Session)
    (program : Program α) :
    (session.under permits config).run program =
      ((session.run program).1, (session.run program).2.under permits config) :=
  program.run_of_mirrors (mirrors_under permits config) session

/-- The session later on, with the permits and the configuration that it has had. -/
structure SameSetup (session later : Session) : Prop where
  permits : later.permits = session.permits
  config : later.config = session.config

theorem SameSetup.refl (session : Session) : session.SameSetup session :=
  ⟨rfl, rfl⟩

theorem SameSetup.trans
    (first : session.SameSetup between)
    (second : between.SameSetup later) :
    session.SameSetup later :=
  ⟨second.permits.trans first.permits, second.config.trans first.config⟩

theorem sameSetup_run
    {α : Type}
    (session : Session)
    (program : Program α) :
    session.SameSetup (session.run program).2 := by
  have same :
      (session.run program).2 = (session.run program).2.under session.permits session.config :=
    congrArg Prod.snd (session.run_under session.permits session.config program)
  rw [same]
  exact ⟨rfl, rfl⟩

theorem sameSetup_settle (session : Session) : session.SameSetup session.settle := by
  unfold settle
  split
  · exact .refl session
  · exact ⟨rfl, rfl⟩

/-- The run that a session goes through for a download. -/
def runOf
    (session : Session)
    (download : Download) :
    Program Outcome :=
  process session.config.defaultSubscription download

/-- A download that is received while a permit is free is run to its end, and then the lane goes on. -/
theorem receive_of_free
    (session : Session)
    (download : Download)
    (free : session.permits.acquire? ≠ none) :
    session.receive download =
      (Receive.completion (session.run (session.runOf download)).1,
        (session.run (session.runOf download)).2.settle) := by
  obtain ⟨left, acquired⟩ := Option.ne_none_iff_exists'.mp free
  have ran :
      { session with permits := left }.run (session.runOf download) =
        ((session.run (session.runOf download)).1,
          (session.run (session.runOf download)).2.under left session.config) :=
    session.run_under left session.config (session.runOf download)
  have kept := sameSetup_run session (session.runOf download)
  have returned :
      { (session.run (session.runOf download)).2.under left session.config with
          permits := left.release } =
        (session.run (session.runOf download)).2 := by
    rw [Permits.release_of_acquire? acquired, ← kept.permits, ← kept.config]
    rfl
  unfold receive
  rw [acquired]
  dsimp only
  rw [← runOf, ran]
  dsimp only
  rw [show ((session.run (session.runOf download)).2.under left session.config).permits = left
    from rfl, returned]

theorem sameSetup_receive
    (session : Session)
    (download : Download)
    (free : session.permits.acquire? ≠ none) :
    session.SameSetup (session.receive download).2 := by
  rw [receive_of_free session download free]
  exact (sameSetup_run session _).trans (sameSetup_settle _)

/-- A session and its reception come to another state, as a shift does in which these downloads arrive. -/
structure Proceeds
    (session : Session)
    (reception : Reception)
    (downloads : List Download)
    (later : Session)
    (receptionLater : Reception) :
    Prop where
  setup : session.SameSetup later
  shift (tasks : List Task) :
    ∃ moves more,
      Shift.arrived moves = downloads ∧
        Shift.run? environment session.config moves
            ⟨reception, ⟨session.permits, tasks, session⟩, []⟩ =
          some ⟨receptionLater, ⟨session.permits, tasks ++ more, later⟩, []⟩

namespace Proceeds

variable {reception receptionBetween receptionLater : Reception}

theorem refl
    (session : Session)
    (reception : Reception) :
    Proceeds session reception [] session reception where
  setup := .refl session
  shift tasks := by
    refine ⟨[], [], rfl, ?_⟩
    rw [List.append_nil]
    rfl

theorem trans
    {first second : List Download}
    (earlier : Proceeds session reception first between receptionBetween)
    (onward : Proceeds between receptionBetween second later receptionLater) :
    Proceeds session reception (first ++ second) later receptionLater where
  setup := earlier.setup.trans onward.setup
  shift tasks := by
    obtain ⟨moves, more, arrived, ran⟩ := earlier.shift tasks
    obtain ⟨further, evenMore, arrivedToo, ranOn⟩ := onward.shift (tasks ++ more)
    refine ⟨moves ++ further, more ++ evenMore, ?_, ?_⟩
    · rw [← arrived, ← arrivedToo, Shift.arrived, List.filterMap_append]
      rfl
    · rw [Shift.run?_append, ran, Option.bind_some, ← earlier.setup.permits, ← earlier.setup.config,
        ranOn, List.append_assoc]

/-- A single move of a shift that starts no task. -/
theorem of_step?
    (move : Shift.Move Session)
    (setup : session.SameSetup later)
    (stepped :
      ∀ tasks,
        Shift.step? environment session.config
            ⟨reception, ⟨session.permits, tasks, session⟩, []⟩ move =
          some ⟨receptionLater, ⟨session.permits, tasks, later⟩, []⟩) :
    Proceeds session reception (Shift.arrived [move]) later receptionLater where
  setup := setup
  shift tasks := by
    refine ⟨[move], [], rfl, ?_⟩
    rw [Shift.run?, stepped tasks, List.append_nil]
    rfl

/-- The world of a session goes on. -/
theorem elsewhere
    (setup : session.SameSetup later)
    (reception : Reception) :
    Proceeds session reception [] later reception :=
  of_step? (.elsewhere fun _ => later) setup fun _ => rfl

/-- A download arrives. -/
theorem arrive
    (session : Session)
    (download : Download)
    (sourceOpen : reception.sourceOpen = true)
    (serving : reception.phase = .serving) :
    Proceeds session reception [download] session (reception.arrive download) :=
  of_step? (.arrive download) (.refl session) fun tasks => by
    simp [Shift.step?, sourceOpen, serving]

/-- The next download is received. -/
theorem receive
    {download : Download}
    {others : List Download}
    (serving : reception.phase = .serving)
    (first : reception.arrivals = download :: others)
    (free : session.permits.acquire? ≠ none) :
    Proceeds session reception [] (session.receive download).2
      { reception with arrivals := others } where
  setup := sameSetup_receive session download free
  shift tasks := by
    have serves :
        (⟨reception, ⟨session.permits, tasks, session⟩, []⟩ : Shift Session).reception.phase =
          .serving :=
      serving
    obtain ⟨count, ran⟩ :=
      Shift.run?_servingOne environment session.config serves first rfl free settle
    refine ⟨Shift.servingOne tasks.length count settle,
      [(Task.new download).conclude environment (session.runOf download) session],
      Shift.arrived_servingOne _ _ _, ran.trans ?_⟩
    rw [receive_of_free session download free]
    rfl

end Proceeds

section Serving

variable {reception : Reception}

theorem receiveArrivals_of_nil (empty : reception.arrivals = []) :
    session.receiveArrivals reception = (reception, session) := by
  unfold receiveArrivals
  split
  · rfl
  · rename_i download later taken
    simp [Reception.take?, empty] at taken

theorem receiveArrivals_of_cons
    {download : Download}
    {others : List Download}
    (serving : reception.phase = .serving)
    (first : reception.arrivals = download :: others) :
    session.receiveArrivals reception =
      (session.receive download).2.receiveArrivals { reception with arrivals := others } := by
  have taken :
      reception.take? =
        some (download,
          { reception with arrivals := others, underWay := reception.underWay + 1 }) := by
    simp [Reception.take?, serving, first]
  rw [receiveArrivals]
  split
  · rename_i untaken
    cases untaken.symm.trans taken
  · rename_i other later takenToo
    obtain ⟨rfl, rfl⟩ := Prod.mk.inj (Option.some.inj (takenToo.symm.trans taken))
    rfl

/-- What has arrived is received, one download after another. -/
theorem proceeds_receiveArrivals
    (serving : reception.phase = .serving)
    (free : session.permits.acquire? ≠ none) :
    (session.receiveArrivals reception).1 = { reception with arrivals := [] } ∧
      Proceeds session reception [] (session.receiveArrivals reception).2
        { reception with arrivals := [] } := by
  generalize waiting : reception.arrivals = arrivals
  induction arrivals generalizing session reception with
  | nil =>
      have same : { reception with arrivals := [] } = reception := by rw [← waiting]
      rw [receiveArrivals_of_nil waiting, same]
      exact ⟨rfl, .refl session reception⟩
  | cons download others inductionHypothesis =>
      have received := Proceeds.receive serving waiting free
      rw [receiveArrivals_of_cons serving waiting]
      have serves : ({ reception with arrivals := others } : Reception).phase = .serving := serving
      obtain ⟨emptied, onward⟩ := inductionHypothesis serves (received.setup.permits ▸ free) rfl
      exact ⟨emptied, received.trans onward⟩

theorem sameSetup_foldl_stage
    (stagings : List Staging)
    (session : Session) :
    session.SameSetup (stagings.foldl stage session) := by
  induction stagings generalizing session with
  | nil => exact .refl session
  | cons staging later inductionHypothesis =>
      have staged : session.SameSetup (session.stage staging) := ⟨rfl, rfl⟩
      exact staged.trans (inductionHypothesis (session.stage staging))

/-- Downloads that arrive one after another wait in the channel. -/
theorem proceeds_arriveAll
    (session : Session)
    (stagings : List Staging)
    (sourceOpen : reception.sourceOpen = true)
    (serving : reception.phase = .serving) :
    stagings.foldl (fun reception staging => reception.arrive staging.download) reception =
        { reception with
          arrivals := reception.arrivals ++ stagings.map fun staging => staging.download } ∧
      Proceeds session reception (stagings.map fun staging => staging.download) session
        { reception with
          arrivals := reception.arrivals ++ stagings.map fun staging => staging.download } := by
  induction stagings generalizing reception with
  | nil =>
      rw [List.map_nil, List.append_nil]
      exact ⟨rfl, .refl session reception⟩
  | cons staging later inductionHypothesis =>
      have arrives := Proceeds.arrive session staging.download sourceOpen serving
      have stillOpen : (reception.arrive staging.download).sourceOpen = true := sourceOpen
      obtain ⟨gathered, onward⟩ := inductionHypothesis stillOpen serving
      have regrouped :
          reception.arrivals ++ (staging :: later).map (fun staging => staging.download) =
            (reception.arrive staging.download).arrivals ++
              later.map fun staging => staging.download := by
        simp [Reception.arrive]
      rw [regrouped]
      exact ⟨gathered, arrives.trans onward⟩

/-- A download arrives while its location is marked, and is received. -/
theorem proceeds_arriveMarked
    (staging : Staging)
    (sourceOpen : reception.sourceOpen = true)
    (serving : reception.phase = .serving)
    (idle : reception.arrivals = [])
    (free : session.permits.acquire? ≠ none) :
    (session.arriveMarked reception staging).1 = reception ∧
      Proceeds session reception [staging.download] (session.arriveMarked reception staging).2
        reception := by
  let marked :=
    (session.stage staging).mapWorld fun world =>
      { world with downloads := (world.downloads.begin staging.download.location 0).2 }
  have kept : session.SameSetup marked := ⟨rfl, rfl⟩
  have marks := Proceeds.elsewhere kept reception
  have arrives := Proceeds.arrive marked staging.download sourceOpen serving
  obtain ⟨emptied, receives⟩ :=
    proceeds_receiveArrivals (show (reception.arrive staging.download).phase = .serving from serving)
      (show marked.permits.acquire? ≠ none from free)
  have same : { reception.arrive staging.download with arrivals := [] } = reception := by
    rw [← idle]
    rfl
  rw [same] at emptied receives
  exact ⟨emptied, marks.trans (arrives.trans receives)⟩

/-- Downloads arrive one after another, and each is received before the next arrives. -/
theorem proceeds_arriveAllMarked
    (stagings : List Staging)
    (sourceOpen : reception.sourceOpen = true)
    (serving : reception.phase = .serving)
    (idle : reception.arrivals = [])
    (free : session.permits.acquire? ≠ none) :
    ∃ later,
      stagings.foldl
          (fun (reception, session) staging => session.arriveMarked reception staging)
          (reception, session) =
        (reception, later) ∧
        Proceeds session reception (stagings.map fun staging => staging.download) later reception := by
  induction stagings generalizing session with
  | nil => exact ⟨session, rfl, .refl session reception⟩
  | cons staging others inductionHypothesis =>
      obtain ⟨emptied, arrives⟩ := proceeds_arriveMarked staging sourceOpen serving idle free
      obtain ⟨later, gathered, onward⟩ := inductionHypothesis (arrives.setup.permits ▸ free)
      refine ⟨later, ?_, arrives.trans onward⟩
      rw [List.foldl_cons, ← gathered]
      congr 1
      exact Prod.ext emptied rfl

/-- A reception whose channel is closed and empty ends. -/
theorem proceeds_conclude_of_closed
    (session : Session)
    (serving : reception.phase = .serving)
    (empty : reception.arrivals = [])
    (closed : reception.sourceOpen = false)
    (awaited : reception.underWay = 0) :
    Proceeds session reception [] (session.concludeReception reception)
      { reception with phase := .stopped } := by
  have notices :
      reception.noticeClosed? = some { reception with phase := .awaitingRuns } := by
    simp [Reception.noticeClosed?, serving, empty, closed]
  have finishes :
      Reception.finish? { reception with phase := .awaitingRuns } =
        some { reception with phase := .stopped } := by
    simp [Reception.finish?, awaited]
  have unchanged : session.concludeReception reception = session := by
    simp [concludeReception, notices, finishes]
  rw [unchanged]
  have noticed : Proceeds session reception [] session { reception with phase := .awaitingRuns } :=
    .of_step? .noticeClosed (.refl session) fun tasks => by simp [Shift.step?, notices]
  have finished :
      Proceeds session { reception with phase := .awaitingRuns } [] session
        { reception with phase := .stopped } :=
    .of_step? .finish (.refl session) fun tasks => by simp [Shift.step?, finishes]
  exact noticed.trans finished

/-- A reception whose channel is open ends on what it hears. -/
theorem proceeds_conclude_of_heed?
    {loss : Option SignalLoss}
    {ended : Reception}
    (session : Session)
    (sourceOpen : reception.sourceOpen = true)
    (heeds : reception.heed? = some (loss, ended)) :
    Proceeds session reception [] (session.concludeReception reception) ended := by
  have unnoticed : reception.noticeClosed? = none := by
    simp [Reception.noticeClosed?, sourceOpen]
  have noted :
      session.concludeReception reception = Shift.noteLoss environment session loss := by
    cases loss with
    | none => simp [concludeReception, unnoticed, heeds, Shift.noteLoss]
    | some loss =>
        simp [concludeReception, unnoticed, heeds, Shift.noteLoss]
        rfl
  rw [noted]
  have kept : session.SameSetup (Shift.noteLoss environment session loss) := by
    cases loss with
    | none => exact .refl session
    | some loss => exact ⟨rfl, rfl⟩
  exact .of_step? .heed kept fun tasks => by simp [Shift.step?, heeds]

/-- A reception learns how it comes to its end. -/
theorem proceeds_applyEnd
    (session : Session)
    (reception : Reception)
    (receptionEnd : ReceptionEnd) :
    Proceeds session reception [] session (applyEnd reception receptionEnd) := by
  have signals (reception : Reception) (signal : Signal) :
      Proceeds session reception [] session
        { reception with signals := reception.signals.push signal } :=
    .of_step? (.signal signal) (.refl session) fun _ => rfl
  cases receptionEnd with
  | closed => exact .of_step? .closeSource (.refl session) fun _ => rfl
  | signalled signal => exact signals reception signal
  | signalsDropped => exact .of_step? .disconnect (.refl session) fun _ => rfl
  | signalsLagged => exact (signals reception .shutdown).trans (signals _ .shutdown)

end Serving

/-- A reception that has been told of a signal, or has lost the sender, heeds it. -/
theorem exists_heed?_applyEnd
    {reception : Reception}
    {receptionEnd : ReceptionEnd}
    (serving : reception.phase = .serving)
    (unclosed : receptionEnd ≠ .closed) :
    ∃ loss ended,
      (applyEnd reception receptionEnd).heed? = some (loss, ended) ∧ ended.phase = .stopped := by
  have heeds
      {signals : SignalInbox}
      (speaks : signals.receive? ≠ none) :
      ∃ loss ended,
        Reception.heed? { reception with signals := signals } = some (loss, ended) ∧
          ended.phase = .stopped := by
    obtain ⟨⟨heard, rest⟩, received⟩ := Option.ne_none_iff_exists'.mp speaks
    simp only [Reception.heed?, serving, received, if_true, Option.map_some]
    exact ⟨_, _, rfl, rfl⟩
  cases receptionEnd with
  | closed => exact absurd rfl unclosed
  | signalled signal => exact heeds (SignalInbox.receive?_push_ne_none _ _)
  | signalsDropped => exact heeds (SignalInbox.receive?_disconnect_ne_none _)
  | signalsLagged => exact heeds (SignalInbox.receive?_push_ne_none _ _)

/-- All downloads may arrive before the first is received, and then the channel closes. -/
theorem proceeds_serve_together
    (session : Session)
    (stagings : List Staging)
    (single : session.permits.limit = some 1)
    (free : session.permits.acquire? ≠ none) :
    ∃ reception,
      reception.phase = .stopped ∧
        Proceeds session (.new 1) (stagings.map fun staging => staging.download)
          (session.serve stagings .closed) reception := by
  let staged := stagings.foldl stage session
  have stages := Proceeds.elsewhere (sameSetup_foldl_stage stagings session) (.new 1)
  let filled : Reception :=
    { Reception.new 1 with
      arrivals := (Reception.new 1).arrivals ++ stagings.map fun staging => staging.download }
  obtain ⟨gathered, arrives⟩ :
      stagings.foldl (fun reception staging => reception.arrive staging.download) (.new 1) =
          filled ∧
        Proceeds staged (.new 1) (stagings.map fun staging => staging.download) staged filled :=
    proceeds_arriveAll staged stagings rfl rfl
  have closes := proceeds_applyEnd staged filled .closed
  have freeThere : staged.permits.acquire? ≠ none := by
    rw [stages.setup.permits]
    exact free
  have serving : filled.closeSource.phase = .serving := rfl
  obtain ⟨emptied, receives⟩ := proceeds_receiveArrivals serving freeThere
  have stillServing : ({ filled.closeSource with arrivals := [] } : Reception).phase = .serving :=
    rfl
  have concludes :=
    proceeds_conclude_of_closed (staged.receiveArrivals filled.closeSource).2 stillServing rfl rfl rfl
  have ends := stages.trans (arrives.trans (closes.trans (receives.trans concludes)))
  refine ⟨{ filled.closeSource with arrivals := [], phase := .stopped }, rfl, ?_⟩
  rw [serve, if_pos ⟨rfl, single⟩, gathered]
  dsimp only
  rw [emptied]
  simpa using ends

/-- What a session does to serve downloads, a shift can do in which they arrive. -/
theorem proceeds_serve
    (session : Session)
    (stagings : List Staging)
    (receptionEnd : ReceptionEnd)
    (free : session.permits.acquire? ≠ none) :
    ∃ reception,
      reception.phase = .stopped ∧
        Proceeds session (.new 1) (stagings.map fun staging => staging.download)
          (session.serve stagings receptionEnd) reception := by
  by_cases together : receptionEnd = .closed ∧ session.permits.limit = some 1
  · obtain ⟨rfl, single⟩ := together
    exact proceeds_serve_together session stagings single free
  · have isOpen : (Reception.new 1).sourceOpen = true := rfl
    obtain ⟨later, gathered, arrives⟩ := proceeds_arriveAllMarked stagings isOpen rfl rfl free
    have told := arrives.trans (proceeds_applyEnd later (.new 1) receptionEnd)
    rw [serve, if_neg together, gathered]
    by_cases closing : receptionEnd = .closed
    · subst closing
      have ends := told.trans (proceeds_conclude_of_closed later rfl rfl rfl rfl)
      exact ⟨_, rfl, by simpa using ends⟩
    · have serving : (Reception.new 1).phase = .serving := rfl
      obtain ⟨loss, ended, heeds, stopped⟩ := exists_heed?_applyEnd serving closing
      have stillOpen : (applyEnd (.new 1) receptionEnd).sourceOpen = true := by
        cases receptionEnd with
        | closed => exact absurd rfl closing
        | _ => rfl
      have ends := told.trans (proceeds_conclude_of_heed? later stillOpen heeds)
      exact ⟨ended, stopped, by simpa using ends⟩

/-- What a session does to serve downloads is what a shift of its own may do: the downloads arrive one after
another, the reception ends, and the world is left as the session leaves it. -/
theorem run?_serve
    (session : Session)
    (stagings : List Staging)
    (receptionEnd : ReceptionEnd)
    (free : session.permits.acquire? ≠ none) :
    ∃ moves shift,
      Shift.run? environment session.config moves (.new session.permits 1 session) = some shift ∧
        Shift.arrived moves = stagings.map (fun staging => staging.download) ∧
        shift.reception.phase = .stopped ∧
        shift.crew.permits = session.permits ∧
        shift.crew.world = session.serve stagings receptionEnd := by
  obtain ⟨reception, stopped, proceeds⟩ := proceeds_serve session stagings receptionEnd free
  obtain ⟨moves, more, arrived, ran⟩ := proceeds.shift []
  exact ⟨moves, _, ran, arrived, stopped, rfl, rfl⟩

end Scenario.Session

end MmsInbox
