import MmsInbox.Proofs.Ack.Addressing
import MmsInbox.Proofs.Engine.Order
import MmsInbox.Proofs.Receive.Answering
import MmsInbox.Proofs.Receive.Independence

namespace MmsInbox.Engine

/-!
# Where the acknowledgments of a run go

Every request that the lane of an engine posts is posted for a task that one of the runs has handed over
(`Followed`). If acknowledgments go to content locations, it goes to the location that the download of this
run names (`Addressed`). The transaction that is acknowledged is that of the notification which the run has
loaded. So a notification is answered at its own location exactly if the download names the same location,
and nothing makes sure that it does (`not_forall_posted_where_notified`).
-/

open Program

namespace Run

/-- The tasks that the run has handed to the lane, or is handing to it. -/
def handed (run : Run) : List AckTask :=
  run.submitted ++ run.underHand

/-- The subscription of the run. -/
def subscription
    (config : Config)
    (run : Run) :
    Subscription :=
  run.download.subscription.getD config.defaultSubscription

variable
  {σ : Type}
  {config : Config}
  {traffic : Traffic σ}
  {number : Nat}
  {run : Run}
  {task : AckTask}

/-- A notification that has been loaded when tasks are handed over was loaded before. -/
theorem hasLoaded_of_submit
    {download : Download}
    {record : History}
    {tasks : List AckTask}
    {notification : Notification}
    (loaded :
      Receive.HasLoaded download (record ++ [.answered (.submit tasks) ()]) notification) :
    Receive.HasLoaded download record notification := by
  obtain ⟨uri, named, happened⟩ := loaded
  refine ⟨uri, named, ?_⟩
  rcases List.mem_append.mp happened with earlier | now
  · exact earlier
  · cases List.mem_singleton.mp now

/-- A run that is handing tasks to the lane is at their submission. -/
theorem asking_of_mem_underHand (member : task ∈ run.underHand) :
    ∃ answered panicked, run.rest = .ask (.submit run.underHand) answered panicked := by
  unfold underHand at member ⊢
  split at member
  · rename_i asking
    exact ⟨_, _, asking⟩
  · cases member

/-- Whatever a run hands over is among the answers to a notification which it has loaded. -/
theorem Sound.answers
    (sound : run.Sound config traffic number)
    (member : task ∈ run.handed) :
    ∃ notification tasks,
      Receive.Answers run.download (run.subscription config) run.record notification tasks ∧
        task ∈ tasks ∧ tasks ⊆ run.handed := by
  rcases List.mem_append.mp member with submitted | underHand
  · obtain ⟨call, put, among⟩ := List.mem_flatMap.mp submitted
    cases call with
    | submit tasks =>
        obtain ⟨notification, answers⟩ := Receive.answers_of_leads sound.course put
        refine ⟨notification, tasks, answers, among, fun other also => ?_⟩
        exact List.mem_append_left _ (List.mem_flatMap.mpr ⟨_, put, also⟩)
    | _ => cases among
  · obtain ⟨answered, panicked, asking⟩ := asking_of_mem_underHand underHand
    -- The tasks are looked at as if the lane had taken them over already.
    have further :
        Leads run.rest [.answered (.submit run.underHand) ()] (answered ()) := by
      rw [asking]
      exact @Leads.answered _ (.submit _) answered panicked [] (answered ()) () (.here _)
    have handing :
        Call.submit run.underHand ∈
          History.calls (run.record ++ [.answered (.submit run.underHand) ()]) := by
      simp
    obtain ⟨notification, answers⟩ :=
      Receive.answers_of_leads (sound.course.trans further) handing
    refine ⟨notification, run.underHand, ?_, underHand, List.subset_append_right _ _⟩
    generalize run.underHand = tasks at answers
    cases answers with
    | intro retrieval lineNumber loaded =>
        exact .intro retrieval lineNumber (hasLoaded_of_submit loaded)

/-- A task of a run is about the location of its download, and goes with the response to a notification
which the run has loaded. -/
structure AnswersAt
    (run : Run)
    (task : AckTask)
    (notification : Notification) :
    Prop where
  location : task.location = run.download.location
  loaded : Receive.HasLoaded run.download run.record notification
  response :
    ∃ response ∈ run.handed,
      response.attempt = .notificationResponse notification.transactionId

theorem Sound.exists_answersAt
    (sound : run.Sound config traffic number)
    (member : task ∈ run.handed) :
    ∃ notification, run.AnswersAt task notification := by
  obtain ⟨notification, tasks, answers, among, within⟩ := sound.answers member
  cases answers with
  | intro retrieval lineNumber loaded =>
      refine ⟨notification, Receive.location_of_acknowledgments among, loaded, _,
        within (List.mem_append_right _ (List.mem_singleton.mpr rfl)), rfl⟩

end Run

variable
  {σ : Type}
  {surroundings : Surroundings σ}
  {config : Config}
  {engine later : Engine σ}
  {moves : List (Move σ)}

/-- Every task that is pushed was handed over by a run. -/
theorem Tended.exists_run
    {task : AckTask}
    (tended : engine.Tended config)
    (member : task ∈ engine.traffic.pushed) :
    ∃ run ∈ engine.runs, task ∈ run.handed := by
  obtain ⟨push, pushed, rfl⟩ := List.mem_map.mp member
  have present := List.getElem?_eq_getElem (tended.owned pushed)
  have own : push.task ∈ engine.traffic.pushedBy push.owner :=
    List.mem_map_of_mem (List.mem_filter.mpr ⟨pushed, decide_eq_true rfl⟩)
  refine ⟨_, List.mem_of_getElem? present, ?_⟩
  rw [Run.handed, ← (tended.sound present).handed]
  exact List.mem_append_left _ own

/-- The runs of an engine are tended, and its lane deals with nothing but what they have pushed. -/
structure Followed
    (config : Config)
    (engine : Engine σ) :
    Prop where
  tended : engine.Tended config
  traced : engine.traffic.Traced config.acknowledgment

namespace Followed

theorem new
    (permits : Receive.Permits)
    (signalCapacity : Nat)
    (world : σ) :
    (Engine.new permits signalCapacity world).Followed config :=
  ⟨.new permits signalCapacity world, .new signalCapacity world⟩

/-- Whatever happens in an engine can be followed. -/
theorem step
    (followed : engine.Followed config)
    (goes : engine.Goes surroundings config later) :
    later.Followed config := by
  refine ⟨followed.tended.step goes, ?_⟩
  rcases goes.passes with same | ⟨move, stepped⟩
  · exact same ▸ followed.traced
  · exact followed.traced.step stepped

theorem run
    (followed : engine.Followed config)
    (ran : run? surroundings config moves engine = some later) :
    later.Followed config := by
  induction moves generalizing engine with
  | nil =>
      obtain rfl := Option.some.inj ran
      exact followed
  | cons move moves inductionHypothesis =>
      obtain ⟨next, stepped, ranOn⟩ := Option.bind_eq_some_iff.mp ran
      exact inductionHypothesis (followed.step (goes_of_step? stepped)) ranOn

end Followed

/-- Every acknowledgment goes to the location that the download of its run names. -/
structure Addressed
    (config : Config)
    (engine : Engine σ) :
    Prop where
  /-- Whatever the lane has posted was posted for a task of a run. -/
  owned
    {request : Http.Request}
    (posted : .post request ∈ engine.traffic.record.calls) :
    ∃ run ∈ engine.runs, ∃ task ∈ run.handed,
      Ack.Posts config.acknowledgment task engine.traffic.record request
  /-- A task of a run answers a notification which the run has loaded, and is posted at the location of
  this notification if the download names the same one, and only then. -/
  addressed
    {run : Run}
    {task : AckTask}
    (member : run ∈ engine.runs)
    (handed : task ∈ run.handed) :
    ∃ notification,
      run.AnswersAt task notification ∧
        ∀ request, Ack.Posts config.acknowledgment task engine.traffic.record request →
          request.url = run.download.location ∧
            (request.url = notification.location ↔
              run.download.location = notification.location)

theorem Followed.addressed
    (followed : engine.Followed config)
    (enabled : config.acknowledgment.toContentLocation = true) :
    engine.Addressed config where
  owned posted := by
    obtain ⟨task, pushed, posts⟩ := followed.traced.posted posted
    obtain ⟨run, member, handed⟩ := followed.tended.exists_run pushed
    exact ⟨run, member, task, handed, posts⟩
  addressed member handed := by
    obtain ⟨number, present⟩ := List.mem_iff_getElem?.mp member
    obtain ⟨notification, answersAt⟩ := (followed.tended.sound present).exists_answersAt handed
    refine ⟨notification, answersAt, fun request posts => ?_⟩
    have url := (posts.url_eq enabled).trans answersAt.location
    exact ⟨url, by rw [url]⟩

/-- If acknowledgments go to content locations, then whatever happens in an engine, every one that is posted
goes to the location that the download of its run names, which need not be that of the notification it
answers. -/
theorem posted_where_downloaded
    (surroundings : Surroundings σ)
    (config : Config)
    (permits : Receive.Permits)
    (signalCapacity : Nat)
    (world : σ)
    (moves : List (Move σ))
    {engine : Engine σ}
    (enabled : config.acknowledgment.toContentLocation = true)
    (ran : run? surroundings config moves (.new permits signalCapacity world) = some engine) :
    engine.Addressed config :=
  ((Followed.new permits signalCapacity world).run ran).addressed enabled

/-- The configuration with acknowledgments to content locations. -/
def toContent : Config :=
  { Config.standard with
    acknowledgment := { AckSettings.standard with toContentLocation := true } }

/-- The notification of a greeting is stored with another location than its download names, and the lane
can post. -/
def astray : Surroundings Unit :=
  ⟨Ack.proxiedWorld,
    Receive.greetingWorld (.ok ⟨"N7", "http://relay.example/8", none, none⟩) (.ok 1) none (some 5)⟩

/-- A greeting arrives, its run hands two tasks to the lane, and the lane sends them. -/
def oneGreeting : List (Move Unit) :=
  [.arrive Receive.announcedGreeting, .take, .acquire 0] ++ List.replicate 9 (.advance 0) ++
    [.push 0, .push 0, .resume 0] ++ List.replicate 16 .work

/-- The locations of the notifications that have been loaded. -/
def loadedLocations (record : History) : List String :=
  record.filterMap fun
    | .answered (.load _) (.ok notification) => some notification.location
    | _ => none

theorem mem_loadedLocations
    {download : Download}
    {record : History}
    {notification : Notification}
    (loaded : Receive.HasLoaded download record notification) :
    notification.location ∈ loadedLocations record := by
  obtain ⟨uri, _, happened⟩ := loaded
  exact List.mem_filterMap.mpr ⟨_, happened, rfl⟩

/-- The lane has posted for the greeting, whose run has loaded no notification with the location of its
download. -/
theorem oneGreeting_posts :
    (run? astray toContent oneGreeting (.new ⟨none, 0⟩ 1 ())).any (fun engine =>
      engine.traffic.record.calls.any Ack.isPost &&
        engine.runs.all fun run => !(loadedLocations run.record).contains run.download.location) =
      true := by
  decide +kernel

theorem exists_oneGreeting :
    ∃ engine request,
      run? astray toContent oneGreeting (.new ⟨none, 0⟩ 1 ()) = some engine ∧
        .post request ∈ engine.traffic.record.calls ∧
        ∀ run ∈ engine.runs, run.download.location ∉ loadedLocations run.record := by
  obtain ⟨engine, ran, holds⟩ := (Option.any_eq_true _ _).mp oneGreeting_posts
  simp only [Bool.and_eq_true, List.any_eq_true, List.all_eq_true, Bool.not_eq_true',
    List.contains_eq_mem, decide_eq_false_iff_not] at holds
  obtain ⟨⟨call, put, posting⟩, apart⟩ := holds
  cases call with
  | post request => exact ⟨engine, request, ran, put, apart⟩
  | _ => cases posting

/-- The acknowledgments of the greeting go to the location from which it was downloaded. -/
theorem posted_where_downloaded_oneGreeting :
    toContent.acknowledgment.toContentLocation = true ∧
    ∃ engine request,
      run? astray toContent oneGreeting (.new ⟨none, 0⟩ 1 ()) = some engine ∧
        .post request ∈ engine.traffic.record.calls ∧ engine.Addressed toContent := by
  obtain ⟨engine, request, ran, posted, _⟩ := exists_oneGreeting
  exact ⟨rfl, engine, request, ran, posted,
    posted_where_downloaded astray toContent ⟨none, 0⟩ 1 () oneGreeting rfl ran⟩

/-- Not every acknowledgment goes to the location of the notification that it answers: that of a greeting
goes where the greeting was downloaded from, also if the notification that was loaded gives another
location. -/
theorem not_forall_posted_where_notified :
    ¬ ∀ (surroundings : Surroundings Unit) (config : Config) (permits : Receive.Permits)
        (signalCapacity : Nat) (moves : List (Move Unit)) (engine : Engine Unit),
      config.acknowledgment.toContentLocation = true →
      run? surroundings config moves (.new permits signalCapacity ()) = some engine →
      ∀ run ∈ engine.runs, ∀ task ∈ run.handed, ∀ notification,
        run.AnswersAt task notification →
        ∀ request, Ack.Posts config.acknowledgment task engine.traffic.record request →
          request.url = notification.location := by
  intro notified
  obtain ⟨engine, request, ran, posted, apart⟩ := exists_oneGreeting
  have addressed := ((Followed.new ⟨none, 0⟩ 1 ()).run ran).addressed rfl
  obtain ⟨run, member, task, handed, posts⟩ := addressed.owned posted
  obtain ⟨notification, answersAt, sent⟩ := addressed.addressed member handed
  have same :=
    notified astray toContent _ _ _ engine rfl ran run member task handed notification answersAt
      request posts
  have downloaded := (sent request posts).2.mp same
  exact apart run member (downloaded ▸ mem_loadedLocations answersAt.loaded)

end MmsInbox.Engine
